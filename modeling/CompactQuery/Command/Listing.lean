import CompactQuery.Command.Style
import CompactQuery.Query.Segment

/-!
# Listings — what the program prints about queries and sigils

* **`listing`** — the segments of a query, one a line, and both forms of the whole.
* **`sigilTable`** — what each sigil means.
-/

namespace CompactQuery.Command

/-- A line from its spans. -/
def line (spans : List Span) : List Span := spans ++ [.plain "\n"]

/-- A blank between two columns. -/
def gap : Span := .plain " "

/-- What every line below a heading starts with. -/
def indent : Span := .plain "  "

/-! ## The segments of a query -/

/-- A segment: its sigil, its kind in a column of its own, and its body. -/
def segmentLine (segment : Segment) : List Span :=
  line
    [indent, .styled .boldCyan segment.kind.sigil.toString, gap,
      .styled .dimmed (column 7 segment.kind.name), gap, .styled .white segment.body]

/-- The segments of a query, and below them the compact form as it is and for a URL. -/
def listing (query : Query) : List Span :=
  line [.styled .boldCyan "ShortSQL Explanation"]
    ++ line []
    ++ line [.styled .boldGreen "Segments:"]
    ++ query.segments.flatMap segmentLine
    ++ line []
    ++ line [.styled .boldGreen "ShortSQL:"]
    ++ line [indent, .styled .white (query.render false)]
    ++ line [.styled .boldGreen "URL-safe:"]
    ++ line [indent, .styled .white (query.render true)]

/-! ## The meaning of the sigils -/

/-- A row of the table of sigils. -/
structure SigilRow where
  sigil : String
  segment : String
  content : String
  sample : String

/-- The rows of the table: the kinds of segment in their order, then what separates segments. -/
def sigilRows : List SigilRow :=
  [⟨"@", "Table", "Target table", "@users"⟩,
    ⟨"+", "Join", "Joined table and its conditions", "+roles||users.role|=|roles.id"⟩,
    ⟨"[", "Fields", "Projected fields, name:alias", "[id,email:mail"⟩,
    ⟨"?", "Where", "Conditions, connector|field|op|value", "?age|>|18||and|active|=|1"⟩,
    ⟨">", "Order", "Ordered field, :dir when directed", ">created:dir"⟩,
    ⟨"-", "Limit", "Count and optional offset", "-10:20"⟩,
    ⟨"[", "Group", "Group-by fields (last segment)", "[role"⟩,
    ⟨"~", "Split", "Separates segments", "@users~[id"⟩]

/-- A row in four columns with a style each. -/
def SigilRow.spans (row : SigilRow) (first second third fourth : Style) : List Span :=
  line
    [.styled first (column 8 row.sigil), gap, .styled second (column 8 row.segment), gap,
      .styled third (column 40 row.content), gap, .styled fourth row.sample]

/-- The table of sigils, below its headings. -/
def sigilTable : List Span :=
  let headings : SigilRow := ⟨"Symbol", "Segment", "Content", "Example"⟩
  line [.styled .boldCyan "ShortSQL Symbol Reference"]
    ++ line []
    ++ headings.spans .boldWhite .boldWhite .boldWhite .boldWhite
    ++ line [.styled .dimmed (String.ofList (List.replicate 90 '─'))]
    ++ sigilRows.flatMap fun row => row.spans .boldCyan .yellow .white .dimmed

end CompactQuery.Command
