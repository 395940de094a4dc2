import CompactQuery.Query.Basic
import CompactQuery.Text.Percent

/-!
# Segments — the compact form of a query

The compact form is a list of segments between tildes, each a sigil and a body. Segments come in one
fixed order, whatever the order of the steps: the table, a segment for each join, the fields, the
filter, a segment for each sort key, the limit, the groups. A segment without content is left out.
Fields and groups share a sigil; only their place tells them apart.

* **`SegmentKind`** — the seven kinds, with sigil and name; **`Segment`** — a kind and a body.
* **`Query.segments`** — the segments of a query; **`Query.compact`** — the compact form.
* **`Query.urlForm`** — the compact form, percent-encoded; **`Query.render`** — one of the two.
-/

namespace CompactQuery

/-- What a segment carries. -/
inductive SegmentKind where
  | table | join | fields | filter | order | limit | groups
deriving Repr, DecidableEq

namespace SegmentKind

/-- All kinds, in the order of the compact form. -/
def all : List SegmentKind := [.table, .join, .fields, .filter, .order, .limit, .groups]

/-- The first character of a segment of this kind. -/
def sigil : SegmentKind → Char
  | .table => '@'
  | .join => '+'
  | .fields => '['
  | .filter => '?'
  | .order => '>'
  | .limit => '-'
  | .groups => '['

/-- The name that listings show. -/
def name : SegmentKind → String
  | .table => "table"
  | .join => "join"
  | .fields => "fields"
  | .filter => "where"
  | .order => "order"
  | .limit => "limit"
  | .groups => "group"

end SegmentKind

/-- One part of the compact form. -/
structure Segment where
  kind : SegmentKind
  body : String
deriving Repr, DecidableEq

/-- The sigil and the body. -/
def Segment.text (segment : Segment) : String := segment.kind.sigil.toString ++ segment.body

/-- Between two segments. -/
def segmentSeparator : String := "~"

/-- Between the items of a segment that lists names. -/
def itemSeparator : String := ","

/-- One segment with all items, or none if there are no items. -/
def Segment.ofItems (kind : SegmentKind) (separator : String) : List String → List Segment
  | [] => []
  | items => [⟨kind, separator.intercalate items⟩]

namespace Query

/-- The segments of a query. -/
def segments (query : Query) : List Segment :=
  [⟨.table, query.table⟩]
    ++ query.joins.map (fun join => ⟨.join, join.token⟩)
    ++ Segment.ofItems .fields itemSeparator (query.fields.map Field.token)
    ++ Segment.ofItems .filter conditionSeparator (query.conditions.map Condition.token)
    ++ query.order.map (fun key => ⟨.order, key.token⟩)
    ++ query.limit.toList.map (fun limit => ⟨.limit, limit.token⟩)
    ++ Segment.ofItems .groups itemSeparator query.groups

/-- The compact form. -/
def compact (query : Query) : String :=
  segmentSeparator.intercalate (query.segments.map Segment.text)

/-- The compact form as a part of a URL. -/
def urlForm (query : Query) : String := Percent.encode query.compact

/-- The compact form, percent-encoded if it is to go into a URL. -/
def render (query : Query) (urlSafe : Bool) : String :=
  if urlSafe then query.urlForm else query.compact

end Query

end CompactQuery
