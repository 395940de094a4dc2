import CompactQuery.Proofs.Command.Colours
import CompactQuery.Proofs.Command.Forms
import CompactQuery.Proofs.Query.Clean

/-!
# Account — what a listing says about its query

A listing is meant to be looked at, but its lines can be read back: a line for each segment between
a heading and an empty line, with the sigil, the kind and the body in columns of their own, and below
two more headings the compact form of the whole, plain and for a URL. If no text that shows has a
line break, the lines are where they are expected, and all that they say agrees: the segments, put
together, are the plain form, and the form for a URL decodes to it.

* **`linesOf`**, **`lineBelow?`**, **`segmentRows`** — the lines of any text, and those below a
  heading.
* **`rowKind`**, **`rowText`** — what a line says about a segment, read column by column.
* **`notMem_listingLines`** — no control character is in a line but for a text that shows;
  **`linesOf_listing`** — the lines of a listing.
* **`AsksToExplain`** — the command lines that ask for a listing.
* **`listing_accounts`** — what is read off a listing, and what other runs print.
-/

namespace CompactQuery.Command

/-! ## Reading lines

Nothing here knows of listings: these are readings of any text. -/

/-- The lines of a text. What stands behind the last line break is a line as well. -/
def linesOf (text : String) : List String := (text.toList.splitOn '\n').map String.ofList

/-- The lines below the first one that is the heading. -/
def linesBelow (heading text : String) : List String :=
  ((linesOf text).dropWhile (· ≠ heading)).tail

def lineBelow? (heading text : String) : Option String := (linesBelow heading text).head?

/-- The lines below the heading of the segments, up to an empty one. -/
def segmentRows (text : String) : List String := (linesBelow "Segments:" text).takeWhile (· ≠ "")

/-- The kind in the seven columns behind the fourth, without the blanks that fill them up. -/
def rowKind (row : String) : String :=
  String.ofList (((row.toList.drop 4).take 7).takeWhile (· ≠ ' '))

/-- The sigil in the third column, and all that stands behind the kind and a blank. -/
def rowText (row : String) : String :=
  String.ofList ((row.toList.drop 2).take 1 ++ row.toList.drop 12)

theorem linesOf_join {lines : List String} (h : ∀ line ∈ lines, '\n' ∉ line.toList) :
    linesOf (String.join (lines.map (· ++ "\n"))) = lines ++ [""] := by
  induction lines with
  | nil => rfl
  | cons line lines ih =>
      rw [List.forall_mem_cons] at h
      have hlist : (String.join ((line :: lines).map (· ++ "\n"))).toList
          = line.toList ++ '\n' :: (String.join (lines.map (· ++ "\n"))).toList := by
        rw [List.map_cons, String.join_cons, String.toList_append, String.toList_append,
          List.append_assoc]
        rfl
      have htail := ih h.2
      -- the line has no break of its own, so the text is split behind it
      rw [linesOf] at htail ⊢
      rw [hlist, List.splitOn_append_cons_self_of_not_mem h.1, List.map_cons, htail,
        String.ofList_toList, List.cons_append]

theorem linesBelow_of_split {heading text : String} {before behind : List String}
    (h : linesOf text = before ++ heading :: behind) (hbefore : ∀ line ∈ before, line ≠ heading) :
    linesBelow heading text = behind := by
  rw [linesBelow, h, List.dropWhile_append_of_pos fun line hline =>
    decide_eq_true (hbefore line hline), List.dropWhile_cons_of_neg (by simp), List.tail_cons]

/-! ## The lines of a listing -/

def rowOf (segment : Segment) : String :=
  "  " ++ segment.kind.sigil.toString ++ " " ++ column 7 segment.kind.name ++ " " ++ segment.body

def listingLines (query : Query) : List String :=
  ["ShortSQL Explanation", "", "Segments:"] ++ query.segments.map rowOf
    ++ ["", "ShortSQL:", "  " ++ query.render false, "URL-safe:", "  " ++ query.render true]

theorem toList_rowOf (segment : Segment) :
    (rowOf segment).toList
      = ' ' :: ' ' :: segment.kind.sigil :: ' ' ::
        ((column 7 segment.kind.name).toList ++ ' ' :: segment.body.toList) := by
  simp [rowOf]

theorem length_kindColumn (kind : SegmentKind) : (column 7 kind.name).toList.length = 7 := by
  cases kind <;> decide

theorem rowText_rowOf (segment : Segment) : rowText (rowOf segment) = segment.text := by
  have hbody : (rowOf segment).toList.drop 12 = segment.body.toList := by
    -- four characters in front of the column, seven in it, and a blank behind it
    have hwidth : ((column 7 segment.kind.name).toList ++ ' ' :: segment.body.toList).drop
        ((column 7 segment.kind.name).toList.length + 1) = segment.body.toList := by
      rw [List.drop_length_add_append, List.drop_succ_cons, List.drop_zero]
    rw [length_kindColumn] at hwidth
    rw [toList_rowOf]
    exact hwidth
  rw [rowText, hbody, toList_rowOf, Segment.text, ← String.toList_inj]
  simp

theorem rowKind_rowOf (segment : Segment) : rowKind (rowOf segment) = segment.kind.name := by
  have hcolumn : ((rowOf segment).toList.drop 4).take 7
      = (column 7 segment.kind.name).toList := by
    rw [toList_rowOf]
    exact List.take_left' (length_kindColumn segment.kind)
  have hname : (column 7 segment.kind.name).toList.takeWhile (· ≠ ' ')
      = segment.kind.name.toList := by
    cases segment.kind <;> decide
  rw [rowKind, hcolumn, hname, String.ofList_toList]

theorem shownAll_line (spans : List Span) :
    shownAll false (line spans) = shownAll false spans ++ "\n" := by
  rw [line, shownAll_append, shownAll_plain]

theorem shownAll_segmentLine (segment : Segment) :
    shownAll false (segmentLine segment) = rowOf segment ++ "\n" := by
  rw [segmentLine, shownAll_line]
  rfl

theorem shownAll_flatMap_segmentLine (segments : List Segment) :
    shownAll false (segments.flatMap segmentLine)
      = String.join ((segments.map rowOf).map (· ++ "\n")) := by
  induction segments with
  | nil => rfl
  | cons segment segments ih =>
      rw [List.flatMap_cons, shownAll_append, shownAll_segmentLine, ih, List.map_cons,
        List.map_cons, String.join_cons]

theorem shownAll_listing (query : Query) :
    shownAll false (listing query) = String.join ((listingLines query).map (· ++ "\n")) := by
  -- without colours a span is its text, whatever its style
  have hhead (text : String) (style : Style) :
      shownAll false (line [.styled style text]) = text ++ "\n" := by
    rw [shownAll_line]
    simp [shownAll, Span.shown, Span.styled]
  have hbody (text : String) (style : Style) :
      shownAll false (line [indent, .styled style text]) = "  " ++ text ++ "\n" := by
    rw [shownAll_line]
    simp [shownAll, Span.shown, Span.styled, indent, Span.plain]
  have hempty : shownAll false (line []) = "" ++ "\n" := by
    rw [shownAll_line]
    rfl
  simp only [listing, listingLines, shownAll_append, hhead, hbody, hempty,
    shownAll_flatMap_segmentLine, List.map_append, List.map_cons, List.map_nil,
    String.join_append, String.join_cons, String.join_nil, String.append_empty,
    String.append_assoc]

section

variable {query : Query}

/-- **A control character is in a line only if it is in a text that shows.** Headings, kinds, marks
and digits are printable, and so is all that is encoded. -/
theorem notMem_listingLines {c : Char} (hc : c.toNat < 32)
    (h : ∀ text ∈ query.shownTexts, c ∉ text.toList) :
    ∀ line ∈ listingLines query, c ∉ line.toList := by
  -- what is printed whatever the query is has no control characters
  have hfixed {text : List Char} (htext : text.all (32 ≤ ·.toNat)) : c ∉ text := by
    intro hmem
    have hle := of_decide_eq_true (List.all_eq_true.mp htext c hmem)
    exact absurd hc (Nat.not_lt.mpr hle)
  have hmark : c ∉ Query.segmentMarks := hfixed (by decide)
  have hhidden : ¬ Percent.IsVisible c := fun hvisible => absurd hc (Nat.lt_asymm hvisible.1)
  have hdigit : c.isDigit = false := by
    rw [← Bool.not_eq_true]
    intro hdigit
    exact hhidden (Percent.isVisible_of_isAlphanum (by rw [Char.isAlphanum, hdigit, Bool.or_true]))
  have hrows : ∀ row ∈ query.segments.map rowOf, c ∉ row.toList := by
    rw [List.forall_mem_map]
    intro segment hsegment
    have hsigil : c ∉ segment.kind.sigil.toString.toList :=
      hfixed (by cases segment.kind <;> decide)
    have hcolumn : c ∉ (column 7 segment.kind.name).toList :=
      hfixed (by cases segment.kind <;> decide)
    have hbody := Query.notMem_body hmark hdigit h segment hsegment
    simp only [rowOf, String.toList_append, List.mem_append, not_or]
    exact ⟨⟨⟨⟨⟨hfixed (by decide), hsigil⟩, hfixed (by decide)⟩, hcolumn⟩, hfixed (by decide)⟩,
      hbody⟩
  have hplain : c ∉ (query.render false).toList :=
    Query.notMem_compact hmark hdigit (hfixed (by decide)) h
  have hencoded : c ∉ (query.render true).toList :=
    fun hmem => hhidden (Percent.isVisible_encode query.compact _ hmem)
  have hindented {text : String} (htext : c ∉ text.toList) : c ∉ ("  " ++ text).toList := by
    rw [String.toList_append, List.mem_append, not_or]
    exact ⟨hfixed (by decide), htext⟩
  have hheadings : ∀ line ∈ ["ShortSQL Explanation", "", "Segments:"], c ∉ line.toList := by
    simp only [List.forall_mem_cons]
    exact ⟨hfixed (by decide), hfixed (by decide), hfixed (by decide), nofun⟩
  rw [listingLines, List.forall_mem_append, List.forall_mem_append]
  refine ⟨⟨hheadings, hrows⟩, ?_⟩
  simp only [List.forall_mem_cons]
  exact ⟨hfixed (by decide), hfixed (by decide), hindented hplain, hfixed (by decide),
    hindented hencoded, nofun⟩

theorem linesOf_listing (h : ∀ text ∈ query.shownTexts, '\n' ∉ text.toList) :
    linesOf (shownAll false (listing query)) = listingLines query ++ [""] := by
  rw [shownAll_listing]
  exact linesOf_join (notMem_listingLines (by decide) h)

theorem escape_notMem_listing (h : ∀ text ∈ query.shownTexts, '\x1b' ∉ text.toList) :
    '\x1b' ∉ (shownAll false (listing query)).toList := by
  rw [shownAll_listing, String.toList_join, List.mem_flatMap]
  rintro ⟨_, hmap, hmem⟩
  obtain ⟨line, hline, rfl⟩ := List.mem_map.mp hmap
  rw [String.toList_append, List.mem_append] at hmem
  exact hmem.elim (notMem_listingLines (by decide) h line hline) (by decide)

theorem indented_ne {heading : String} (h : heading.toList.head? ≠ some ' ') (text : String) :
    "  " ++ text ≠ heading := by
  rintro rfl
  exact h (by rw [String.toList_append]; rfl)

theorem rows_ne {heading : String} (h : heading.toList.head? ≠ some ' ') :
    ∀ row ∈ query.segments.map rowOf, row ≠ heading := by
  rw [List.forall_mem_map]
  intro segment _
  -- a line of a segment starts with a blank, and no heading does
  simp only [rowOf, String.append_assoc]
  exact indented_ne h _

theorem linesBelow_listing (h : ∀ text ∈ query.shownTexts, '\n' ∉ text.toList) {heading : String}
    {before behind : List String} (hlines : listingLines query = before ++ heading :: behind)
    (hbefore : ∀ line ∈ before, line ≠ heading) :
    linesBelow heading (shownAll false (listing query)) = behind ++ [""] := by
  apply linesBelow_of_split _ hbefore
  rw [linesOf_listing h, hlines, List.append_assoc, List.cons_append]

theorem segmentRows_listing (h : ∀ text ∈ query.shownTexts, '\n' ∉ text.toList) :
    segmentRows (shownAll false (listing query)) = query.segments.map rowOf := by
  -- no line of a segment is empty, so the reading goes on to the empty line behind them
  have hrows : ∀ row ∈ query.segments.map rowOf, decide (row ≠ "") :=
    fun row hrow => decide_eq_true (rows_ne (by decide) row hrow)
  have hlines : listingLines query = ["ShortSQL Explanation", ""] ++ "Segments:" ::
      (query.segments.map rowOf ++ "" :: ["ShortSQL:", "  " ++ query.render false, "URL-safe:",
        "  " ++ query.render true]) := by
    simp [listingLines]
  rw [segmentRows, linesBelow_listing h hlines (by decide), List.append_assoc,
    List.takeWhile_append_of_pos hrows]
  simp

theorem lineBelow?_plain (h : ∀ text ∈ query.shownTexts, '\n' ∉ text.toList) :
    lineBelow? "ShortSQL:" (shownAll false (listing query)) = some ("  " ++ query.render false) := by
  have hlines : listingLines query = (["ShortSQL Explanation", "", "Segments:"]
      ++ query.segments.map rowOf ++ [""]) ++ "ShortSQL:" ::
        ["  " ++ query.render false, "URL-safe:", "  " ++ query.render true] := by
    simp [listingLines]
  have hbefore : ∀ line ∈ ["ShortSQL Explanation", "", "Segments:"] ++ query.segments.map rowOf
      ++ [""], line ≠ "ShortSQL:" := by
    rw [List.forall_mem_append, List.forall_mem_append]
    exact ⟨⟨by decide, rows_ne (by decide)⟩, by decide⟩
  rw [lineBelow?, linesBelow_listing h hlines hbefore, List.cons_append, List.head?_cons]

theorem lineBelow?_encoded (h : ∀ text ∈ query.shownTexts, '\n' ∉ text.toList) :
    lineBelow? "URL-safe:" (shownAll false (listing query)) = some ("  " ++ query.render true) := by
  have hlines : listingLines query = (["ShortSQL Explanation", "", "Segments:"]
      ++ query.segments.map rowOf ++ ["", "ShortSQL:", "  " ++ query.render false])
        ++ "URL-safe:" :: ["  " ++ query.render true] := by
    simp [listingLines]
  have hbefore : ∀ line ∈ ["ShortSQL Explanation", "", "Segments:"] ++ query.segments.map rowOf
      ++ ["", "ShortSQL:", "  " ++ query.render false], line ≠ "URL-safe:" := by
    rw [List.forall_mem_append, List.forall_mem_append]
    refine ⟨⟨by decide, rows_ne (by decide)⟩, ?_⟩
    rw [List.forall_mem_cons, List.forall_mem_cons, List.forall_mem_singleton]
    exact ⟨by decide, by decide, indented_ne (by decide) _⟩
  rw [lineBelow?, linesBelow_listing h hlines hbefore, List.cons_append, List.head?_cons]

end

/-! ## Runs -/

/-- The command line asks for the listing of what an operand names. -/
def AsksToExplain (here : Surroundings) (arguments : List String) (file : Option Path) : Prop :=
  ∃ named verbose,
    Invocation.ofArguments? here.environment.settings arguments
      = .ok ⟨named, verbose, .explain file⟩

/-- The surroundings with the variable set that turns colours on, whatever else is set. -/
def Surroundings.inColour (here : Surroundings) : Surroundings :=
  { here with environment := { here.environment with forceColour := some "1" } }

theorem AsksToExplain.run_eq {here : Surroundings} {arguments : List String} {file : Option Path}
    {text : String} {query : Query} (h : AsksToExplain here arguments file)
    (htext : (Source.ofOperand file).text here = .ok text)
    (hload : Query.load? (Source.ofOperand file).format text = .ok query) :
    (run here arguments).status = 0 ∧
      (run here arguments).output = shownAll here.colours (listing query) := by
  obtain ⟨named, verbose, harguments⟩ := h
  have hquery := loadQuery_eq_ok_iff.mpr ⟨text, htext, hload⟩
  have hexplain : (perform here named (.explain file)).result = .ok (listing query) := by
    rw [perform, result_explain]
    exact Except.bind_eq_ok.mpr ⟨query, hquery, rfl⟩
  rw [run_of_invocation harguments, Report.outcome_of_ok hexplain]
  dsimp only
  exact ⟨rfl, rfl⟩

/-- **A listing is a faithful account of its query.** Whatever a file or the input describes, if no
text that shows has a line break or an escape character: there is a line for each segment, in order,
with its kind; the segments that these lines spell, put together, are the line below the one heading,
which is also what `build` prints for the same description where no settings are in force; and
the line below the other heading decodes to it. In colour the same is printed but for the sequences. -/
theorem listing_accounts {here : Surroundings} {arguments : List String} {file : Option Path}
    {text : String} {query : Query} (hasks : AsksToExplain here arguments file)
    (hcolours : here.colours = false) (htext : (Source.ofOperand file).text here = .ok text)
    (hload : Query.load? (Source.ofOperand file).format text = .ok query)
    (hbreak : ∀ text ∈ query.shownTexts, '\n' ∉ text.toList)
    (hescape : ∀ text ∈ query.shownTexts, '\x1b' ∉ text.toList) :
    let printed := (run here arguments).output
    let account := segmentSeparator.intercalate ((segmentRows printed).map rowText)
    (run here arguments).status = 0 ∧
      ((segmentRows printed).map rowKind = query.segments.map (·.kind.name) ∧
        (segmentRows printed).map rowText = query.segments.map Segment.text) ∧
      lineBelow? "ShortSQL:" printed = some ("  " ++ account) ∧
      (∀ there line other, AsksToBuild there line other false none →
        (Source.ofOperand other).text there = .ok text →
        (Source.ofOperand other).format = (Source.ofOperand file).format →
        (run there line).status = 0 ∧ (run there line).output = account ++ "\n") ∧
      (∃ encoded, lineBelow? "URL-safe:" printed = some ("  " ++ encoded) ∧
        Percent.decode encoded = account) ∧
      uncoloured (run here.inColour arguments).output = printed := by
  intro printed account
  obtain ⟨hstatus, houtput⟩ := hasks.run_eq htext hload
  have hprinted : printed = shownAll false (listing query) := by rw [← hcolours, ← houtput]
  have hrows : segmentRows printed = query.segments.map rowOf := by
    rw [hprinted, segmentRows_listing hbreak]
  have htexts : (segmentRows printed).map rowText = query.segments.map Segment.text := by
    rw [hrows, List.map_map]
    exact List.map_congr_left fun segment _ => rowText_rowOf segment
  have haccount : account = query.render false := congrArg segmentSeparator.intercalate htexts
  refine ⟨hstatus, ⟨?_, htexts⟩, ?_, ?_, ⟨query.render true, ?_, ?_⟩, ?_⟩
  · rw [hrows, List.map_map]
    exact List.map_congr_left fun segment _ => rowKind_rowOf segment
  · rw [haccount, hprinted, lineBelow?_plain hbreak]
  · intro there line other hbuild htext' hformat
    rw [haccount]
    exact hbuild.run_eq htext' (hformat ▸ hload)
  · rw [hprinted, lineBelow?_encoded hbreak]
  · rw [haccount, query.decode_render]
  · -- the same command line, with the same description, in colour
    have hasks' : AsksToExplain here.inColour arguments file := hasks
    have hcolours' : here.inColour.colours = true := by rfl
    have htext' : (Source.ofOperand file).text here.inColour = .ok text := by
      rw [← htext]
      cases Source.ofOperand file <;> rfl
    have hinColour := (hasks'.run_eq htext' hload).2
    rw [hinColour, hcolours', uncoloured_shownAll (escape_notMem_listing hescape), hprinted]

/-- A table with blanks around it, a field and a group that look the same, a sort key without any
text, and its direction, which does not show and so may have a line break. -/
theorem listing_accounts_blankTexts :
    let description := "table = \" t \"\ngroup = [\"a\"]\n[[fields]]\nname = \"a\"\n"
      ++ "[[order]]\nfield = \"\"\ndirection = \"x\\ny\""
    let here : Surroundings := .ofFiles {} false (.ok .empty) [(⟨"q.toml"⟩, .ok description.toUTF8)]
    let printed := (run here ["explain", "q.toml"]).output
    (run here ["explain", "q.toml"]).status = 0 ∧
      (segmentRows printed).map rowKind = ["table", "fields", "order", "group"] ∧
      (segmentRows printed).map rowText = ["@ t ", "[a", ">:dir", "[a"] ∧
      lineBelow? "ShortSQL:" printed = some "  @ t ~[a~>:dir~[a" ∧
      (run here (buildLine (some ⟨"q.toml"⟩) false none)).output = "@ t ~[a~>:dir~[a\n" ∧
      uncoloured (run here.inColour ["explain", "q.toml"]).output = printed := by
  intro description here printed
  let query : Query :=
    { table := " t "
      fields := [⟨"a", none⟩]
      order := [⟨"", some "x\ny"⟩]
      groups := ["a"] }
  have hasks : AsksToExplain here ["explain", "q.toml"] (some ⟨"q.toml"⟩) :=
    ⟨none, false, by decide⟩
  have hbuild : AsksToBuild here (buildLine (some ⟨"q.toml"⟩) false none) (some ⟨"q.toml"⟩) false
      none := asksToBuild_buildLine rfl (by decide) (by simp) false none
  have htext : (Source.ofOperand (some ⟨"q.toml"⟩)).text here = .ok description := by
    decide +kernel
  have hload : Query.load? (Source.ofOperand (some ⟨"q.toml"⟩)).format description = .ok query := by
    decide +kernel
  have hkinds : query.segments.map (·.kind.name) = ["table", "fields", "order", "group"] := by
    decide +kernel
  have htexts : query.segments.map Segment.text = ["@ t ", "[a", ">:dir", "[a"] := by
    decide +kernel
  obtain ⟨hstatus, ⟨hkind, hrow⟩, hplain, hsame, -, hcolour⟩ :=
    listing_accounts hasks (by decide) htext hload (by decide) (by decide)
  rw [hkinds] at hkind
  rw [htexts] at hrow
  have houtput := (hsame here _ _ hbuild htext rfl).2
  rw [hrow] at hplain houtput
  exact ⟨hstatus, hkind, hrow, hplain, houtput, hcolour⟩

end CompactQuery.Command
