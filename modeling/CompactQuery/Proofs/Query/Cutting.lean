import CompactQuery.Proofs.Query.Clean

/-!
# Cutting — the compact form cut at its tildes

A tilde in a stored text cannot be told from one between two segments, so a reader that cuts the
compact form at every tilde gets more pieces than there are segments. Each tilde in a text that
shows makes one piece more, wherever the text stands, and there are no others: the direction of a
sort key does not show, and so it may hold as many as it likes.

* **`length_splitOn_compact`** — how many pieces there are.
* **`splitOn_compact_iff`** — when they are the segments.
-/

namespace CompactQuery.Query

/-- The pieces of the compact form: one for each segment, and one more for each tilde in a text that
shows. -/
theorem length_splitOn_compact (query : Query) :
    (query.compact.toList.splitOn '~').length
      = query.segments.length + occurrences '~' query.shownTexts := by
  obtain ⟨rest, hsegments⟩ : ∃ rest, query.segments = ⟨.table, query.table⟩ :: rest := ⟨_, rfl⟩
  have hpos : 0 < query.segments.length := by
    rw [hsegments]
    exact Nat.succ_pos _
  have hseparator : segmentSeparator.toList.count '~' = 1 := by decide
  -- a tilde between any two segments, and those within them
  have hcount : query.compact.toList.count '~'
      = occurrences '~' query.shownTexts + (query.segments.length - 1) := by
    rw [compact, count_intercalate, occurrences_segments (by decide) (by decide), List.length_map,
      hseparator, Nat.mul_one]
  rw [length_splitOn, hcount]
  omega

/-- Without tildes in the texts the pieces are the segments. -/
theorem splitOn_compact {query : Query} (h : ∀ text ∈ query.shownTexts, '~' ∉ text.toList) :
    query.compact.toList.splitOn '~' = (query.segments.map Segment.text).map String.toList := by
  have hfree : ∀ text ∈ query.segments.map Segment.text, '~' ∉ text.toList :=
    notMem_text (by decide) (by decide) h
  rw [compact, String.toList_intercalate]
  apply List.splitOn_intercalate
  · simpa using hfree
  · simp [segments]

/-- **The compact form is cut back into its segments** just if no tilde occurs in a text that shows,
and in any case there are as many pieces as segments and such tildes together. -/
theorem splitOn_compact_iff (query : Query) :
    (((query.render false).toList.splitOn '~').map String.ofList = query.segments.map Segment.text ↔
      ∀ text ∈ query.shownTexts, '~' ∉ text.toList) ∧
    ((query.render false).toList.splitOn '~').length
      = query.segments.length + occurrences '~' query.shownTexts := by
  have hrender : query.render false = query.compact := rfl
  have hlength := query.length_splitOn_compact
  rw [hrender]
  refine ⟨?_, hlength⟩
  constructor
  · intro h
    -- as many pieces as segments leave no tilde for the texts
    have hsame := congrArg List.length h
    rw [List.length_map, List.length_map, hlength] at hsame
    exact occurrences_eq_zero_iff.mp (by omega)
  · intro h
    rw [splitOn_compact h, List.map_map]
    simp

/-- A tilde in an alias cuts the fields in two, the one in a direction cuts nothing. -/
example :
    let query := (ofTable "t").performAll [.select "a" (some "b~c"), .sortBy "d" (some "~")]
    ((query.render false).toList.splitOn '~').map String.ofList
      = ["@t", "[a:b", "c", ">d:dir"] := by
  decide +kernel

end CompactQuery.Query
