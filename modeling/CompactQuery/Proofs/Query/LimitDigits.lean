import CompactQuery.Proofs.Query.LimitPlace
import CompactQuery.Proofs.Query.SegmentOrder

/-!
# The digits of a limit — what a description says is what the segment shows

A count below 2^64 is written in the digits that it was read from, and digits that stand for more
are not read as a count at all. So the digits of a limit go through as they are or not, however many
there are and whatever else the description holds.

* **`WrittenLimit`** — a limit as it is written, with digits of any length.
* **`WrittenLimit.Fits`** — its numbers are below 2^64; **`WrittenLimit.read_iff`** — then it is
  read, and otherwise it is not.
* **`WrittenLimit.token_value`** — what the token of such a limit shows.
* **`Query.limit_verbatim`** — both for a whole description.
-/

namespace CompactQuery

open Json (Source Glyph)

/-! ## A limit as it is written -/

def DigitText.source (digits : DigitText) : Source := .number (.ofDigits digits.canonical)

/-- The offset of a limit as it is written. -/
inductive WrittenOffset where
  | absent
  | null
  | given (digits : DigitText)

namespace WrittenOffset

/-- The members for it, with this key. -/
def members (key : List Glyph) : WrittenOffset → List (List Glyph × Source)
  | .absent => []
  | .null => [(key, .null)]
  | .given digits => [(key, digits.source)]

/-- Its number, if there is one, is below 2^64. -/
def Fits : WrittenOffset → Prop
  | .absent => True
  | .null => True
  | .given digits => digits.number < UInt64.size

instance : (offset : WrittenOffset) → Decidable offset.Fits
  | .absent => .isTrue trivial
  | .null => .isTrue trivial
  | .given digits => Nat.decLt digits.number UInt64.size

/-- The offset that it is if it fits. -/
def value : WrittenOffset → Option UInt64
  | .absent => none
  | .null => none
  | .given digits => some (UInt64.ofNat digits.number)

/-- What a segment shows of it. -/
def shown : WrittenOffset → String
  | .absent => ""
  | .null => ""
  | .given digits => if digits.text = "0" then "" else ":" ++ digits.text

end WrittenOffset

/-- A limit that is written as a map, its members in either order and their keys spelled in any
way. -/
structure WrittenLimit where
  count : DigitText
  offset : WrittenOffset
  countKey : List Glyph
  offsetKey : List Glyph
  members : List (List Glyph × Source)
  spelled_count : Source.spelled countKey = .ok "count"
  spelled_offset : Source.spelled offsetKey = .ok "offset"
  perm : members.Perm ((countKey, count.source) :: offset.members offsetKey)

namespace WrittenLimit

def source (limit : WrittenLimit) : Source := .object limit.members

/-- Its numbers are below 2^64. -/
def Fits (limit : WrittenLimit) : Prop := limit.count.number < UInt64.size ∧ limit.offset.Fits

instance (limit : WrittenLimit) : Decidable limit.Fits :=
  inferInstanceAs (Decidable (_ ∧ _))

/-- The limit that it is if it fits. -/
def value (limit : WrittenLimit) : Limit :=
  { count := UInt64.ofNat limit.count.number, offset := limit.offset.value }

end WrittenLimit

/-- Digits are read as a count just if their number is below 2^64. -/
theorem DigitText.read_iff (digits : DigitText) {n : UInt64} :
    Shape.count.read .json digits.source.tree = .ok n ↔
      digits.number < UInt64.size ∧ n = UInt64.ofNat digits.number := by
  refine Tree.readCount_eq_ok.trans ?_
  rw [DigitText.source, Source.tree, Tree.number.injEq, Json.number?_ofDigits]
  exact Iff.rfl

/-- What the slot for the offset takes. -/
theorem WrittenOffset.takes_iff (offset : WrittenOffset) {key : List Glyph}
    (hkey : Source.spelled key = .ok "offset") {n : (Shape.optional .count).Content} :
    (Shape.optional .count).Takes
        (Tree.named "offset" ((offset.members key).map Source.entry)) n ↔
      offset.Fits ∧ n = offset.value := by
  have hnamed (source : Source) :
      Tree.named "offset" [Source.entry (key, source)] = [source.tree] := by
    have hentry : (Source.entry (key, source)).1.names "offset" := Key.names_iff.mpr hkey
    rw [Tree.named_cons, if_pos hentry]
    rfl
  cases offset with
  | absent =>
      refine Shape.takes_nil_iff.trans ?_
      constructor
      · rintro ⟨⟩
        exact ⟨trivial, rfl⟩
      · rintro ⟨_, rfl⟩
        rfl
  | null =>
      rw [members, List.map_singleton, hnamed, Shape.takes_singleton_iff]
      constructor
      · rintro ⟨⟩
        exact ⟨trivial, rfl⟩
      · rintro ⟨_, rfl⟩
        rfl
  | given digits =>
      have hnull : digits.source.tree ≠ .null := by
        simp [DigitText.source, Source.tree]
      rw [members, List.map_singleton, hnamed, Shape.takes_singleton_iff,
        Shape.read_optional_iff hnull]
      constructor
      · rintro ⟨count, hcount, rfl⟩
        obtain ⟨hfits, rfl⟩ := digits.read_iff.mp hcount
        exact ⟨hfits, rfl⟩
      · rintro ⟨hfits, rfl⟩
        exact ⟨_, digits.read_iff.mpr ⟨hfits, rfl⟩, rfl⟩

theorem WrittenOffset.keyed (offset : WrittenOffset) {key : List Glyph}
    (hkey : Source.spelled key = .ok "offset") :
    ∀ member ∈ offset.members key, Source.Keyed "offset" member := by
  cases offset with
  | absent => exact List.forall_mem_nil _
  | null | given => exact List.forall_mem_singleton.mpr hkey

namespace WrittenLimit

/-- The members in the order of the slots. -/
def ordered (limit : WrittenLimit) : List (List Glyph × Source) :=
  (limit.countKey, limit.count.source) :: limit.offset.members limit.offsetKey

theorem keyed_ordered (limit : WrittenLimit) :
    ∀ member ∈ limit.ordered, ∃ name, Source.Keyed name member := by
  refine List.forall_mem_cons.mpr ⟨⟨"count", limit.spelled_count⟩, fun member hmember => ?_⟩
  exact ⟨"offset", limit.offset.keyed limit.spelled_offset member hmember⟩

/-- What the slot for the count takes: the offset has another key. -/
theorem takes_count_iff (limit : WrittenLimit) {n : Shape.count.Content} :
    Shape.count.Takes (Tree.named "count" (limit.ordered.map Source.entry)) n ↔
      limit.count.number < UInt64.size ∧ n = UInt64.ofNat limit.count.number := by
  have hkey : (Source.entry (limit.countKey, limit.count.source)).1.names "count" :=
    Key.names_iff.mpr limit.spelled_count
  have hrest : Tree.named "count" ((limit.offset.members limit.offsetKey).map Source.entry)
      = [] := by
    refine Tree.named_eq_nil (List.forall_mem_map.mpr fun member hmember hread => ?_)
    rw [(limit.offset.keyed limit.spelled_offset member hmember).read] at hread
    exact absurd (Except.ok.inj hread) (by decide)
  rw [ordered, List.map_cons, Tree.named_cons, if_pos hkey, hrest]
  exact Shape.takes_singleton_iff.trans limit.count.read_iff

/-- What the slot for the offset takes: the count has another key. -/
theorem takes_offset_iff (limit : WrittenLimit) {n : (Shape.optional .count).Content} :
    (Shape.optional .count).Takes (Tree.named "offset" (limit.ordered.map Source.entry)) n ↔
      limit.offset.Fits ∧ n = limit.offset.value := by
  have hkey : (Source.entry (limit.countKey, limit.count.source)).1.names "offset" = false := by
    refine Key.names_eq_false_iff.mpr fun hread => ?_
    have hcount : Except.ok "count" = Except.ok "offset" := limit.spelled_count.symm.trans hread
    exact absurd (Except.ok.inj hcount) (by decide)
  rw [ordered, List.map_cons, Tree.named_cons, hkey]
  exact limit.offset.takes_iff limit.spelled_offset

theorem read_content_iff (limit : WrittenLimit) {content : Limit.shape.Content} :
    Limit.shape.read .json limit.source.tree = .ok content ↔
      limit.Fits ∧ Limit.ofContent content = limit.value := by
  obtain ⟨count, offset, ⟨⟩⟩ := content
  have hperm : (limit.members.map Source.entry).Perm (limit.ordered.map Source.entry) :=
    limit.perm.map Source.entry
  refine (Shape.read_object_source_iff rfl).trans ?_
  constructor
  · rintro ⟨hgiven, _⟩
    -- the slots take what they would take in their order
    obtain ⟨hcount, hoffset, _⟩ := hgiven.perm hperm
    obtain ⟨hfits, rfl⟩ := limit.takes_count_iff.mp hcount
    obtain ⟨hfits', rfl⟩ := limit.takes_offset_iff.mp hoffset
    exact ⟨⟨hfits, hfits'⟩, rfl⟩
  · rintro ⟨⟨hfits, hfits'⟩, hvalue⟩
    obtain ⟨rfl, rfl⟩ := Limit.mk.inj hvalue
    have hcount := limit.takes_count_iff.mpr ⟨hfits, rfl⟩
    have hoffset := limit.takes_offset_iff.mpr ⟨hfits', rfl⟩
    refine ⟨Slots.Given.perm ⟨hcount, hoffset, trivial⟩ hperm.symm, fun entry hentry => ?_⟩
    obtain ⟨member, hmember, rfl⟩ := List.mem_map.mp hentry
    obtain ⟨name, hname⟩ := limit.keyed_ordered member (limit.perm.mem_iff.mp hmember)
    exact Slots.passes_entry hname

/-- **A limit is read just if its numbers are below 2^64**, and then as it stands. -/
theorem read_iff (limit : WrittenLimit) {slot : (Shape.optional Limit.shape).Content} :
    (Shape.optional Limit.shape).read .json limit.source.tree = .ok slot ↔
      limit.Fits ∧ Option.map Limit.ofContent slot = some limit.value := by
  have hnull : limit.source.tree ≠ .null := by
    rw [source, Source.tree_object]
    simp
  rw [Shape.read_optional_iff hnull]
  constructor
  · rintro ⟨content, hcontent, rfl⟩
    obtain ⟨hfits, hvalue⟩ := limit.read_content_iff.mp hcontent
    exact ⟨hfits, congrArg some hvalue⟩
  · rintro ⟨hfits, hvalue⟩
    obtain ⟨content, rfl, hcontent⟩ := Option.map_eq_some_iff.mp hvalue
    exact ⟨content, limit.read_content_iff.mpr ⟨hfits, hcontent⟩, rfl⟩

end WrittenLimit

/-! ## The token of a limit -/

namespace DigitText

theorem toNat_ofNat {digits : DigitText} (h : digits.number < UInt64.size) :
    (UInt64.ofNat digits.number).toNat = digits.number := by
  rw [UInt64.toNat_ofNat', Nat.mod_eq_of_lt h]

/-- The digits are written again as they stand. -/
theorem decimal_ofNat {digits : DigitText} (h : digits.number < UInt64.size) :
    decimal (UInt64.ofNat digits.number) = digits.text := by
  rw [decimal, toNat_ofNat h, digits.repr_number]

/-- Below 2^64 only the digit zero becomes zero. -/
theorem ofNat_eq_zero_iff {digits : DigitText} (h : digits.number < UInt64.size) :
    UInt64.ofNat digits.number = 0 ↔ digits.text = "0" := by
  rw [← UInt64.toNat_inj, toNat_ofNat h]
  exact digits.number_eq_zero_iff

end DigitText

/-- **The token of a limit shows its digits**, and those of an offset other than zero behind a
colon. -/
theorem WrittenLimit.token_value {limit : WrittenLimit} (h : limit.Fits) :
    limit.value.token = limit.count.text ++ limit.offset.shown := by
  obtain ⟨hcount, hoffset⟩ := h
  have hcountText : decimal limit.value.count = limit.count.text := DigitText.decimal_ofNat hcount
  cases hwritten : limit.offset with
  | absent | null =>
      have hnone : limit.value.offset.filter (· ≠ 0) = none := by
        rw [value, hwritten]
        rfl
      rw [Limit.token_of_none hnone, hcountText]
      exact String.append_empty.symm
  | given digits =>
      have hvalue : limit.value.offset = some (UInt64.ofNat digits.number) := by
        rw [value, hwritten]
        rfl
      rw [hwritten] at hoffset
      have hzero := DigitText.ofNat_eq_zero_iff hoffset
      by_cases htext : digits.text = "0"
      · have hnone : limit.value.offset.filter (· ≠ 0) = none := by
          rw [hvalue, hzero.mpr htext]
          rfl
        rw [Limit.token_of_none hnone, hcountText, WrittenOffset.shown, if_pos htext,
          String.append_empty]
      · have hne : UInt64.ofNat digits.number ≠ 0 := fun h => htext (hzero.mp h)
        have hsome : limit.value.offset.filter (· ≠ 0) = some (UInt64.ofNat digits.number) := by
          rw [hvalue, Option.filter_some, if_pos (decide_eq_true hne)]
        rw [Limit.token_of_some hsome, hcountText, DigitText.decimal_ofNat hoffset,
          WrittenOffset.shown, if_neg htext, String.append_assoc]
        rfl

namespace Query

/-- **The digits of a limit go through verbatim.** Take any description that is accepted, with
whatever it has in the place for its limit, and write a limit there whose digits are as many as you
like, none a superfluous zero. It is accepted just if the count and the offset, if there is one, are
below 2^64. Then nothing but the limit is changed, and its segment shows the digits of the count and
behind a colon those of the offset, unless the offset is zero, null or left out. Otherwise the
description is refused as a text of JSON. -/
theorem limit_verbatim {place : LimitPlace} {old : Source} {accepted : String} {base : Query}
    (hold : (place.fill old).Spells accepted) (hbase : load? .json accepted = .ok base)
    (limit : WrittenLimit) {text : String} (htext : (place.fill limit.source).Spells text) :
    ((∃ query, load? .json text = .ok query) ↔ limit.Fits) ∧
    (∀ query, load? .json text = .ok query →
      query = { base with limit := some limit.value } ∧
      (query.segments.filter (fun segment => segment.kind = .limit)).map Segment.text
        = ["-" ++ limit.count.text ++ limit.offset.shown]) ∧
    (¬ limit.Fits → ∃ fault, load? .json text = .error (.text .json fault)) := by
  have hload : ∀ query, load? .json text = .ok query ↔
      limit.Fits ∧ query = { base with limit := some limit.value } := by
    intro query
    rw [load?_fill_eq_ok_iff hold hbase htext]
    constructor
    · rintro ⟨slot, hslot, rfl⟩
      obtain ⟨hfits, hvalue⟩ := limit.read_iff.mp hslot
      rw [hvalue]
      exact ⟨hfits, rfl⟩
    · rintro ⟨hfits, rfl⟩
      exact ⟨some limit.value.toContent, limit.read_iff.mpr ⟨hfits, rfl⟩, rfl⟩
  refine ⟨?_, ?_, ?_⟩
  · simp only [hload, exists_and_left, exists_eq, and_true]
  · intro query hquery
    obtain ⟨hfits, rfl⟩ := (hload query).mp hquery
    refine ⟨rfl, ?_⟩
    have hbodies : ({ base with limit := some limit.value } : Query).bodies .limit
        = [limit.value.token] := rfl
    rw [texts_of_kind, hbodies, WrittenLimit.token_value hfits, String.append_assoc]
    rfl
  · intro hfits
    exact load?_fill_eq_error htext fun slot hslot => hfits (limit.read_iff.mp hslot).1

/-- A table, and behind it the place for the limit. -/
def limitedTable : LimitPlace :=
  .member [(Json.glyphs "table", .text (Json.glyphs "t"))] [] (Json.glyphs "limit")
    (Json.unescape_glyphs "limit")

def tenDigits : DigitText :=
  ⟨"10", List.all_eq_true.mp (by decide), by decide, by decide⟩

def largestDigits : DigitText :=
  ⟨"18446744073709551615", List.all_eq_true.mp (by decide), by decide, by decide⟩

def beyondDigits : DigitText :=
  ⟨"18446744073709551616", List.all_eq_true.mp (by decide), by decide, by decide⟩

/-- The largest count, with its offset in front of it. -/
def largestCount : WrittenLimit where
  count := largestDigits
  offset := .given tenDigits
  countKey := Json.glyphs "count"
  offsetKey := Json.glyphs "offset"
  members :=
    [(Json.glyphs "offset", tenDigits.source), (Json.glyphs "count", largestDigits.source)]
  spelled_count := Json.unescape_glyphs "count"
  spelled_offset := Json.unescape_glyphs "offset"
  perm := .swap _ _ _

/-- One more, without an offset. -/
def countBeyond : WrittenLimit where
  count := beyondDigits
  offset := .absent
  countKey := Json.glyphs "count"
  offsetKey := Json.glyphs "offset"
  members := [(Json.glyphs "count", beyondDigits.source)]
  spelled_count := Json.unescape_glyphs "count"
  spelled_offset := Json.unescape_glyphs "offset"
  perm := .refl _

theorem limit_verbatim_largestCount :
    load? .json "\x7b\"table\":\"t\",\"limit\":null\x7d" = .ok (ofTable "t") ∧
    (∃ query, load? .json ("\x7b\"table\":\"t\",\"limit\":"
        ++ "\x7b\"offset\":10,\"count\":18446744073709551615\x7d\x7d") = .ok query ∧
      (query.segments.filter (fun segment => segment.kind = .limit)).map Segment.text
        = ["-18446744073709551615:10"]) ∧
    ∃ fault, load? .json ("\x7b\"table\":\"t\",\"limit\":"
        ++ "\x7b\"count\":18446744073709551616\x7d\x7d") = .error (.text .json fault) := by
  have hbase : load? .json "\x7b\"table\":\"t\",\"limit\":null\x7d" = .ok (ofTable "t") := by
    decide +kernel
  have hold : (limitedTable.fill .null).Spells "\x7b\"table\":\"t\",\"limit\":null\x7d" :=
    (limitedTable.fill .null).spells_flatMap
  have hlargest : (limitedTable.fill largestCount.source).Spells
      ("\x7b\"table\":\"t\",\"limit\":"
        ++ "\x7b\"offset\":10,\"count\":18446744073709551615\x7d\x7d") :=
    (limitedTable.fill largestCount.source).spells_flatMap
  have hbeyond : (limitedTable.fill countBeyond.source).Spells
      ("\x7b\"table\":\"t\",\"limit\":" ++ "\x7b\"count\":18446744073709551616\x7d\x7d") :=
    (limitedTable.fill countBeyond.source).spells_flatMap
  have hfits : largestCount.Fits := by decide
  have hbeyondFits : ¬ countBeyond.Fits := by decide
  obtain ⟨haccepted, hshown, _⟩ := limit_verbatim hold hbase largestCount hlargest
  obtain ⟨query, hquery⟩ := haccepted.mpr hfits
  exact ⟨hbase, ⟨query, hquery, (hshown query hquery).2⟩,
    (limit_verbatim hold hbase countBeyond hbeyond).2.2 hbeyondFits⟩

end Query

end CompactQuery
