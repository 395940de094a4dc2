import CompactQuery.Proofs.Schema.Members

/-!
# Items — what leaves, sequences and lists are read from

A record may be written as the sequence of its slots, the last of which may be left off if they may
be left out. A list is read item by item.

* **`Tree.readText_eq_ok`** and its like — the one tree that a leaf is read from;
  **`Shape.read_optional_iff`** — an option that is not null.
* **`Slots.Listed`**, **`Shape.read_array_iff`** — a record written as a sequence, by recursion on
  the slots.
* **`Shape.read_list_iff`** — a list, item by item.
-/

namespace CompactQuery

/-! ## Leaves -/

theorem Tree.unlike_ne_ok {α : Type} {expected : Expected} {tree : Tree} {a : α} :
    tree.unlike expected ≠ .ok a := by
  unfold unlike
  split <;> simp

theorem Tree.readText_eq_ok {tree : Tree} {s : String} :
    tree.readText = .ok s ↔ tree = .text (.ok s) := by
  unfold readText
  split
  · simp [Fault.lift_eq_ok]
  · rename_i hne
    simp only [unlike_ne_ok, false_iff]
    exact hne _

theorem Tree.readFlag_eq_ok {tree : Tree} {b : Bool} :
    tree.readFlag = .ok b ↔ tree = .flag b := by
  unfold readFlag
  split
  · simp
  · rename_i hne
    simp only [unlike_ne_ok, false_iff]
    exact hne _

theorem Tree.readCount_eq_ok {tree : Tree} {n : UInt64} :
    tree.readCount = .ok n ↔ tree = .number (.ok (.natural n)) := by
  unfold readCount
  split
  · simp
  · simp
  · rename_i hne _
    simp only [unlike_ne_ok, false_iff]
    exact hne _

theorem Tree.readUnit_eq_ok {tree : Tree} {u : Unit} : tree.readUnit = .ok u ↔ tree = .null := by
  unfold readUnit
  split
  · simp
  · rename_i hne
    simp only [unlike_ne_ok, false_iff]
    exact hne

/-- What an option holds is read as it is without the option. -/
theorem Shape.read_optional_iff {s : Shape} {tree : Tree} (h : tree ≠ .null)
    {value : (Shape.optional s).Content} :
    (Shape.optional s).read .json tree = .ok value ↔
      ∃ v, s.read .json tree = .ok v ∧ some v = value := by
  rw [Shape.read_optional .json s h]
  exact Except.map_eq_ok

/-! ## Sequences -/

/-- The values of all slots, from as many items in their order; the slots behind the last item are
left out. -/
def Slots.Listed : (slots : Slots) → List Tree → slots.Content → Prop
  | .nil, items, _ => items = []
  | .cons _ s rest, items, (value, values) =>
    s.Takes items.head?.toList value ∧ rest.Listed items.tail values

theorem Slots.readItems_nil (slots : Slots) :
    slots.readItems .json [] = .ok (slots.blank, []) := by
  cases slots <;> rfl

theorem Slots.readItems_iff {slots : Slots} {items : List Tree} {values : slots.Content} :
    (∃ draft, slots.readItems .json items = .ok (draft, []) ∧
        slots.complete? draft = .ok values) ↔ slots.Listed items values := by
  match slots, items, values with
  | .nil, items, () =>
      constructor
      · rintro ⟨_, ⟨⟩, _⟩
        rfl
      · rintro rfl
        exact ⟨(), rfl, rfl⟩
  | .cons key s rest, [], (value, values) =>
      -- no item is left, neither for this slot nor for any behind it
      rw [Listed, List.head?_nil, Option.toList_none, Shape.takes_nil_iff, List.tail_nil,
        ← readItems_iff]
      constructor
      · rintro ⟨_, ⟨⟩, hcomplete⟩
        obtain ⟨hvalue, hcomplete⟩ := Slots.complete?_cons_iff.mp hcomplete
        exact ⟨hvalue, rest.blank, rest.readItems_nil, hcomplete⟩
      · rintro ⟨hvalue, draft, hdraft, hcomplete⟩
        rw [rest.readItems_nil] at hdraft
        cases hdraft
        exact ⟨(none, rest.blank), rfl, Slots.complete?_cons_iff.mpr ⟨hvalue, hcomplete⟩⟩
  | .cons key s rest, item :: items, (value, values) =>
      rw [Listed, List.head?_cons, Option.toList_some, Shape.takes_singleton_iff, List.tail_cons,
        ← readItems_iff]
      constructor
      · rintro ⟨_, hread, hcomplete⟩
        obtain ⟨v, hv, hread⟩ := Except.bind_eq_ok.mp hread
        obtain ⟨⟨others, surplus⟩, hothers, ⟨⟩⟩ := Except.bind_eq_ok.mp hread
        obtain ⟨⟨⟩, hrest⟩ := Slots.complete?_cons_iff.mp hcomplete
        exact ⟨hv, others, hothers, hrest⟩
      · rintro ⟨hv, others, hothers, hcomplete⟩
        refine ⟨(some value, others), ?_, Slots.complete?_cons_iff.mpr ⟨rfl, hcomplete⟩⟩
        exact Except.bind_eq_ok.mpr ⟨value, hv, Except.bind_eq_ok.mpr ⟨_, hothers, rfl⟩⟩

theorem Slots.ofSequence_eq_ok {slots : Slots} {name : String} {length : Nat}
    {draft : slots.Draft} {values : slots.Content} :
    slots.ofSequence name length draft = .ok values ↔ slots.complete? draft = .ok values := by
  unfold ofSequence
  cases slots.complete? draft <;> simp

theorem Format.checkSurplus_json {surplus : List Tree} {u : Unit} :
    Format.json.checkSurplus surplus = .ok u ↔ surplus = [] := by
  cases surplus <;> simp [Format.checkSurplus]

/-- **A record written as a sequence.** -/
theorem Shape.read_array_iff {name : String} {slots : Slots} {items : List Tree}
    {ending : Option Defect} {headed : Bool} {values : slots.Content} :
    (Shape.record name slots).read .json (.array items ending headed) = .ok values ↔
      ending = none ∧ slots.Listed items values := by
  rw [← Slots.readItems_iff]
  constructor
  · intro hread
    obtain ⟨⟨draft, surplus⟩, hdraft, hread⟩ := Except.bind_eq_ok.mp hread
    obtain ⟨_, hsurplus, hread⟩ := Except.bind_eq_ok.mp hread
    obtain ⟨_, hending, hread⟩ := Except.bind_eq_ok.mp hread
    rw [Format.checkSurplus_json.mp hsurplus] at hdraft
    exact ⟨Fault.ofEnding_eq_ok.mp hending, draft, hdraft, Slots.ofSequence_eq_ok.mp hread⟩
  · rintro ⟨rfl, draft, hdraft, hcomplete⟩
    exact Except.bind_eq_ok.mpr ⟨_, hdraft, Except.bind_eq_ok.mpr ⟨(), rfl,
      Except.bind_eq_ok.mpr ⟨(), rfl, Slots.ofSequence_eq_ok.mpr hcomplete⟩⟩⟩

/-- A record is written as a sequence or as a map; a moment counts as an empty map. -/
theorem Shape.tree_of_read_record {name : String} {slots : Slots} {tree : Tree}
    {values : slots.Content} (h : (Shape.record name slots).read .json tree = .ok values) :
    (∃ items ending headed, tree = .array items ending headed) ∨
      (∃ members ending, tree = .object members ending) ∨ tree = .moment := by
  have other (hread : (Shape.record name slots).read .json tree = tree.unlike (.record name)) :
      False := Tree.unlike_ne_ok (hread.symm.trans h)
  cases tree with
  | array items ending headed => exact .inl ⟨items, ending, headed, rfl⟩
  | object members ending => exact .inr (.inl ⟨members, ending, rfl⟩)
  | moment => exact .inr (.inr rfl)
  | null | flag b | number used | text used | broken quoted used skipped => exact (other rfl).elim

/-! ## Lists -/

/-- A list is written as a sequence. -/
theorem Shape.tree_of_read_list {s : Shape} {tree : Tree} {values : List s.Content}
    (h : (Shape.list s).read .json tree = .ok values) :
    ∃ items ending headed, tree = .array items ending headed := by
  have other (hread : (Shape.list s).read .json tree = tree.unlike .sequence) : False :=
    Tree.unlike_ne_ok (hread.symm.trans h)
  cases tree with
  | array items ending headed => exact ⟨items, ending, headed, rfl⟩
  | null | flag b | number used | text used | moment | object members ending
  | broken quoted used skipped => exact (other rfl).elim

theorem Tree.readAll_iff {α : Type} {read : Tree → Except Fault α} {items : List Tree}
    {values : List α} :
    readAll read items = .ok values ↔
      List.Forall₂ (fun item value => read item = .ok value) items values := by
  induction items generalizing values with
  | nil =>
      constructor
      · rintro ⟨⟩
        exact .nil
      · rintro ⟨⟩
        rfl
  | cons item items ih =>
      simp only [readAll, Except.bind_eq_ok]
      constructor
      · rintro ⟨value, hvalue, values, hvalues, ⟨⟩⟩
        exact .cons hvalue (ih.mp hvalues)
      · rintro (_ | ⟨hvalue, hvalues⟩)
        exact ⟨_, hvalue, _, ih.mpr hvalues, rfl⟩

/-- The items of a list are read one by one. -/
theorem Shape.read_list_iff {s : Shape} {items : List Tree} {ending : Option Defect}
    {headed : Bool} {values : List s.Content} :
    (Shape.list s).read .json (.array items ending headed) = .ok values ↔
      ending = none ∧
        List.Forall₂ (fun item value => s.read .json item = .ok value) items values := by
  rw [Shape.read_list, ← Tree.readAll_iff]
  constructor
  · intro hread
    obtain ⟨values, hvalues, hread⟩ := Except.bind_eq_ok.mp hread
    obtain ⟨_, hending, ⟨⟩⟩ := Except.bind_eq_ok.mp hread
    exact ⟨Fault.ofEnding_eq_ok.mp hending, hvalues⟩
  · rintro ⟨rfl, hvalues⟩
    exact Except.bind_eq_ok.mpr ⟨_, hvalues, rfl⟩

end CompactQuery
