import CompactQuery.Proofs.Json.Recognition
import CompactQuery.Proofs.Schema.Items

/-!
# Accepted texts — what a value is read from in JSON

What a reader takes has no defect that a skipper would meet, neither in the parts that become part
of the value nor in those that are passed over. So a text that holds a value is well formed through
and through, and it holds exactly what the source that spells it holds.

* **`Shape.readsWhole`** — what is read has no defect, one case for each kind of shape.
* **`Json.exists_spells_of_readShape`** — the texts that hold a value of a shape.
-/

namespace CompactQuery

/-! ## Defects of what is read -/

theorem Key.skipDefect_of_read {key : Key} {name : String} (h : key.read = .ok name) :
    key.skipDefect = none := by
  cases key with
  | name used => rfl
  | cut used skipped | other => exact nomatch h

theorem Tree.skipItems_eq_none {items : List Tree} :
    skipItems items = none ↔ ∀ item ∈ items, item.skipDefect = none := by
  induction items with
  | nil => simp [skipItems]
  | cons item rest ih => simp [skipItems, Option.or_eq_none_iff, ih]

theorem Tree.skipMembers_eq_none {members : List (Key × Tree)} :
    skipMembers members = none ↔
      ∀ member ∈ members, member.1.skipDefect = none ∧ member.2.skipDefect = none := by
  induction members with
  | nil => simp [skipMembers]
  | cons member rest ih => simp [skipMembers, Option.or_eq_none_iff, ih, and_assoc]

/-- A tree that holds a value of the shape has no defect. -/
def Shape.ReadsWhole (s : Shape) : Prop :=
  ∀ (tree : Tree) (v : s.Content), s.read .json tree = .ok v → tree.skipDefect = none

theorem Shape.readsWhole_form : Shape.form.ReadsWhole := by
  intro tree v h
  change tree.readFormJson = .ok v at h
  unfold Tree.readFormJson at h
  split at h
  · rfl
  · cases h
  · rename_i key value rest ending
    obtain ⟨form, hform, h⟩ := Except.bind_eq_ok.mp h
    obtain ⟨name, hname, _⟩ := Except.bind_eq_ok.mp hform
    obtain ⟨_, hunit, h⟩ := Except.bind_eq_ok.mp h
    have hkey : key.skipDefect = none := Key.skipDefect_of_read (Fault.lift_eq_ok.mp hname)
    have hvalue : value = .null := Tree.readUnit_eq_ok.mp hunit
    cases rest with
    | cons member rest => cases h
    | nil =>
        obtain ⟨_, hending, _⟩ := Except.bind_eq_ok.mp h
        simp [Tree.skipDefect, Tree.skipMembers, hkey, hvalue, Fault.ofEnding_eq_ok.mp hending]
  · cases h
  · cases h

theorem Shape.readsWhole_optional {s : Shape} (hs : s.ReadsWhole) :
    (Shape.optional s).ReadsWhole := by
  intro tree v h
  by_cases hnull : tree = .null
  · rw [hnull]
    rfl
  · obtain ⟨value, hvalue, _⟩ := (Shape.read_optional_iff hnull).mp h
    exact hs tree value hvalue

theorem Shape.readsWhole_list {s : Shape} (hs : s.ReadsWhole) : (Shape.list s).ReadsWhole := by
  intro tree values h
  obtain ⟨items, ending, headed, rfl⟩ := Shape.tree_of_read_list h
  obtain ⟨rfl, hvalues⟩ := Shape.read_list_iff.mp h
  have hitems : ∀ item ∈ items, item.skipDefect = none := by
    clear h
    induction hvalues with
    | nil => exact List.forall_mem_nil _
    | cons hvalue _ ih => exact List.forall_mem_cons.mpr ⟨hs _ _ hvalue, ih⟩
  rw [Tree.skipDefect, Tree.skipItems_eq_none.mpr hitems, Option.none_or]

theorem Slots.Listed.skipDefect {slots : Slots}
    (hslots : ∀ key s, (key, s) ∈ slots.toList → s.ReadsWhole) {items : List Tree}
    {values : slots.Content} (h : slots.Listed items values) :
    ∀ item ∈ items, item.skipDefect = none := by
  match slots, items, values with
  | .nil, items, _ =>
      cases h
      exact List.forall_mem_nil _
  | .cons key s rest, [], _ => exact List.forall_mem_nil _
  | .cons key s rest, item :: items, (value, values) =>
      refine List.forall_mem_cons.mpr ⟨?_, ?_⟩
      · exact hslots key s List.mem_cons_self item value (Shape.takes_singleton_iff.mp h.1)
      · exact skipDefect (fun key s hmem => hslots key s (List.mem_cons_of_mem _ hmem)) h.2

theorem Shape.readsWhole_record {name : String} {slots : Slots} (hfaithful : slots.faithful = true)
    (hslots : ∀ key s, (key, s) ∈ slots.toList → s.ReadsWhole) :
    (Shape.record name slots).ReadsWhole := by
  intro tree values h
  obtain ⟨items, ending, headed, rfl⟩ | ⟨members, ending, rfl⟩ | rfl := Shape.tree_of_read_record h
  · obtain ⟨rfl, hlisted⟩ := Shape.read_array_iff.mp h
    rw [Tree.skipDefect, Tree.skipItems_eq_none.mpr (hlisted.skipDefect hslots), Option.none_or]
  · obtain ⟨rfl, hgiven, hpasses⟩ := (Shape.read_object_iff hfaithful).mp h
    have hmembers : ∀ member ∈ members,
        member.1.skipDefect = none ∧ member.2.skipDefect = none := by
      intro member hmem
      obtain ⟨key, hkey, hskip⟩ := hpasses member hmem
      refine ⟨Key.skipDefect_of_read hkey, ?_⟩
      by_cases hslot : key ∈ slots.keys
      · -- the slot takes what the member holds
        obtain ⟨s, hs⟩ : ∃ s, (key, s) ∈ slots.toList := by
          simpa [Slots.keys_eq_map] using hslot
        obtain ⟨v, htakes⟩ := hgiven.takes hs
        obtain ⟨_, hread⟩ := htakes.eq_singleton (Tree.mem_named hmem hkey)
        exact hslots key s hs _ v hread
      · exact hskip hslot
    rw [Tree.skipDefect, Tree.skipMembers_eq_none.mpr hmembers, Option.none_or]
  · rfl

mutual

/-- **What is read has no defect** that a skipper would meet. -/
theorem Shape.readsWhole : (s : Shape) → s.faithful = true → s.ReadsWhole
  | .text, _ => fun _ _ h => Tree.readText_eq_ok.mp h ▸ rfl
  | .flag, _ => fun _ _ h => Tree.readFlag_eq_ok.mp h ▸ rfl
  | .count, _ => fun _ _ h => Tree.readCount_eq_ok.mp h ▸ rfl
  | .form, _ => Shape.readsWhole_form
  | .optional s, h => by
      obtain ⟨_, hs⟩ : s.isOptional = false ∧ s.faithful = true := by
        simpa [Shape.faithful] using h
      exact Shape.readsWhole_optional (Shape.readsWhole s hs)
  | .list s, h => Shape.readsWhole_list (Shape.readsWhole s h)
  | .record _ slots, h => Shape.readsWhole_record h (Slots.readsWhole slots h)

theorem Slots.readsWhole : (slots : Slots) → slots.faithful = true →
    ∀ key s, (key, s) ∈ slots.toList → s.ReadsWhole
  | .nil, _ => fun _ _ hmem => nomatch hmem
  | .cons key s rest, h => by
      obtain ⟨⟨_, hs⟩, hrest⟩ :
          (key ∉ rest.keys ∧ s.faithful = true) ∧ rest.faithful = true := by
        simpa [Slots.faithful] using h
      intro key' s' hmem
      rcases List.mem_cons.mp hmem with heq | hmem
      · cases heq
        exact Shape.readsWhole s hs
      · exact Slots.readsWhole rest hrest key' s' hmem

end

/-- A text that a source spells holds what the source does. -/
theorem Json.readShape_of_spells {s : Shape} {source : Json.Source} {text : String}
    (h : source.Spells text) : Json.readShape s text = s.read .json source.tree := by
  rw [Json.readShape, Json.Document.ofText_of_spells h]
  cases s.read .json source.tree <;> rfl

/-- **A text that holds a value is spelled by a source.** -/
theorem Json.exists_spells_of_readShape {s : Shape} (h : s.faithful = true) {text : String}
    {v : s.Content} (hread : Json.readShape s text = .ok v) :
    ∃ source : Json.Source, source.Spells text := by
  obtain ⟨value, hvalue, hend⟩ := Except.bind_eq_ok.mp hread
  have htrailing : (Json.Document.ofText text).trailing = false := by
    cases htrailing : (Json.Document.ofText text).trailing with
    | false => rfl
    | true => simp [htrailing] at hend
  exact Json.exists_spells htrailing (s.readsWhole h _ _ hvalue)

end CompactQuery
