import CompactQuery.Proofs.Schema.Items

/-!
# Exchange — what may be done to the parts of a record

The values of the slots depend on the one member for each slot. So members may change places, those
for no slot may come and go, and the member of a slot may be replaced by one that reads the same.

* **`Slots.Given.perm`**, **`Slots.given_insert`** — the order of the members, and members for no
  slot.
* **`Slots.Given.mono_slot`** — a change that concerns one slot; from it **`Slots.Given.delete`**,
  **`Slots.Given.insert`** and **`Slots.Given.replace`**.
* **`Slots.Listed.replace`** — one place of a sequence.
-/

namespace CompactQuery

/-! ## One member among others -/

theorem Tree.named_eq_nil {name : String} {members : List (Key × Tree)}
    (h : ∀ member ∈ members, member.1.read ≠ .ok name) : named name members = [] := by
  rw [named, List.map_eq_nil_iff, List.filter_eq_nil_iff]
  intro member hmem
  rw [Key.names_iff]
  exact h member hmem

theorem Tree.named_insert {name : String} {member : Key × Tree} (h : member.1.read ≠ .ok name)
    (before after : List (Key × Tree)) :
    named name (before ++ member :: after) = named name (before ++ after) := by
  rw [named_append, named_append, named_cons, Key.names_eq_false_iff.mpr h]
  rfl

theorem Tree.named_insert_self {name : String} {member : Key × Tree}
    (h : member.1.read = .ok name) (before after : List (Key × Tree)) :
    named name (before ++ member :: after)
      = named name before ++ member.2 :: named name after := by
  rw [named_append, named_cons, if_pos (Key.names_iff.mpr h)]

/-- A member whose key a slot takes is the only one with it. -/
theorem Shape.Takes.alone {s : Shape} {v : s.Content} {name : String} {member : Key × Tree}
    (hkey : member.1.read = .ok name) {before after : List (Key × Tree)}
    (h : s.Takes (Tree.named name (before ++ member :: after)) v) :
    Tree.named name before = [] ∧ Tree.named name after = [] ∧
      s.read .json member.2 = .ok v := by
  obtain ⟨hsingle, hread⟩ := h.eq_singleton (Tree.mem_named (by simp) hkey)
  rw [Tree.named_insert_self hkey] at hsingle
  have hempty : Tree.named name before = [] ∧ Tree.named name after = [] := by
    simpa [List.append_eq_singleton_iff] using hsingle
  exact ⟨hempty.1, hempty.2, hread⟩

theorem Slots.passes_insert {slots : Slots} {member : Key × Tree}
    {before after : List (Key × Tree)} :
    slots.Passes (before ++ member :: after) ↔
      (∃ name, member.1.read = .ok name ∧ (name ∉ slots.keys → member.2.skipDefect = none)) ∧
        slots.Passes (before ++ after) := by
  simp only [Passes, List.forall_mem_append, List.forall_mem_cons]
  exact and_left_comm

theorem Slots.faithful_of_mem {slots : Slots} (h : slots.faithful = true) {key : String} {s : Shape}
    (hmem : (key, s) ∈ slots.toList) :
    s.faithful = true ∧ ∀ s', (key, s') ∈ slots.toList → s' = s := by
  match slots with
  | .nil => cases hmem
  | .cons slot first rest =>
      obtain ⟨⟨hslot, hfirst⟩, hrest⟩ :
          (slot ∉ rest.keys ∧ first.faithful = true) ∧ rest.faithful = true := by
        simpa [Slots.faithful] using h
      rcases List.mem_cons.mp hmem with heq | hin
      · -- the slot in front: no other has its key
        cases heq
        refine ⟨hfirst, fun s' hmem' => ?_⟩
        rcases List.mem_cons.mp hmem' with heq | hin'
        · cases heq
          rfl
        · exact (hslot (Slots.key_mem hin')).elim
      · refine ⟨(rest.faithful_of_mem hrest hin).1, fun s' hmem' => ?_⟩
        rcases List.mem_cons.mp hmem' with heq | hin'
        · cases heq
          exact (hslot (Slots.key_mem hin)).elim
        · exact (rest.faithful_of_mem hrest hin).2 s' hin'

/-! ## Changes to the members -/

section

variable {slots : Slots} {values : slots.Content} {before after : List (Key × Tree)}
  {member : Key × Tree}

theorem Shape.Takes.perm {s : Shape} {trees trees' : List Tree} {v : s.Content}
    (h : s.Takes trees v) (hperm : trees.Perm trees') : s.Takes trees' v := by
  cases h with
  | left h =>
      rw [List.nil_perm.mp hperm]
      exact .left h
  | given h =>
      rw [← List.singleton_perm.mp hperm]
      exact .given h

/-- The order of the members does not matter. -/
theorem Slots.Given.perm {members members' : List (Key × Tree)}
    (h : slots.Given members values) (hperm : members.Perm members') :
    slots.Given members' values :=
  h.mono fun _ _ _ _ htakes => htakes.perm ((hperm.filter _).map _)

/-- A member for no slot does not matter. -/
theorem Slots.given_insert {other : String} (hkey : member.1.read = .ok other)
    (hother : other ∉ slots.keys) :
    slots.Given (before ++ member :: after) values ↔ slots.Given (before ++ after) values := by
  have hnamed {slot : String} {s : Shape} (hslot : (slot, s) ∈ slots.toList) :
      Tree.named slot (before ++ member :: after) = Tree.named slot (before ++ after) := by
    refine Tree.named_insert (fun hread => ?_) before after
    rw [hkey] at hread
    cases hread
    exact hother (Slots.key_mem hslot)
  constructor
  · exact Slots.Given.mono fun slot s hslot v htakes => hnamed hslot ▸ htakes
  · exact Slots.Given.mono fun slot s hslot v htakes => (hnamed hslot).symm ▸ htakes

variable {slot : String} {s : Shape}

/-- A change that concerns one slot only. -/
theorem Slots.Given.mono_slot (hs : slots.faithful = true) (hslot : (slot, s) ∈ slots.toList)
    {members members' : List (Key × Tree)} (h : slots.Given members values)
    (hothers : ∀ other, other ≠ slot → Tree.named other members' = Tree.named other members)
    (hself : ∀ v : s.Content, s.Takes (Tree.named slot members) v →
      s.Takes (Tree.named slot members') v) :
    slots.Given members' values := by
  refine h.mono fun other s' hother v htakes => ?_
  by_cases heq : other = slot
  · subst heq
    obtain rfl := (Slots.faithful_of_mem hs hslot).2 s' hother
    exact hself v htakes
  · rwa [hothers other heq]

theorem Tree.named_insert_of_ne (hkey : member.1.read = .ok slot) {other : String}
    (hother : other ≠ slot) :
    named other (before ++ member :: after) = named other (before ++ after) := by
  refine named_insert (fun hread => ?_) before after
  rw [hkey] at hread
  cases hread
  exact hother rfl

/-- What holds the value of a slot that is left out may be left out. -/
theorem Slots.Given.delete (hs : slots.faithful = true) (hslot : (slot, s) ∈ slots.toList)
    (hkey : member.1.read = .ok slot)
    (habsent : ∀ v : s.Content, s.read .json member.2 = .ok v → s.absent = some v)
    (h : slots.Given (before ++ member :: after) values) :
    slots.Given (before ++ after) values := by
  refine h.mono_slot hs hslot (fun other hother => (Tree.named_insert_of_ne hkey hother).symm)
    fun v htakes => ?_
  -- the member is the only one with its key, so without it there is none
  obtain ⟨hbefore, hafter, hread⟩ := htakes.alone hkey
  rw [Tree.named_append, hbefore, hafter]
  exact .left (habsent v hread)

/-- What holds the value of a slot that is left out may be put in. -/
theorem Slots.Given.insert (hs : slots.faithful = true) (hslot : (slot, s) ∈ slots.toList)
    (hkey : member.1.read = .ok slot)
    (hnone : ∀ other ∈ before ++ after, other.1.read ≠ .ok slot)
    (habsent : ∀ v : s.Content, s.absent = some v → s.read .json member.2 = .ok v)
    (h : slots.Given (before ++ after) values) :
    slots.Given (before ++ member :: after) values := by
  obtain ⟨hbefore, hafter⟩ := List.forall_mem_append.mp hnone
  refine h.mono_slot hs hslot (fun other hother => Tree.named_insert_of_ne hkey hother)
    fun v htakes => ?_
  rw [Tree.named_eq_nil hnone, Shape.takes_nil_iff] at htakes
  rw [Tree.named_insert_self hkey, Tree.named_eq_nil hbefore, Tree.named_eq_nil hafter]
  exact .given (habsent v htakes)

/-- What a slot takes may be replaced by anything that reads the same. -/
theorem Slots.Given.replace (hs : slots.faithful = true) (hslot : (slot, s) ∈ slots.toList)
    {key : Key} (hkey : key.read = .ok slot) {tree tree' : Tree}
    (hread : ∀ v : s.Content, s.read .json tree = .ok v → s.read .json tree' = .ok v)
    (h : slots.Given (before ++ (key, tree) :: after) values) :
    slots.Given (before ++ (key, tree') :: after) values := by
  refine h.mono_slot hs hslot (fun other hother => ?_) fun v htakes => ?_
  · rw [Tree.named_insert_of_ne hkey hother, Tree.named_insert_of_ne hkey hother]
  · obtain ⟨hbefore, hafter, hv⟩ := htakes.alone hkey
    rw [Tree.named_insert_self hkey, hbefore, hafter]
    exact .given (hread v hv)

end

/-! ## Places of a sequence -/

/-- One place of a sequence. -/
theorem Slots.Listed.replace {slots : Slots} {values : slots.Content} {slot : String} {s : Shape}
    {before after : List Tree} {tree tree' : Tree}
    (hslot : slots.toList[before.length]? = some (slot, s))
    (hread : ∀ v : s.Content, s.read .json tree = .ok v → s.read .json tree' = .ok v)
    (h : slots.Listed (before ++ tree :: after) values) :
    slots.Listed (before ++ tree' :: after) values := by
  match slots, before, values with
  | .nil, _, _ => exact nomatch hslot
  | .cons _ _ _, [], (value, values) =>
      cases hslot
      exact ⟨.given (hread value (Shape.takes_singleton_iff.mp h.1)), h.2⟩
  | .cons _ _ rest, first :: before, (value, values) => exact ⟨h.1, replace hslot hread h.2⟩

theorem forall₂_replace {α β : Type} {R : α → β → Prop} {before after : List α} {a a' : α}
    {bs : List β} (ha : ∀ b, R a b → R a' b) (h : List.Forall₂ R (before ++ a :: after) bs) :
    List.Forall₂ R (before ++ a' :: after) bs := by
  induction before generalizing bs with
  | nil =>
      obtain _ | ⟨hfirst, hrest⟩ := h
      exact .cons (ha _ hfirst) hrest
  | cons first before ih =>
      obtain _ | ⟨hfirst, hrest⟩ := h
      exact .cons hfirst (ih hrest)

end CompactQuery
