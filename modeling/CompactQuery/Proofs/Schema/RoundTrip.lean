import CompactQuery.Proofs.Json.Document

/-!
# Round trips — a value of a shape reads back from its tree

What is written for a value of a shape spells a tree, and reading that tree by the same shape gives
the value. Two things could stand in the way, and a shape is **`faithful`** if it has neither: an
option within an option, whose two ways to hold nothing are one and the same null, and a record with
one key for two slots.

* **`readMembers_cons`** — a slot that no member is for is passed over by all of them.
* **`Slots.readMembers_toJson`** — the members of a written record fill all its slots. Induction on
  the slots: the first member goes into the first slot, the others have other keys.
* **`Shape.read_toJson`** — the round trip, one case for each kind of shape.
* **`Json.readShape_compact`** — the same from the text.
-/

namespace CompactQuery

/-! ## Faithful shapes -/

def Shape.isOptional : Shape → Bool
  | .optional _ => true
  | _ => false

/-- The keys of the slots. -/
def Slots.keys : Slots → List String
  | .nil => []
  | .cons key _ rest => key :: rest.keys

mutual

/-- No option is within another, and no record has a key twice. -/
def Shape.faithful : Shape → Bool
  | .text => true
  | .flag => true
  | .count => true
  | .form => true
  | .optional s => !s.isOptional && s.faithful
  | .list s => s.faithful
  | .record _ slots => slots.faithful

def Slots.faithful : Slots → Bool
  | .nil => true
  | .cons key s rest => decide (key ∉ rest.keys) && s.faithful && rest.faithful

end

/-! ## Options and lists -/

theorem Shape.tree_ne_null {s : Shape} (h : s.isOptional = false) (v : s.Content) :
    (s.toJson v).tree ≠ .null := by
  cases s with
  | optional s => exact absurd h (by simp [isOptional])
  | _ => simp [toJson, Json.Value.tree]

theorem Shape.read_optional (format : Format) (s : Shape) {tree : Tree} (h : tree ≠ .null) :
    (Shape.optional s).read format tree = (s.read format tree).map some := by
  have hbind (x : Except Fault s.Content) : (do let value ← x; pure (some value)) = x.map some := by
    cases x <;> rfl
  cases tree with
  | null => exact absurd rfl h
  | _ => exact hbind _

theorem Shape.read_list (format : Format) (s : Shape) (items : List Tree) (ending : Option Defect)
    (headed : Bool) :
    (Shape.list s).read format (.array items ending headed) = (do
      let values ← Tree.readAll (fun item => s.read format item) items
      Fault.ofEnding ending
      pure values) :=
  rfl

theorem Tree.readAll_map {α β : Type} {read : Tree → Except Fault α} {write : α → β}
    {tree : β → Tree} (h : ∀ a, read (tree (write a)) = .ok a) (as : List α) :
    Tree.readAll read ((as.map write).map tree) = .ok as := by
  induction as with
  | nil => rfl
  | cons a as ih =>
      rw [List.map_cons, List.map_cons, Tree.readAll, h, ih]
      rfl

/-! ## Records -/

/-- The draft in which every slot has its value. -/
def Slots.filled : (slots : Slots) → slots.Content → slots.Draft
  | .nil, _ => ()
  | .cons _ _ rest, (value, values) => (some value, rest.filled values)

theorem Slots.complete?_filled :
    (slots : Slots) → (values : slots.Content) → slots.complete? (slots.filled values) = .ok values
  | .nil, _ => rfl
  | .cons key s rest, (value, values) => by
      rw [filled, complete?, Option.some_or, complete?_filled rest values]
      rfl

theorem Slots.ofMap_filled (slots : Slots) (values : slots.Content) :
    slots.ofMap (slots.filled values) = .ok values := by
  rw [ofMap, complete?_filled]

/-- Into the slots of a record, as its members are read. -/
def Slots.put (slots : Slots) (key : String) (tree : Tree) (draft : slots.Draft) :
    Option (Except Fault slots.Draft) :=
  slots.readMember .json key tree draft

theorem Slots.put_of_ne {slot key : String} (h : slot ≠ key) (s : Shape) (rest : Slots)
    (tree : Tree) (value : Option s.Content) (values : rest.Draft) :
    (Slots.cons slot s rest).put key tree (value, values)
      = (rest.put key tree values).map fun read => read.map fun values => (value, values) :=
  if_neg h

theorem Slots.put_self (slot : String) (s : Shape) (rest : Slots) (tree : Tree)
    (values : rest.Draft) :
    (Slots.cons slot s rest).put slot tree (none, values)
      = some ((s.read .json tree).map fun value => (some value, values)) :=
  if_pos rfl

/-- A slot that no member is for stays as it is, whatever becomes of the others. -/
theorem Slots.readMembers_cons {slot : String} (s : Shape) (rest : Slots)
    {members : List (Key × Tree)} (h : ∀ member ∈ members, member.1.read ≠ .ok slot)
    (value : Option s.Content) (values : rest.Draft) :
    Tree.readMembers (Slots.cons slot s rest).put members (value, values)
      = (Tree.readMembers rest.put members values).map fun values => (value, values) := by
  induction members generalizing values with
  | nil => rfl
  | cons member members ih =>
      obtain ⟨key, tree⟩ := member
      obtain ⟨hkey, hmembers⟩ := List.forall_mem_cons.mp h
      simp only [Tree.readMembers]
      cases hread : key.read with
      | error d => rfl
      | ok name =>
          -- the member is for another slot or for none, with or without the slot in front
          have hne : slot ≠ name := fun heq => hkey (heq ▸ hread)
          simp only [Fault.lift, Slots.put_of_ne hne, bind, Except.bind]
          cases rest.put name tree values with
          | none =>
              cases tree.skip with
              | error fault => rfl
              | ok => exact ih hmembers values
          | some read =>
              cases read with
              | error fault => rfl
              | ok values => exact ih hmembers values

theorem Shape.read_record (name : String) (slots : Slots) (members : List (Key × Tree))
    (ending : Option Defect) :
    (Shape.record name slots).read .json (.object members ending) = (do
      let draft ← Tree.readMembers slots.put members slots.blank
      Fault.ofEnding ending
      slots.ofMap draft) :=
  rfl

/-! ## Reading back -/

/-- Every value reads back from its tree. -/
def Shape.ReadsBack (s : Shape) : Prop := ∀ v : s.Content, s.read .json (s.toJson v).tree = .ok v

/-- The members of every written record fill its slots. -/
def Slots.ReadsBack (slots : Slots) : Prop :=
  ∀ values : slots.Content,
    Tree.readMembers slots.put (Json.Value.memberTrees (slots.toJson values)) slots.blank
      = .ok (slots.filled values)

theorem Shape.readsBack_form : Shape.form.ReadsBack := by
  intro form
  cases form <;> rfl

theorem Shape.readsBack_optional {s : Shape} (hs : s.ReadsBack) (hoptional : s.isOptional = false) :
    (Shape.optional s).ReadsBack := by
  intro v
  cases v with
  | none => rfl
  | some v =>
      -- a value that is there is written on its own, so it must not look like null
      have htree : ((Shape.optional s).toJson (some v)).tree = (s.toJson v).tree := rfl
      rw [htree, Shape.read_optional .json s (Shape.tree_ne_null hoptional v), hs v]
      rfl

theorem Shape.readsBack_list {s : Shape} (hs : s.ReadsBack) : (Shape.list s).ReadsBack := by
  intro vs
  have htree : ((Shape.list s).toJson vs).tree
      = .array ((List.map s.toJson vs).map Json.Value.tree) none false := by
    rw [← Json.Value.itemTrees_eq_map]
    rfl
  have hitems : Tree.readAll (fun item => s.read .json item)
      ((List.map s.toJson vs).map Json.Value.tree) = .ok vs := Tree.readAll_map hs vs
  rw [htree, Shape.read_list, hitems]
  rfl

theorem Shape.readsBack_record (name : String) {slots : Slots} (hslots : slots.ReadsBack) :
    (Shape.record name slots).ReadsBack := by
  intro values
  have htree : ((Shape.record name slots).toJson values).tree
      = .object (Json.Value.memberTrees (slots.toJson values)) none := rfl
  rw [htree, Shape.read_record, hslots values]
  exact slots.ofMap_filled values

theorem Slots.key_mem_keys : (slots : Slots) → (values : slots.Content) →
    ∀ member ∈ Json.Value.memberTrees (slots.toJson values),
      ∃ key ∈ slots.keys, member.1.read = .ok key
  | .nil, _ => fun _ h => nomatch h
  | .cons key s rest, (value, values) => by
      refine List.forall_mem_cons.mpr ⟨⟨key, List.mem_cons_self, rfl⟩, fun member hmember => ?_⟩
      obtain ⟨k, hk, hread⟩ := key_mem_keys rest values member hmember
      exact ⟨k, List.mem_cons_of_mem _ hk, hread⟩

theorem Slots.readsBack_nil : Slots.nil.ReadsBack := fun _ => rfl

/-- The first member goes into the first slot, and the others have other keys. -/
theorem Slots.readsBack_cons {key : String} {s : Shape} {rest : Slots} (hkey : key ∉ rest.keys)
    (hs : s.ReadsBack) (hrest : rest.ReadsBack) : (Slots.cons key s rest).ReadsBack := by
  intro values
  obtain ⟨value, values⟩ := values
  have hothers : ∀ member ∈ Json.Value.memberTrees (rest.toJson values),
      member.1.read ≠ .ok key := by
    intro member hmember hread
    obtain ⟨k, hk, hread'⟩ := rest.key_mem_keys values member hmember
    rw [hread] at hread'
    cases hread'
    exact hkey hk
  have hfirst : (Slots.cons key s rest).put key (s.toJson value).tree (none, rest.blank)
      = some (.ok (some value, rest.blank)) := by
    rw [Slots.put_self, hs value]
    rfl
  calc Tree.readMembers (Slots.cons key s rest).put
        ((.name (.ok key), (s.toJson value).tree) :: Json.Value.memberTrees (rest.toJson values))
        (none, rest.blank)
      = Tree.readMembers (Slots.cons key s rest).put (Json.Value.memberTrees (rest.toJson values))
          (some value, rest.blank) := by
        simp only [Tree.readMembers, Key.read, Fault.lift, bind, Except.bind, hfirst]
    _ = .ok (some value, rest.filled values) := by
        rw [Slots.readMembers_cons s rest hothers, hrest values]
        rfl

mutual

/-- **Every value of a faithful shape reads back.** -/
theorem Shape.readsBack : (s : Shape) → s.faithful = true → s.ReadsBack
  | .text, _ => fun _ => rfl
  | .flag, _ => fun _ => rfl
  | .count, _ => fun _ => rfl
  | .form, _ => Shape.readsBack_form
  | .optional s, h => by
      obtain ⟨hoptional, hs⟩ : s.isOptional = false ∧ s.faithful = true := by
        simpa [Shape.faithful] using h
      exact Shape.readsBack_optional (Shape.readsBack s hs) hoptional
  | .list s, h => Shape.readsBack_list (Shape.readsBack s h)
  | .record name slots, h => Shape.readsBack_record name (Slots.readsBack slots h)

theorem Slots.readsBack : (slots : Slots) → slots.faithful = true → slots.ReadsBack
  | .nil, _ => Slots.readsBack_nil
  | .cons key s rest, h => by
      obtain ⟨⟨hkey, hs⟩, hrest⟩ :
          (key ∉ rest.keys ∧ s.faithful = true) ∧ rest.faithful = true := by
        simpa [Slots.faithful] using h
      exact Slots.readsBack_cons hkey (Shape.readsBack s hs) (Slots.readsBack rest hrest)

end

/-- **A value of a faithful shape reads back from its JSON text.** -/
theorem Json.readShape_compact {s : Shape} (h : s.faithful = true) (v : s.Content) :
    Json.readShape s (s.toJson v).compact = .ok v := by
  rw [Json.readShape, Json.Document.ofText_compact]
  simp only [s.readsBack h v, bind, Except.bind]
  rfl

end CompactQuery
