import CompactQuery.Proofs.Failing
import CompactQuery.Proofs.Schema.RoundTrip

/-!
# Members — what a record has been read from

The members of a record are read one after the other into a draft, but what comes of them can be
told slot by slot: a slot takes what the one member with its key holds, or is left out, and the
members with other keys are passed over.

* **`Shape.Takes`** — a value for a slot, from what the members with its key hold.
* **`Slots.Given`**, **`Slots.Passes`** — the values of all slots, and that nothing else stands in
  the way.
* **`Slots.readMembers_cons_iff`** — one slot apart from the others, by induction on the members.
* **`Shape.read_object_iff`** — the members of a record, by induction on the slots.
-/

namespace CompactQuery

/-! ## Keys and slots -/

/-- The key is read as this name. -/
def Key.names (key : Key) (name : String) : Bool :=
  match key.read with
  | .ok read => decide (read = name)
  | .error _ => false

theorem Key.names_iff {key : Key} {name : String} : key.names name ↔ key.read = .ok name := by
  unfold Key.names
  cases key.read <;> simp

theorem Key.names_eq_false_iff {key : Key} {name : String} :
    key.names name = false ↔ key.read ≠ .ok name := by
  rw [Bool.eq_false_iff, Ne, names_iff]

/-- What the members with this key hold, in their order. -/
def Tree.named (name : String) (members : List (Key × Tree)) : List Tree :=
  (members.filter fun member => member.1.names name).map Prod.snd

/-- The members with other keys. -/
def Tree.others (name : String) (members : List (Key × Tree)) : List (Key × Tree) :=
  members.filter fun member => !member.1.names name

theorem Tree.named_others {name other : String} (h : name ≠ other)
    (members : List (Key × Tree)) :
    named name (others other members) = named name members := by
  rw [named, others, List.filter_filter]
  congr 2
  funext member
  have hnames : member.1.names name → member.1.names other = false := by
    intro hname
    rw [Key.names_eq_false_iff, Key.names_iff.mp hname]
    simpa using h
  cases hname : member.1.names name with
  | false => rfl
  | true => simp [hnames hname]

theorem Tree.named_append (name : String) (members more : List (Key × Tree)) :
    named name (members ++ more) = named name members ++ named name more := by
  rw [named, List.filter_append, List.map_append, named, named]

theorem Tree.named_cons (name : String) (member : Key × Tree) (members : List (Key × Tree)) :
    named name (member :: members)
      = if member.1.names name then member.2 :: named name members else named name members := by
  rw [named, List.filter_cons]
  split <;> rfl

/-- The slots as a list. -/
def Slots.toList : Slots → List (String × Shape)
  | .nil => []
  | .cons key s rest => (key, s) :: rest.toList

theorem Slots.keys_eq_map (slots : Slots) : slots.keys = slots.toList.map Prod.fst := by
  match slots with
  | .nil => rfl
  | .cons key s rest => rw [keys, rest.keys_eq_map, toList, List.map_cons]

theorem Slots.key_mem {slots : Slots} {key : String} {s : Shape} (h : (key, s) ∈ slots.toList) :
    key ∈ slots.keys := by
  rw [keys_eq_map]
  exact List.mem_map_of_mem (f := Prod.fst) h

/-! ## What a slot takes -/

/-- A value for a slot, from what the members with its key hold. -/
inductive Shape.Takes (s : Shape) : List Tree → s.Content → Prop where
  | left {v : s.Content} (h : s.absent = some v) : s.Takes [] v
  | given {tree : Tree} {v : s.Content} (h : s.read .json tree = .ok v) : s.Takes [tree] v

theorem Shape.takes_nil_iff {s : Shape} {v : s.Content} : s.Takes [] v ↔ s.absent = some v := by
  constructor
  · rintro ⟨h⟩
    exact h
  · exact .left

theorem Shape.takes_singleton_iff {s : Shape} {tree : Tree} {v : s.Content} :
    s.Takes [tree] v ↔ s.read .json tree = .ok v := by
  constructor
  · rintro (_ | h)
    exact h
  · exact .given

/-- A slot takes what one member holds only if no other member has its key. -/
theorem Shape.Takes.eq_singleton {s : Shape} {tree : Tree} {trees : List Tree} {v : s.Content}
    (h : s.Takes trees v) (hmem : tree ∈ trees) : trees = [tree] ∧ s.read .json tree = .ok v := by
  cases h with
  | left h => exact nomatch hmem
  | given h =>
      cases List.mem_singleton.mp hmem
      exact ⟨rfl, h⟩

theorem Tree.mem_named {name : String} {members : List (Key × Tree)} {member : Key × Tree}
    (hmem : member ∈ members) (hkey : member.1.read = .ok name) :
    member.2 ∈ named name members :=
  List.mem_map_of_mem (List.mem_filter.mpr ⟨hmem, Key.names_iff.mpr hkey⟩)

/-- A slot that is being read, before and behind members that hold this. -/
inductive Shape.Fills (s : Shape) : List Tree → Option s.Content → Option s.Content → Prop where
  | kept (value : Option s.Content) : s.Fills [] value value
  | filled {tree : Tree} {v : s.Content} (h : s.read .json tree = .ok v) :
      s.Fills [tree] none (some v)

theorem Shape.takes_iff {s : Shape} {trees : List Tree} {v : s.Content} :
    s.Takes trees v ↔ ∃ value, s.Fills trees none value ∧ value.or s.absent = some v := by
  constructor
  · intro h
    cases h with
    | left h => exact ⟨none, .kept none, h⟩
    | given h => exact ⟨some v, .filled h, rfl⟩
  · rintro ⟨value, hfills, hvalue⟩
    cases hfills with
    | kept => exact .left hvalue
    | filled h =>
        cases hvalue
        exact .given h

theorem Shape.fills_cons_iff {s : Shape} {tree : Tree} {trees : List Tree}
    {value filled : Option s.Content} :
    s.Fills (tree :: trees) value filled ↔
      value = none ∧ ∃ v, s.read .json tree = .ok v ∧ s.Fills trees (some v) filled := by
  constructor
  · intro h
    cases h with
    | filled h => exact ⟨rfl, _, h, .kept _⟩
  · rintro ⟨rfl, v, h, hfills⟩
    cases hfills with
    | kept => exact .filled h

/-- A member turns one draft into another: its value is stored, or it is passed over. -/
def Tree.Stores {δ : Type} (put : String → Tree → δ → Option (Except Fault δ)) (name : String)
    (tree : Tree) (draft next : δ) : Prop :=
  put name tree draft = some (.ok next) ∨
    put name tree draft = none ∧ tree.skipDefect = none ∧ next = draft

theorem Tree.readMembers_cons_ok {δ : Type} {put : String → Tree → δ → Option (Except Fault δ)}
    {key : Key} {tree : Tree} {members : List (Key × Tree)} {draft last : δ} :
    readMembers put ((key, tree) :: members) draft = .ok last ↔
      ∃ name, key.read = .ok name ∧ ∃ next, Stores put name tree draft next ∧
        readMembers put members next = .ok last := by
  simp only [readMembers, Except.bind_eq_ok, Fault.lift_eq_ok, Stores]
  refine exists_congr fun name => and_congr_right fun _ => ?_
  cases put name tree draft with
  | none => simp [Except.bind_eq_ok, skip, Fault.ofEnding_eq_ok, pure, Except.pure]
  | some read => simp [Except.bind_eq_ok]

section

variable {slot : String} {s : Shape} {rest : Slots}

theorem Slots.stores_self {tree : Tree} {value next : Option s.Content}
    {values others : rest.Draft} :
    Tree.Stores (Slots.cons slot s rest).put slot tree (value, values) (next, others) ↔
      value = none ∧ (∃ v, s.read .json tree = .ok v ∧ next = some v) ∧ others = values := by
  cases value with
  | some v =>
      have hput : (Slots.cons slot s rest).put slot tree (some v, values)
          = some (.error (.mismatch (.duplicateKey slot))) := if_pos rfl
      simp [Tree.Stores, hput]
  | none =>
      have hput := Slots.put_self slot s rest tree values
      simp only [Tree.Stores, hput]
      constructor
      · rintro (hsome | ⟨hnone, _⟩)
        · obtain ⟨v, hv, heq⟩ := Except.map_eq_ok.mp (Option.some.inj hsome)
          cases heq
          exact ⟨trivial, ⟨v, hv, rfl⟩, rfl⟩
        · exact nomatch hnone
      · rintro ⟨_, ⟨v, hv, rfl⟩, rfl⟩
        exact .inl (by rw [hv]; rfl)

theorem Slots.stores_of_ne {name : String} (h : slot ≠ name) {tree : Tree}
    {value next : Option s.Content} {values others : rest.Draft} :
    Tree.Stores (Slots.cons slot s rest).put name tree (value, values) (next, others) ↔
      next = value ∧ Tree.Stores rest.put name tree values others := by
  have hput := Slots.put_of_ne h s rest tree value values
  simp only [Tree.Stores, hput]
  constructor
  · rintro (hsome | ⟨hnone, hskip, heq⟩)
    · obtain ⟨read, hread, hmap⟩ := Option.map_eq_some_iff.mp hsome
      obtain ⟨values', rfl, heq⟩ := Except.map_eq_ok.mp hmap
      cases heq
      exact ⟨rfl, .inl hread⟩
    · cases heq
      exact ⟨rfl, .inr ⟨Option.map_eq_none_iff.mp hnone, hskip, rfl⟩⟩
  · rintro ⟨rfl, hsome | ⟨hnone, hskip, rfl⟩⟩
    · exact .inl (by rw [hsome]; rfl)
    · exact .inr ⟨by rw [hnone]; rfl, hskip, rfl⟩

/-- **One slot apart from the others.** -/
theorem Slots.readMembers_cons_iff {members : List (Key × Tree)} {value last : Option s.Content}
    {values others : rest.Draft} :
    Tree.readMembers (Slots.cons slot s rest).put members (value, values) = .ok (last, others) ↔
      s.Fills (Tree.named slot members) value last ∧
        Tree.readMembers rest.put (Tree.others slot members) values = .ok others := by
  induction members generalizing value values with
  | nil =>
      constructor
      · rintro ⟨⟩
        exact ⟨.kept _, rfl⟩
      · rintro ⟨⟨⟩, ⟨⟩⟩
        rfl
  | cons member members ih =>
      obtain ⟨key, tree⟩ := member
      refine Tree.readMembers_cons_ok.trans ?_
      rw [Tree.named_cons]
      by_cases hslot : key.read = .ok slot
      · -- the member is for this slot
        have hnames : key.names slot := Key.names_iff.mpr hslot
        have hothers : Tree.others slot ((key, tree) :: members) = Tree.others slot members := by
          simp [Tree.others, hnames]
        rw [if_pos hnames, hothers, Shape.fills_cons_iff, hslot]
        constructor
        · rintro ⟨_, ⟨⟩, ⟨value', values'⟩, hstores, hmembers⟩
          obtain ⟨rfl, ⟨v, hv, rfl⟩, rfl⟩ := Slots.stores_self.mp hstores
          obtain ⟨hfills, hrest⟩ := ih.mp hmembers
          exact ⟨⟨rfl, v, hv, hfills⟩, hrest⟩
        · rintro ⟨⟨rfl, v, hv, hfills⟩, hrest⟩
          exact ⟨slot, rfl, (some v, values), Slots.stores_self.mpr ⟨rfl, ⟨v, hv, rfl⟩, rfl⟩,
            ih.mpr ⟨hfills, hrest⟩⟩
      · -- it is for another slot or for none
        have hnames : key.names slot = false := Key.names_eq_false_iff.mpr hslot
        have hothers : Tree.others slot ((key, tree) :: members)
            = (key, tree) :: Tree.others slot members := by
          simp [Tree.others, hnames]
        have hne {name : String} (hname : key.read = .ok name) : slot ≠ name :=
          fun h => hslot (h ▸ hname)
        rw [if_neg (by simp [hnames]), hothers, Tree.readMembers_cons_ok]
        constructor
        · rintro ⟨name, hname, ⟨value', values'⟩, hstores, hmembers⟩
          obtain ⟨rfl, hothers⟩ := (Slots.stores_of_ne (hne hname)).mp hstores
          obtain ⟨hfills, hrest⟩ := ih.mp hmembers
          exact ⟨hfills, name, hname, values', hothers, hrest⟩
        · rintro ⟨hfills, name, hname, values', hstores, hrest⟩
          exact ⟨name, hname, (value, values'), (Slots.stores_of_ne (hne hname)).mpr ⟨rfl, hstores⟩,
            ih.mpr ⟨hfills, hrest⟩⟩

end

/-! ## Records -/

/-- The values of all slots, from the members of a record. -/
def Slots.Given : (slots : Slots) → List (Key × Tree) → slots.Content → Prop
  | .nil, _, _ => True
  | .cons key s rest, members, (value, values) =>
    s.Takes (Tree.named key members) value ∧ rest.Given members values

/-- All members have keys that can be read, and those for no slot can be passed over. -/
def Slots.Passes (slots : Slots) (members : List (Key × Tree)) : Prop :=
  ∀ member ∈ members, ∃ name, member.1.read = .ok name ∧
    (name ∉ slots.keys → member.2.skipDefect = none)

/-- Only what the members with the keys of the slots hold matters. -/
theorem Slots.Given.mono {slots : Slots} {members members' : List (Key × Tree)}
    (h : ∀ key s, (key, s) ∈ slots.toList → ∀ v : s.Content,
      s.Takes (Tree.named key members) v → s.Takes (Tree.named key members') v)
    {values : slots.Content} (hgiven : slots.Given members values) :
    slots.Given members' values := by
  match slots, values with
  | .nil, _ => trivial
  | .cons key s rest, (value, values) =>
      exact ⟨h key s List.mem_cons_self value hgiven.1,
        mono (fun key s hmem => h key s (List.mem_cons_of_mem _ hmem)) hgiven.2⟩

theorem Slots.given_others {slots : Slots} {key : String} (h : key ∉ slots.keys)
    {members : List (Key × Tree)} {values : slots.Content} :
    slots.Given (Tree.others key members) values ↔ slots.Given members values := by
  have hnamed {k : String} {s : Shape} (hmem : (k, s) ∈ slots.toList) :
      Tree.named k (Tree.others key members) = Tree.named k members :=
    Tree.named_others (by rintro rfl; exact h (Slots.key_mem hmem)) members
  constructor
  · exact Slots.Given.mono fun k s hmem v htakes => hnamed hmem ▸ htakes
  · exact Slots.Given.mono fun k s hmem v htakes => (hnamed hmem).symm ▸ htakes

theorem Slots.passes_others {key : String} {s : Shape} {rest : Slots}
    {members : List (Key × Tree)} :
    rest.Passes (Tree.others key members) ↔ (Slots.cons key s rest).Passes members := by
  constructor
  · intro h member hmem
    by_cases hkey : member.1.read = .ok key
    · exact ⟨key, hkey, fun hnot => (hnot List.mem_cons_self).elim⟩
    · obtain ⟨name, hname, hskip⟩ := h member
        (by simp [Tree.others, hmem, Key.names_eq_false_iff, hkey])
      exact ⟨name, hname, fun hnot => hskip fun hrest => hnot (List.mem_cons_of_mem _ hrest)⟩
  · intro h member hmem
    obtain ⟨hmem, hkey⟩ : member ∈ members ∧ member.1.read ≠ .ok key := by
      simpa [Tree.others, Key.names_eq_false_iff] using hmem
    obtain ⟨name, hname, hskip⟩ := h member hmem
    refine ⟨name, hname, fun hnot => hskip fun hin => ?_⟩
    rcases List.mem_cons.mp hin with rfl | hin
    · exact hkey hname
    · exact hnot hin

theorem Slots.complete?_cons_iff {key : String} {s : Shape} {rest : Slots}
    {last : Option s.Content} {others : rest.Draft} {value : s.Content} {values : rest.Content} :
    (Slots.cons key s rest).complete? (last, others) = .ok (value, values) ↔
      last.or s.absent = some value ∧ rest.complete? others = .ok values := by
  simp only [complete?]
  cases last.or s.absent with
  | none => simp
  | some v =>
      constructor
      · intro h
        obtain ⟨_, hothers, heq⟩ := Except.map_eq_ok.mp h
        cases heq
        exact ⟨rfl, hothers⟩
      · rintro ⟨⟨⟩, hothers⟩
        simp only [hothers]
        rfl

/-- **What a record is read from**, told slot by slot. -/
theorem Slots.readMembers_iff {slots : Slots} (h : slots.faithful = true)
    {members : List (Key × Tree)} {values : slots.Content} :
    (∃ draft, Tree.readMembers slots.put members slots.blank = .ok draft ∧
        slots.complete? draft = .ok values) ↔
      slots.Given members values ∧ slots.Passes members := by
  match slots, values with
  | .nil, () =>
      constructor
      · rintro ⟨draft, hdraft, _⟩
        refine ⟨trivial, ?_⟩
        induction members with
        | nil => exact List.forall_mem_nil _
        | cons member members ih =>
            obtain ⟨name, hname, _, hstores, hmembers⟩ := Tree.readMembers_cons_ok.mp hdraft
            obtain hstores | ⟨_, hskip, _⟩ := hstores
            · exact nomatch hstores
            · exact List.forall_mem_cons.mpr ⟨⟨name, hname, fun _ => hskip⟩, ih hmembers⟩
      · rintro ⟨_, hpasses⟩
        refine ⟨(), ?_, rfl⟩
        induction members with
        | nil => rfl
        | cons member members ih =>
            obtain ⟨⟨name, hname, hskip⟩, hmembers⟩ := List.forall_mem_cons.mp hpasses
            exact Tree.readMembers_cons_ok.mpr
              ⟨name, hname, (), .inr ⟨rfl, hskip List.not_mem_nil, rfl⟩, ih trivial hmembers⟩
  | .cons key s rest, (value, values) =>
      obtain ⟨⟨hkey, hs⟩, hrest⟩ :
          (key ∉ rest.keys ∧ s.faithful = true) ∧ rest.faithful = true := by
        simpa [Slots.faithful] using h
      rw [← Slots.passes_others, Slots.Given, ← Slots.given_others hkey, and_assoc,
        ← readMembers_iff hrest, Shape.takes_iff]
      constructor
      · rintro ⟨⟨last, others⟩, hdraft, hcomplete⟩
        obtain ⟨hfills, hothers⟩ := Slots.readMembers_cons_iff.mp hdraft
        obtain ⟨hlast, hcomplete⟩ := Slots.complete?_cons_iff.mp hcomplete
        exact ⟨⟨last, hfills, hlast⟩, others, hothers, hcomplete⟩
      · rintro ⟨⟨last, hfills, hlast⟩, others, hothers, hcomplete⟩
        exact ⟨(last, others), Slots.readMembers_cons_iff.mpr ⟨hfills, hothers⟩,
          Slots.complete?_cons_iff.mpr ⟨hlast, hcomplete⟩⟩

theorem Slots.ofMap_eq_ok {slots : Slots} {draft : slots.Draft} {values : slots.Content} :
    slots.ofMap draft = .ok values ↔ slots.complete? draft = .ok values := by
  unfold ofMap
  cases slots.complete? draft <;> simp

/-- **A record written as a map.** -/
theorem Shape.read_object_iff {name : String} {slots : Slots} (h : slots.faithful = true)
    {members : List (Key × Tree)} {ending : Option Defect} {values : slots.Content} :
    (Shape.record name slots).read .json (.object members ending) = .ok values ↔
      ending = none ∧ slots.Given members values ∧ slots.Passes members := by
  rw [Shape.read_record, ← Slots.readMembers_iff h]
  constructor
  · intro hread
    obtain ⟨draft, hdraft, hread⟩ := Except.bind_eq_ok.mp hread
    obtain ⟨_, hending, hread⟩ := Except.bind_eq_ok.mp hread
    exact ⟨Fault.ofEnding_eq_ok.mp hending, draft, hdraft, Slots.ofMap_eq_ok.mp hread⟩
  · rintro ⟨rfl, draft, hdraft, hcomplete⟩
    exact Except.bind_eq_ok.mpr ⟨draft, hdraft,
      Except.bind_eq_ok.mpr ⟨(), rfl, Slots.ofMap_eq_ok.mpr hcomplete⟩⟩

/-- Each slot takes what the members with its key hold. -/
theorem Slots.Given.takes {slots : Slots} {members : List (Key × Tree)} {values : slots.Content}
    (h : slots.Given members values) {key : String} {s : Shape} (hmem : (key, s) ∈ slots.toList) :
    ∃ v, s.Takes (Tree.named key members) v := by
  match slots, values with
  | .nil, _ => exact nomatch hmem
  | .cons slot s rest, (value, values) =>
      rcases List.mem_cons.mp hmem with heq | hmem
      · cases heq
        exact ⟨value, h.1⟩
      · exact h.2.takes hmem

end CompactQuery
