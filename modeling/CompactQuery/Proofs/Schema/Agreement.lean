import CompactQuery.Proofs.Schema.Items

/-!
# Agreement — the same data in either format

Data of texts, truth values, integers, lists and tables can be written in JSON and in TOML. The two
readers agree on it: they take the same value from it, or they find the same fault at the same
place, and the fault is never a defect of the text. They part only at a record that is written as a
sequence, which data may not have, and at the form of output, which shapes may not have.

* **`Data`** — what both formats can write; **`Tree.Holds`** — that a tree spells it.
* **`Shape.mapped`** — no record is written as a sequence; **`Shape.formless`** — no form of output.
* **`Shape.agrees`** — the readers agree, one case for each kind of shape; a record is an induction
  on its members.
-/

namespace CompactQuery

/-! ## Data -/

/-- What both formats can write. -/
inductive Data where
  | text (s : String)
  | flag (b : Bool)
  | integer (i : Int)
  | list (items : List Data)
  | table (members : List (String × Data))

/-- An integer as a number that readers tell apart. -/
def Number.ofInt (i : Int) : Number :=
  if i < 0 then .negative i else .natural (UInt64.ofNat i.toNat)

mutual

/-- The tree spells the data. Integers are those of 64 bits. -/
inductive Tree.Holds : Tree → Data → Prop where
  | text (s : String) : Holds (.text (.ok s)) (.text s)
  | flag (b : Bool) : Holds (.flag b) (.flag b)
  | integer {i : Int} (hlower : -9223372036854775808 ≤ i) (hupper : i ≤ 9223372036854775807) :
      Holds (.number (.ok (.ofInt i))) (.integer i)
  | list {trees : List Tree} {items : List Data} (headed : Bool) (h : Tree.HoldsItems trees items) :
      Holds (.array trees none headed) (.list items)
  | table {entries : List (Key × Tree)} {members : List (String × Data)}
      (h : Tree.HoldsMembers entries members) : Holds (.object entries none) (.table members)

/-- Each tree spells its item. -/
inductive Tree.HoldsItems : List Tree → List Data → Prop where
  | nil : HoldsItems [] []
  | cons {tree : Tree} {item : Data} {trees : List Tree} {items : List Data}
      (h : Tree.Holds tree item) (hrest : HoldsItems trees items) : HoldsItems (tree :: trees) (item :: items)

/-- Each entry has the key of its member and spells its data. -/
inductive Tree.HoldsMembers : List (Key × Tree) → List (String × Data) → Prop where
  | nil : HoldsMembers [] []
  | cons {name : String} {tree : Tree} {data : Data} {entries : List (Key × Tree)}
      {members : List (String × Data)} (h : Tree.Holds tree data)
      (hrest : HoldsMembers entries members) :
      HoldsMembers ((.name (.ok name), tree) :: entries) ((name, data) :: members)

end

mutual

/-- Whether the tree spells the data. -/
def Tree.holds : Tree → Data → Bool
  | .text (.ok s), .text s' => s = s'
  | .flag b, .flag b' => b = b'
  | .number (.ok n), .integer i =>
    -9223372036854775808 ≤ i && i ≤ 9223372036854775807 && n = .ofInt i
  | .array trees none _, .list items => Tree.holdsItems trees items
  | .object entries none, .table members => Tree.holdsMembers entries members
  | _, _ => false

def Tree.holdsItems : List Tree → List Data → Bool
  | [], [] => true
  | tree :: trees, item :: items => tree.holds item && Tree.holdsItems trees items
  | _, _ => false

def Tree.holdsMembers : List (Key × Tree) → List (String × Data) → Bool
  | [], [] => true
  | (.name (.ok name), tree) :: entries, (name', data) :: members =>
    name = name' && tree.holds data && Tree.holdsMembers entries members
  | _, _ => false

end

theorem Tree.holds_sound :
    (∀ (tree : Tree) (data : Data), tree.holds data → tree.Holds data) ∧
      (∀ (entries : List (Key × Tree)) (members : List (String × Data)),
        holdsMembers entries members → HoldsMembers entries members) ∧
      ∀ (trees : List Tree) (items : List Data),
        holdsItems trees items → HoldsItems trees items := by
  apply Tree.holds.mutual_induct
  case case1 =>
    intro s s' h
    obtain rfl : s = s' := by simpa [holds] using h
    exact .text s
  case case2 =>
    intro b b' h
    obtain rfl : b = b' := by simpa [holds] using h
    exact .flag b
  case case3 =>
    intro n i h
    obtain ⟨⟨hlower, hupper⟩, rfl⟩ :
        (-9223372036854775808 ≤ i ∧ i ≤ 9223372036854775807) ∧ n = .ofInt i := by
      simpa [holds] using h
    exact .integer hlower hupper
  case case4 => exact fun trees headed items ih h => .list headed (ih h)
  case case5 => exact fun entries members ih h => .table (ih h)
  case case7 => exact fun _ => .nil
  case case8 =>
    intro tree trees item items ihtree ihtrees h
    obtain ⟨htree, htrees⟩ := Bool.and_eq_true_iff.mp h
    exact .cons (ihtree htree) (ihtrees htrees)
  case case10 => exact fun _ => .nil
  case case11 =>
    intro name tree entries name' data members ihtree ihentries h
    obtain ⟨⟨rfl, htree⟩, hentries⟩ : (name = name' ∧ tree.holds data) ∧
        holdsMembers entries members := by simpa [holdsMembers] using h
    exact .cons (ihtree htree) (ihentries hentries)
  -- anything else is no data
  case case6 => simp +contextual [holds]
  case case9 => simp +contextual [holdsItems]
  case case12 => simp +contextual [holdsMembers]

mutual

/-- No record of the shape is written as a sequence. -/
def Shape.mapped : Shape → Data → Bool
  | .text, _ => true
  | .flag, _ => true
  | .count, _ => true
  | .form, _ => true
  | .optional s, data => s.mapped data
  | .list s, data =>
    match data with
    | .list items => items.all fun item => s.mapped item
    | _ => true
  | .record _ slots, data =>
    match data with
    | .list _ => false
    | .table members => members.all fun (name, data) => slots.mapped name data
    | _ => true

/-- No record in the slot with this key is written as a sequence. -/
def Slots.mapped : Slots → String → Data → Bool
  | .nil, _, _ => true
  | .cons key s rest, name, data => if key = name then s.mapped data else rest.mapped name data

end

mutual

/-- No part is a form of output. -/
def Shape.formless : Shape → Bool
  | .text => true
  | .flag => true
  | .count => true
  | .form => false
  | .optional s => s.formless
  | .list s => s.formless
  | .record _ slots => slots.formless

def Slots.formless : Slots → Bool
  | .nil => true
  | .cons _ s rest => s.formless && rest.formless

end

/-! ## Mismatches -/

/-- If anything is at fault, it is a mismatch. -/
def Mismatched {α : Type} (x : Except Fault α) : Prop :=
  ∀ fault, x = .error fault → ∃ m, fault = .mismatch m

theorem mismatched_ok {α : Type} (a : α) : Mismatched (.ok a) := fun _ h => nomatch h

theorem mismatched_mismatch {α : Type} (m : Mismatch) :
    Mismatched (.error (.mismatch m) : Except Fault α) := by
  rintro fault ⟨⟩
  exact ⟨m, rfl⟩

theorem Mismatched.bind {α β : Type} {x : Except Fault α} {f : α → Except Fault β}
    (hx : Mismatched x) (hf : ∀ a, Mismatched (f a)) : Mismatched (x >>= f) := by
  cases x with
  | error fault =>
      intro fault' h
      exact hx fault' (by cases h; rfl)
  | ok a => exact hf a

theorem Mismatched.map {α β : Type} {x : Except Fault α} (hx : Mismatched x) (f : α → β) :
    Mismatched (x.map f) := by
  cases x with
  | error fault =>
      intro fault' h
      exact hx fault' (by cases h; rfl)
  | ok a => exact mismatched_ok (f a)

/-! ## Trees that hold the same data -/

mutual

theorem Tree.Holds.skipDefect_eq_none : {tree : Tree} → {data : Data} → tree.Holds data →
    tree.skipDefect = none
  | _, _, .text _ | _, _, .flag _ | _, _, .integer _ _ => rfl
  | _, _, .list _ h => by rw [skipDefect, h.skipItems_eq_none, Option.none_or]
  | _, _, .table h => by rw [skipDefect, h.skipMembers_eq_none, Option.none_or]

theorem Tree.HoldsItems.skipItems_eq_none : {trees : List Tree} → {items : List Data} →
    HoldsItems trees items → skipItems trees = none
  | _, _, .nil => rfl
  | _, _, .cons h hrest => by
      rw [skipItems, h.skipDefect_eq_none, hrest.skipItems_eq_none, Option.none_or]

theorem Tree.HoldsMembers.skipMembers_eq_none : {entries : List (Key × Tree)} →
    {members : List (String × Data)} → HoldsMembers entries members → skipMembers entries = none
  | _, _, .nil => rfl
  | _, _, .cons h hrest => by
      rw [skipMembers, Key.skipDefect, h.skipDefect_eq_none, hrest.skipMembers_eq_none,
        Option.none_or, Option.none_or]

end

/-- Two readings are the same, and if they are at fault, it is a mismatch. -/
def Alike {α : Type} (x y : Except Fault α) : Prop := x = y ∧ Mismatched x

theorem Alike.bind {α β : Type} {x y : Except Fault α} {f g : α → Except Fault β}
    (h : Alike x y) (hfg : ∀ a, Alike (f a) (g a)) : Alike (x >>= f) (y >>= g) := by
  obtain ⟨rfl, hx⟩ := h
  have hf : f = g := funext fun a => (hfg a).1
  subst hf
  exact ⟨rfl, hx.bind fun a => (hfg a).2⟩

theorem Alike.map {α β : Type} {x y : Except Fault α} (h : Alike x y) (f : α → β) :
    Alike (x.map f) (y.map f) := by
  obtain ⟨rfl, hx⟩ := h
  exact ⟨rfl, hx.map f⟩

theorem alike_ok {α : Type} (a : α) : Alike (.ok a) (.ok a) := ⟨rfl, mismatched_ok a⟩

theorem alike_option_map {α β : Type} {x y : Option (Except Fault α)} (h : Option.Rel Alike x y)
    (f : α → β) : Option.Rel Alike (x.map (·.map f)) (y.map (·.map f)) := by
  cases h with
  | none => exact .none
  | some h => exact .some (h.map f)

theorem alike_mismatch {α : Type} (m : Mismatch) :
    Alike (.error (.mismatch m) : Except Fault α) (.error (.mismatch m)) :=
  ⟨rfl, mismatched_mismatch m⟩

section

variable {tree tree' : Tree} {data : Data}

theorem Tree.Holds.found_eq (h : tree.Holds data) (h' : tree'.Holds data) :
    ∃ found, tree.found = .ok found ∧ tree'.found = .ok found := by
  cases data <;> cases h <;> cases h' <;> exact ⟨_, rfl, rfl⟩

theorem Tree.Holds.unlike_alike {α : Type} (h : tree.Holds data) (h' : tree'.Holds data)
    (expected : Expected) :
    Alike (tree.unlike expected : Except Fault α) (tree'.unlike expected) := by
  obtain ⟨found, hfound, hfound'⟩ := h.found_eq h'
  simp only [unlike, hfound, hfound']
  exact alike_mismatch _

theorem Tree.Holds.readText_alike (h : tree.Holds data) (h' : tree'.Holds data) :
    Alike tree.readText tree'.readText := by
  have hunlike := h.unlike_alike (α := String) h' .text
  cases data with
  | text s =>
      cases h
      cases h'
      exact alike_ok s
  | flag | integer | list | table =>
      cases h
      cases h'
      exact hunlike

theorem Tree.Holds.readFlag_alike (h : tree.Holds data) (h' : tree'.Holds data) :
    Alike tree.readFlag tree'.readFlag := by
  have hunlike := h.unlike_alike (α := Bool) h' .flag
  cases data with
  | flag b =>
      cases h
      cases h'
      exact alike_ok b
  | text | integer | list | table =>
      cases h
      cases h'
      exact hunlike

theorem Tree.Holds.readCount_alike (h : tree.Holds data) (h' : tree'.Holds data) :
    Alike tree.readCount tree'.readCount := by
  have hunlike := h.unlike_alike (α := UInt64) h' .count
  cases data with
  | integer i =>
      cases h
      cases h'
      unfold Number.ofInt
      split
      · exact alike_mismatch _
      · exact alike_ok _
  | text | flag | list | table =>
      cases h
      cases h'
      exact hunlike

end

/-! ## The two readers -/

/-- The readers of both formats agree on data of the shape. -/
def Shape.Agrees (s : Shape) : Prop :=
  ∀ {tree tree' : Tree} {data : Data}, tree.Holds data → tree'.Holds data → s.mapped data →
    Alike (s.read .json tree) (s.read .toml tree')

/-- So they do on the members of a record with these slots. -/
def Slots.Agree (slots : Slots) : Prop :=
  ∀ (name : String) (draft : slots.Draft) {tree tree' : Tree} {data : Data}, tree.Holds data →
    tree'.Holds data → slots.mapped name data →
    Option.Rel Alike (slots.readMember .json name tree draft)
      (slots.readMember .toml name tree' draft)

theorem Tree.readAll_alike {α : Type} {read read' : Tree → Except Fault α}
    {trees trees' : List Tree} {items : List Data} (h : HoldsItems trees items)
    (h' : HoldsItems trees' items)
    (hread : ∀ {tree tree' : Tree}, ∀ item ∈ items, tree.Holds item → tree'.Holds item →
      Alike (read tree) (read' tree')) :
    Alike (readAll read trees) (readAll read' trees') := by
  induction items generalizing trees trees' with
  | nil =>
      cases h
      cases h'
      exact alike_ok []
  | cons item items ih =>
      obtain _ | ⟨htree, hrest⟩ := h
      obtain _ | ⟨htree', hrest'⟩ := h'
      refine (hread item List.mem_cons_self htree htree').bind fun value => ?_
      exact (ih hrest hrest' fun item hmem => hread item (List.mem_cons_of_mem _ hmem)).bind
        fun values => alike_ok _

theorem Shape.agrees_optional {s : Shape} (hs : s.Agrees) : (Shape.optional s).Agrees := by
  intro tree tree' data h h' hmapped
  have hnull : tree ≠ .null := by
    rintro rfl
    exact nomatch h
  have hnull' : tree' ≠ .null := by
    rintro rfl
    exact nomatch h'
  rw [Shape.read_optional .json s hnull, Shape.read_optional .toml s hnull']
  exact (hs h h' hmapped).map some

theorem Shape.agrees_list {s : Shape} (hs : s.Agrees) : (Shape.list s).Agrees := by
  intro tree tree' data h h' hmapped
  have hunlike := h.unlike_alike (α := List s.Content) h' .sequence
  cases data with
  | list items =>
      cases h with | list headed hitems =>
      cases h' with | list headed' hitems' =>
      have hall : ∀ item ∈ items, s.mapped item := List.all_eq_true.mp hmapped
      rw [Shape.read_list, Shape.read_list]
      refine (Tree.readAll_alike hitems hitems' fun item hmem htree htree' =>
        hs htree htree' (hall item hmem)).bind fun values => alike_ok values
  | text | flag | integer | table =>
      cases h
      cases h'
      exact hunlike

theorem Tree.readMembers_alike {slots : Slots} (hslots : slots.Agree)
    {entries entries' : List (Key × Tree)} {members : List (String × Data)}
    (h : HoldsMembers entries members) (h' : HoldsMembers entries' members)
    (hmapped : ∀ member ∈ members, slots.mapped member.1 member.2) (draft : slots.Draft) :
    Alike (readMembers (fun key tree draft => slots.readMember .json key tree draft) entries draft)
      (readMembers (fun key tree draft => slots.readMember .toml key tree draft) entries'
        draft) := by
  induction members generalizing entries entries' draft with
  | nil =>
      cases h
      cases h'
      exact alike_ok draft
  | cons member members ih =>
      cases h with | @cons name tree data entries members htree hrest =>
      cases h' with | @cons name tree' data entries' members htree' hrest' =>
      obtain ⟨hmember, hmembers⟩ := List.forall_mem_cons.mp hmapped
      have hstored := hslots name draft htree htree' hmember
      have hnext (next : slots.Draft) := ih hrest hrest' hmembers next
      simp only [readMembers, Key.read, Fault.lift, bind, Except.bind]
      generalize slots.readMember .json name tree draft = read at hstored ⊢
      generalize slots.readMember .toml name tree' draft = read' at hstored ⊢
      cases hstored with
      | none =>
          -- the member is for no slot, and both readers pass it over
          simp only [skip, htree.skipDefect_eq_none, htree'.skipDefect_eq_none]
          exact hnext draft
      | some halike => exact halike.bind hnext

theorem Shape.agrees_record (name : String) {slots : Slots} (hslots : slots.Agree) :
    (Shape.record name slots).Agrees := by
  intro tree tree' data h h' hmapped
  have hunlike := h.unlike_alike (α := slots.Content) h' (.record name)
  cases data with
  | table members =>
      cases h with | table hmembers =>
      cases h' with | table hmembers' =>
      have hall : ∀ member ∈ members, slots.mapped member.1 member.2 := List.all_eq_true.mp hmapped
      have hdrafts := Tree.readMembers_alike hslots hmembers hmembers' hall slots.blank
      refine hdrafts.bind fun draft => ?_
      change Alike (slots.ofMap draft) (slots.ofMap draft)
      unfold Slots.ofMap
      split
      · exact alike_ok _
      · exact alike_mismatch _
  | list items => exact nomatch hmapped
  | text | flag | integer =>
      cases h
      cases h'
      exact hunlike

mutual

/-- **The readers agree on all data** of a shape without a form of output. -/
theorem Shape.agrees : (s : Shape) → s.formless = true → s.Agrees
  | .text, _ => fun h h' _ => h.readText_alike h'
  | .flag, _ => fun h h' _ => h.readFlag_alike h'
  | .count, _ => fun h h' _ => h.readCount_alike h'
  | .form, h => nomatch h
  | .optional s, h => Shape.agrees_optional (Shape.agrees s h)
  | .list s, h => Shape.agrees_list (Shape.agrees s h)
  | .record name slots, h => Shape.agrees_record name (Slots.agree slots h)

theorem Slots.agree : (slots : Slots) → slots.formless = true → slots.Agree
  | .nil, _ => fun _ _ _ _ _ _ _ _ => .none
  | .cons key s rest, h => by
      obtain ⟨hs, hrest⟩ : s.formless = true ∧ rest.formless = true := by
        simpa [Slots.formless] using h
      intro name draft tree tree' data htree htree' hmapped
      obtain ⟨value, values⟩ := draft
      by_cases hkey : key = name
      · -- the member is for the slot in front
        have hmapped : s.mapped data := by
          rw [Slots.mapped, if_pos hkey] at hmapped
          exact hmapped
        have hread (format : Format) (tree : Tree) :
            (Slots.cons key s rest).readMember format name tree (value, values)
              = match value with
                | some _ => some (.error (.mismatch (.duplicateKey name)))
                | none => some ((s.read format tree).map fun value => (some value, values)) :=
          if_pos hkey
        rw [hread, hread]
        cases value with
        | some v => exact .some (alike_mismatch _)
        | none => exact .some ((Shape.agrees s hs htree htree' hmapped).map _)
      · have hmapped : rest.mapped name data := by
          rw [Slots.mapped, if_neg hkey] at hmapped
          exact hmapped
        have hread (format : Format) (tree : Tree) :
            (Slots.cons key s rest).readMember format name tree (value, values)
              = (rest.readMember format name tree values).map
                  (·.map fun values => (value, values)) :=
          if_neg hkey
        rw [hread, hread]
        exact alike_option_map (Slots.agree rest hrest name values htree htree' hmapped) _

end

end CompactQuery
