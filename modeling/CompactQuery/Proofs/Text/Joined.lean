import Mathlib.Data.List.Basic

/-!
# Joined — texts put together with a separator between them

The compact form joins texts with separators on four levels. What can be told from a joined text
depends on where the separator may occur in the parts:

* **`intercalate_inj`** — if it occurs in no part, the joined text determines the parts.
* **`intercalate_pair_inj`** — of a text with an optional second part, only the first has to be free
  of it.
* **`intercalate_double`** — joining joined texts with the separator twice is joining all parts at
  once, with an empty part at each seam.
* **`count_intercalate`** — how often a character occurs in a joined text: as often as in the parts,
  and as often as in the separator between any two of them.
* **`length_splitOn`** — splitting gives one piece more than there are separators.
-/

namespace CompactQuery

/-! ## How often a character occurs -/

/-- How often a character occurs in the texts. -/
def occurrences (c : Char) : List String → Nat
  | [] => 0
  | text :: texts => text.toList.count c + occurrences c texts

section

variable {c : Char}

@[simp] theorem occurrences_nil : occurrences c [] = 0 := rfl

@[simp] theorem occurrences_cons (text : String) (texts : List String) :
    occurrences c (text :: texts) = text.toList.count c + occurrences c texts := rfl

@[simp] theorem occurrences_append (texts more : List String) :
    occurrences c (texts ++ more) = occurrences c texts + occurrences c more := by
  induction texts with
  | nil => simp
  | cons text texts ih =>
      rw [List.cons_append, occurrences_cons, ih, occurrences_cons, Nat.add_assoc]

theorem occurrences_eq_zero_iff {texts : List String} :
    occurrences c texts = 0 ↔ ∀ text ∈ texts, c ∉ text.toList := by
  induction texts with
  | nil => simp
  | cons text texts ih =>
      rw [occurrences_cons, Nat.add_eq_zero_iff, ih, List.count_eq_zero, List.forall_mem_cons]

/-- Items that are each written in place of some texts, with the same occurrences. -/
theorem occurrences_map {α : Type} {f : α → String} {g : α → List String}
    (h : ∀ a, (f a).toList.count c = occurrences c (g a)) (items : List α) :
    occurrences c (items.map f) = occurrences c (items.flatMap g) := by
  induction items with
  | nil => rfl
  | cons item items ih =>
      rw [List.map_cons, occurrences_cons, h, ih, List.flatMap_cons, occurrences_append]

theorem occurrences_map_congr {α : Type} {f g : α → String}
    (h : ∀ a, (f a).toList.count c = (g a).toList.count c) (items : List α) :
    occurrences c (items.map f) = occurrences c (items.map g) := by
  induction items with
  | nil => rfl
  | cons item items ih =>
      rw [List.map_cons, List.map_cons, occurrences_cons, occurrences_cons, h, ih]

end

/-- **What joining does to the number of occurrences.** -/
theorem count_intercalate (c : Char) (separator : String) (parts : List String) :
    (separator.intercalate parts).toList.count c
      = occurrences c parts + (parts.length - 1) * separator.toList.count c := by
  induction parts with
  | nil => simp
  | cons part parts ih =>
      cases parts with
      | nil => simp
      | cons next parts =>
          rw [String.intercalate_cons_cons]
          simp only [String.toList_append, List.count_append, ih, occurrences_cons,
            List.length_cons, Nat.add_sub_cancel, Nat.succ_mul]
          omega

theorem count_intercalate_of_notMem {c : Char} {separator : String} (h : c ∉ separator.toList)
    (parts : List String) :
    (separator.intercalate parts).toList.count c = occurrences c parts := by
  rw [count_intercalate, List.count_eq_zero.mpr h, Nat.mul_zero, Nat.add_zero]

theorem length_splitOn (c : Char) (text : List Char) :
    (text.splitOn c).length = text.count c + 1 := by
  induction text with
  | nil => simp
  | cons d text ih =>
      rw [List.splitOn_cons_eq_if_modifyHead]
      by_cases hd : d = c
      · subst hd
        simp [ih]
      · -- the character goes to the first piece
        have hbeq : ¬ (d == c) = true := by simpa using hd
        rw [if_neg hbeq, List.length_modifyHead, ih, List.count_cons_of_ne hd]

/-! ## Parts of a joined text -/

/-- **A joined text determines its parts** if the separator occurs in none of them. There has to be
a part at all: no parts and one empty part give the same text. -/
theorem intercalate_inj {c : Char} {separator : String} (hc : separator.toList = [c])
    {parts others : List String} (hne : parts ≠ []) (hne' : others ≠ [])
    (hparts : ∀ part ∈ parts, c ∉ part.toList) (hothers : ∀ part ∈ others, c ∉ part.toList)
    (h : separator.intercalate parts = separator.intercalate others) : parts = others := by
  -- splitting at the separator undoes the joining
  have hsplit : ∀ texts : List String, texts ≠ [] → (∀ text ∈ texts, c ∉ text.toList) →
      (separator.intercalate texts).toList.splitOn c = texts.map String.toList := by
    intro texts hne hfree
    rw [String.toList_intercalate, hc]
    apply List.splitOn_intercalate
    · simpa using hfree
    · simpa using hne
  have hmap : parts.map String.toList = others.map String.toList := by
    rw [← hsplit parts hne hparts, h, hsplit others hne' hothers]
  exact List.map_injective_iff.mpr (fun _ _ heq => String.toList_inj.mp heq) hmap

/-- The first of at most two parts ends at the first separator. -/
theorem intercalate_pair_inj {c : Char} {separator : String} (hc : separator.toList = [c])
    {first first' : String} {second second' : Option String}
    (hfirst : c ∉ first.toList) (hfirst' : c ∉ first'.toList)
    (h : separator.intercalate (first :: second.toList)
      = separator.intercalate (first' :: second'.toList)) :
    first = first' ∧ second = second' := by
  have hsplit : ∀ (text : String) (other : Option String), c ∉ text.toList →
      (separator.intercalate (text :: other.toList)).toList.splitOn c
        = text.toList :: other.elim [] (fun t => t.toList.splitOn c) := by
    intro text other htext
    cases other with
    | none => simpa using List.splitOn_eq_singleton htext
    | some t =>
        simp only [Option.toList, String.intercalate_cons_cons, String.intercalate_singleton,
          String.toList_append, hc, List.append_assoc, List.singleton_append, Option.elim]
        exact List.splitOn_append_cons_self_of_not_mem htext t.toList
  have hlist : first.toList :: second.elim [] (fun t => t.toList.splitOn c)
      = first'.toList :: second'.elim [] (fun t => t.toList.splitOn c) := by
    rw [← hsplit first second hfirst, h, hsplit first' second' hfirst']
  obtain ⟨hhead, htail⟩ := List.cons.inj hlist
  refine ⟨String.toList_inj.mp hhead, ?_⟩
  cases second with
  | none =>
      cases second' with
      | none => rfl
      | some right' => exact absurd htail.symm (List.splitOn_ne_nil c right'.toList)
  | some right =>
      cases second' with
      | none => exact absurd htail (List.splitOn_ne_nil c right.toList)
      | some right' =>
          have hright := congrArg [c].intercalate htail
          simp only [Option.elim, List.intercalate_splitOn] at hright
          rw [String.toList_inj.mp hright]

/-- Joining joined texts with the separator twice is joining all their parts at once, with an empty
part at each seam. -/
theorem intercalate_double {separator : String} {first : List String} {rest : List (List String)}
    (hfirst : first ≠ []) (hrest : ∀ parts ∈ rest, parts ≠ []) :
    (separator ++ separator).intercalate
        (separator.intercalate first :: rest.map separator.intercalate)
      = separator.intercalate (first ++ rest.flatMap (fun parts => "" :: parts)) := by
  induction rest generalizing first with
  | nil => simp
  | cons parts rest ih =>
      have hparts : parts ≠ [] := hrest parts List.mem_cons_self
      rw [List.map_cons, String.intercalate_cons_cons,
        ih hparts (fun p hp => hrest p (List.mem_cons_of_mem _ hp)), List.flatMap_cons,
        String.intercalate_append_of_ne_nil hfirst (by simp), List.cons_append,
        String.intercalate_cons_of_ne_nil (by simp [hparts])]
      simp [String.append_assoc]

end CompactQuery
