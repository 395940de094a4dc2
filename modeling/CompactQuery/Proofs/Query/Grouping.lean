import CompactQuery.Proofs.Query.Token

/-!
# Grouping — how a run of atoms falls into conditions

Split at every bar, the conditions of a join or a filter become one run of atoms: for each condition
behind a seam an empty atom, then three operands or a connector and three operands. An operand may
be empty, so an empty atom need not be a seam, and a condition has three or four atoms as its author
likes. Still no two groupings of one run of atoms differ:

* **`lag_eq_nil`** — two groupings that come apart never meet again. Say one is behind the other by
  one, two or three atoms. It takes a block of four or five, so it gets ahead by one, two or three,
  or by four. It cannot be four: then a block with a connector started one atom before a seam of the
  other grouping, and its connector, which is not empty, would be the empty atom of that seam.
* **`map_normal_eq_of_blocks`** — so equal runs of atoms are grouped in the same way, and the
  conditions agree up to what their tokens show.
* **`Join.token_inj`**, **`Condition.tokens_inj`** — the same for the text of a join and of a filter.
-/

namespace CompactQuery

namespace Condition

/-- What a condition adds to a run of atoms behind another one: the seam, and its atoms. -/
def block (condition : Condition) : List String := "" :: condition.atoms

theorem block_eq (condition : Condition) :
    condition.block = "" :: ((given condition.connector).toList
      ++ [condition.left, condition.op, condition.right]) := rfl

/-- A block has four atoms, or five if there is a connector. -/
theorem length_block (condition : Condition) :
    condition.block.length = 4 ∨
      ∃ k, k ≠ "" ∧ condition.block = ["", k, condition.left, condition.op, condition.right] := by
  cases h : given condition.connector with
  | none => left; simp [block_eq, h]
  | some k => exact Or.inr ⟨k, (given_eq_some_iff.mp h).2, by simp [block_eq, h]⟩

theorem length_block_bounds (condition : Condition) :
    4 ≤ condition.block.length ∧ condition.block.length ≤ 5 := by
  rcases condition.length_block with h | ⟨k, _, h⟩
  · omega
  · rw [h]; simp

/-- A block shows the condition up to its normal form. -/
theorem normal_eq_of_block {condition other : Condition} (h : condition.block = other.block) :
    condition.normal = other.normal := by
  simp only [block_eq, List.cons.injEq, true_and] at h
  have hlast := List.append_inj' h rfl
  have hconnector : given condition.connector = given other.connector := by
    simpa using congrArg List.head? hlast.1
  simp only [List.cons.injEq, and_true] at hlast
  simp [normal, hconnector, hlast.2.1, hlast.2.2.1, hlast.2.2.2]

end Condition

/-! ## Groupings that come apart -/

/-- **Two groupings that come apart never meet again**, so two that meet in the end never came
apart. `lag` is what one of them has already taken and the other has not. Induction on how many
conditions are left in both: the one behind takes its next block, which covers `lag` and puts it
ahead. -/
theorem lag_eq_nil (lag : List String) (ahead behind : List Condition) (hle : lag.length ≤ 3)
    (h : lag ++ ahead.flatMap Condition.block = behind.flatMap Condition.block) : lag = [] := by
  cases behind with
  | nil => exact (List.append_eq_nil_iff.mp h).1
  | cons condition behind =>
      rw [List.flatMap_cons] at h
      have hbounds := condition.length_block_bounds
      -- the block covers `lag` and reaches past it by `lead`
      obtain ⟨lead, hblock, hrest⟩ : ∃ lead, condition.block = lag ++ lead ∧
          ahead.flatMap Condition.block = lead ++ behind.flatMap Condition.block := by
        rcases List.append_eq_append_iff.mp h with ⟨lead, hb, hr⟩ | ⟨surplus, hl, _⟩
        · exact ⟨lead, hb, hr⟩
        · exact absurd (congrArg List.length hl) (by rw [List.length_append]; omega)
      have hlength : condition.block.length = lag.length + lead.length := by
        rw [hblock, List.length_append]
      by_cases hlead : lead.length ≤ 3
      · have hnil : lead = [] := lag_eq_nil lead behind ahead hlead hrest.symm
        rw [hnil, List.length_nil] at hlength
        omega
      · rcases condition.length_block with hfour | ⟨k, hk, hfive⟩
        · exact List.length_eq_zero_iff.mp (by omega)
        · rcases Nat.eq_zero_or_pos lag.length with hzero | hpos
          · exact List.length_eq_zero_iff.mp hzero
          · -- five atoms behind a lag of one: the connector is where the other one has a seam
            have hone : lag.length = 1 := by
              rw [hfive] at hlength
              simp only [List.length_cons, List.length_nil] at hlength
              omega
            obtain ⟨seam, rfl⟩ := List.length_eq_one_iff.mp hone
            rw [hfive, List.singleton_append, List.cons.injEq] at hblock
            rw [← hblock.2] at hrest
            cases ahead with
            | nil => simp at hrest
            | cons other ahead =>
                rw [List.flatMap_cons, Condition.block_eq, List.cons_append, List.cons_append,
                  List.cons.injEq] at hrest
                exact absurd hrest.1.symm hk
termination_by ahead.length + behind.length

/-- The first blocks of two groupings that meet in the end are the same: they could differ by one
atom at most. -/
theorem block_eq_of_append_eq {condition other : Condition} {conditions others : List Condition}
    (h : condition.block ++ conditions.flatMap Condition.block
      = other.block ++ others.flatMap Condition.block) :
    condition.block = other.block ∧
      conditions.flatMap Condition.block = others.flatMap Condition.block := by
  have hbounds := condition.length_block_bounds
  have hbounds' := other.length_block_bounds
  rcases List.append_eq_append_iff.mp h with ⟨lag, hblock, hrest⟩ | ⟨lag, hblock, hrest⟩
  · have hlength := congrArg List.length hblock
    rw [List.length_append] at hlength
    have hnil : lag = [] := lag_eq_nil lag others conditions (by omega) hrest.symm
    rw [hnil] at hblock hrest
    exact ⟨by rw [hblock, List.append_nil], hrest⟩
  · have hlength := congrArg List.length hblock
    rw [List.length_append] at hlength
    have hnil : lag = [] := lag_eq_nil lag conditions others (by omega) hrest.symm
    rw [hnil] at hblock hrest
    exact ⟨by rw [hblock, List.append_nil], hrest.symm⟩

/-- **Equal runs of atoms are grouped in the same way.** -/
theorem map_normal_eq_of_blocks {conditions others : List Condition}
    (h : conditions.flatMap Condition.block = others.flatMap Condition.block) :
    conditions.map Condition.normal = others.map Condition.normal := by
  induction conditions generalizing others with
  | nil =>
      cases others with
      | nil => rfl
      | cons other others => simp [Condition.block_eq] at h
  | cons condition conditions ih =>
      cases others with
      | nil => simp [Condition.block_eq] at h
      | cons other others =>
          rw [List.flatMap_cons, List.flatMap_cons] at h
          obtain ⟨hblock, hrest⟩ := block_eq_of_append_eq h
          rw [List.map_cons, List.map_cons, Condition.normal_eq_of_block hblock, ih hrest]

/-! ## Joins and filters as texts -/

namespace Condition

/-- Conditions behind a text, all between double bars, are a run of atoms between bars. -/
theorem intercalate_tokens {first : List String} (hfirst : first ≠ [])
    (conditions : List Condition) :
    conditionSeparator.intercalate (partSeparator.intercalate first :: conditions.map token)
      = partSeparator.intercalate (first ++ conditions.flatMap block) := by
  have htokens : conditions.map token = (conditions.map atoms).map partSeparator.intercalate := by
    rw [List.map_map]
    exact List.map_congr_left fun c _ => c.token_eq
  have hblocks : (conditions.map atoms).flatMap (fun parts => "" :: parts)
      = conditions.flatMap block := by
    rw [List.flatMap_map]; rfl
  rw [htokens, show conditionSeparator = partSeparator ++ partSeparator by decide,
    intercalate_double hfirst, hblocks]
  intro parts hparts
  obtain ⟨c, _, rfl⟩ := List.mem_map.mp hparts
  exact c.atoms_ne_nil

theorem notMem_of_mem_blocks {c : Char} {conditions : List Condition}
    (hfree : ∀ text ∈ conditions.flatMap texts, c ∉ text.toList) {atom : String}
    (h : atom ∈ conditions.flatMap block) : c ∉ atom.toList := by
  obtain ⟨condition, hmem, hatom⟩ := List.mem_flatMap.mp h
  rcases List.mem_cons.mp hatom with rfl | hatom
  · simp
  · exact hfree atom (List.mem_flatMap.mpr ⟨condition, hmem, mem_texts_of_mem_atoms hatom⟩)

/-- **The body of a filter determines its conditions** up to their normal forms, provided that no
stored text has a bar in it. -/
theorem tokens_inj {first first' : Condition} {rest rest' : List Condition}
    (hfree : ∀ text ∈ (first :: rest).flatMap texts, '|' ∉ text.toList)
    (hfree' : ∀ text ∈ (first' :: rest').flatMap texts, '|' ∉ text.toList)
    (h : conditionSeparator.intercalate ((first :: rest).map token)
      = conditionSeparator.intercalate ((first' :: rest').map token)) :
    (first :: rest).map normal = (first' :: rest').map normal := by
  -- a block in front of each filter makes it the tail of a run
  have hatoms : ∀ (condition : Condition) (conditions : List Condition),
      (∀ text ∈ (condition :: conditions).flatMap texts, '|' ∉ text.toList) →
      ∀ atom ∈ condition.atoms ++ conditions.flatMap block, '|' ∉ atom.toList := by
    intro condition conditions hfree atom hatom
    apply notMem_of_mem_blocks hfree
    rw [List.flatMap_cons, block, List.cons_append]
    exact List.mem_cons_of_mem _ hatom
  rw [List.map_cons, List.map_cons, token_eq, token_eq, intercalate_tokens first.atoms_ne_nil,
    intercalate_tokens first'.atoms_ne_nil] at h
  have hrun := intercalate_inj (c := '|') rfl (by simp [atoms]) (by simp [atoms])
    (hatoms first rest hfree) (hatoms first' rest' hfree') h
  apply map_normal_eq_of_blocks
  rw [List.flatMap_cons, List.flatMap_cons, block, block, List.cons_append, List.cons_append, hrun]

end Condition

namespace Join

theorem token_eq (join : Join) :
    join.token
      = partSeparator.intercalate (join.table :: join.conditions.flatMap Condition.block) := by
  have hfirst : [join.table] ≠ [] := List.cons_ne_nil _ _
  have h := Condition.intercalate_tokens hfirst join.conditions
  rwa [String.intercalate_singleton] at h

/-- **The token of a join determines the join** up to its normal form, provided that no stored text
has a bar in it. -/
theorem token_inj {join other : Join} (hfree : ∀ text ∈ join.texts, '|' ∉ text.toList)
    (hfree' : ∀ text ∈ other.texts, '|' ∉ text.toList) (h : join.token = other.token) :
    join.normal = other.normal := by
  have hatoms : ∀ j : Join, (∀ text ∈ j.texts, '|' ∉ text.toList) →
      ∀ atom ∈ j.table :: j.conditions.flatMap Condition.block, '|' ∉ atom.toList := by
    intro j hfree atom hatom
    rcases List.mem_cons.mp hatom with rfl | hatom
    · exact hfree _ List.mem_cons_self
    · exact Condition.notMem_of_mem_blocks
        (fun text ht => hfree text (List.mem_cons_of_mem _ ht)) hatom
  rw [token_eq, token_eq] at h
  have hrun := intercalate_inj (c := '|') rfl (by simp) (by simp)
    (hatoms join hfree) (hatoms other hfree') h
  obtain ⟨htable, hblocks⟩ := List.cons.inj hrun
  simp [normal, htable, map_normal_eq_of_blocks hblocks]

end Join

end CompactQuery
