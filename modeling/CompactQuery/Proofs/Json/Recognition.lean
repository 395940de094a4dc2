import CompactQuery.Proofs.Json.Source

/-!
# Recognition — what is accepted is a source

The growth of a tree that comes to its end has followed the lexemes of a source, and a growth that
does not leaves a defect in its tree, which neither a reader nor a skipper passes over. So a text
whose tree has no defect and nothing behind it is spelled by a source.

* **`exists_source`**, **`exists_items`**, **`exists_members`** — the lexemes that complete a value,
  and those that complete a container that holds something already: a descent by the number of
  lexemes that are left.
* **`Growth.Faulty`**, **`Growth.faulty_foldl`** — growth that stops leaves a defect.
* **`exists_spells`** — a document without any defect is spelled by a source.
-/

namespace CompactQuery.Json

namespace Growth

theorem foldl_stopped (tree : Tree) (tokens : List Token) :
    tokens.foldl step (.stopped tree) = .stopped tree := by
  induction tokens with
  | nil => rfl
  | cons token tokens ih => exact ih

theorem foldl_trailing (tree : Tree) (tokens : List Token) :
    tokens.foldl step (.trailing tree) = .trailing tree := by
  induction tokens with
  | nil => rfl
  | cons token tokens ih => exact ih

/-- A lexeme that may not stand at its place keeps the tree from being completed. -/
theorem not_complete_of_stopped {growth : Growth} {lexeme : Lexeme} {stopped tree : Tree}
    (hstep : growth.step lexeme.token = .stopped stopped) (rest : List Lexeme) :
    growth.onLexemes (lexeme :: rest) ≠ .complete tree := by
  rw [onLexemes_cons, hstep, onLexemes, foldl_stopped]
  simp

theorem eq_of_onLexemes_complete {done tree : Tree} {lexemes : List Lexeme}
    (h : (Growth.complete done).onLexemes lexemes = .complete tree) :
    lexemes = [] ∧ done = tree := by
  cases lexemes with
  | nil => exact ⟨rfl, by simpa [onLexemes] using h⟩
  | cons lexeme rest =>
      rw [onLexemes_cons, step, onLexemes, foldl_trailing] at h
      cases h

/-- Behind the bracket that opens an array it is closed again, or a value is due. -/
theorem firstItem_cases {frames : List Frame} {lexemes : List Lexeme} {tree : Tree}
    (h : (Growth.firstItem frames).onLexemes lexemes = .complete tree) :
    (∃ rest, lexemes = .closeArray :: rest) ∨
      (Growth.value (.array [] :: frames)).onLexemes lexemes = .complete tree := by
  cases lexemes with
  | nil => exact nomatch h
  | cons lexeme rest =>
      cases lexeme with
      | closeArray => exact .inl ⟨rest, rfl⟩
      | _ => exact .inr h

/-- Behind the brace that opens an object it is closed again, or a key is due. -/
theorem firstKey_cases {frames : List Frame} {lexemes : List Lexeme} {tree : Tree}
    (h : (Growth.firstKey frames).onLexemes lexemes = .complete tree) :
    (∃ rest, lexemes = .closeObject :: rest) ∨
      (Growth.nextKey [] frames).onLexemes lexemes = .complete tree := by
  cases lexemes with
  | nil => exact nomatch h
  | cons lexeme rest =>
      cases lexeme with
      | closeObject => exact .inl ⟨rest, rfl⟩
      | _ => exact .inr h

/-- Where a key is due, it stands there with its colon. -/
theorem nextKey_cases {members : List (Key × Tree)} {frames : List Frame} {lexemes : List Lexeme}
    {tree : Tree} (h : (Growth.nextKey members frames).onLexemes lexemes = .complete tree) :
    ∃ key rest, lexemes = .text key :: .colon :: rest := by
  cases lexemes with
  | nil => exact nomatch h
  | cons lexeme lexemes =>
      cases lexeme with
      | text key =>
          cases lexemes with
          | nil => exact nomatch h
          | cons lexeme lexemes =>
              rw [onLexemes_cons, Lexeme.token, step, stepKey] at h
              cases lexeme with
              | colon => exact ⟨key, lexemes, rfl⟩
              | _ => exact (not_complete_of_stopped rfl _ h).elim
      | _ => exact (not_complete_of_stopped rfl _ h).elim

end Growth

/-! ## The lexemes of a complete tree -/

mutual

/-- **Nothing but the lexemes of a source completes a value.** -/
theorem exists_source {frames : List Frame} {tree : Tree} (lexemes : List Lexeme)
    (h : (Growth.value frames).onLexemes lexemes = .complete tree) :
    ∃ (source : Source) (rest : List Lexeme), lexemes = source.lexemes ++ rest ∧
      (Growth.close source.tree frames).onLexemes rest = .complete tree := by
  match lexemes with
  | [] => exact nomatch h
  | .null :: rest => exact ⟨.null, rest, rfl, h⟩
  | .flag b :: rest => exact ⟨.flag b, rest, rfl, h⟩
  | .number figures :: rest => exact ⟨.number figures, rest, rfl, h⟩
  | .text glyphs :: rest => exact ⟨.text glyphs, rest, rfl, h⟩
  | .closeArray :: _ | .closeObject :: _ | .comma :: _ | .colon :: _ =>
      exact (Growth.not_complete_of_stopped rfl _ h).elim
  | .openArray :: more =>
      rcases Growth.firstItem_cases h with ⟨rest, rfl⟩ | hvalue
      · exact ⟨.array [], rest, rfl, h⟩
      · -- the first item, and then those behind it
        obtain ⟨item, behind, hmore, hbehind⟩ := exists_source more hvalue
        have hshorter : behind.length ≤ more.length := by simp [hmore]
        obtain ⟨items, rest, hitems, hrest⟩ := exists_items behind hbehind
        exact ⟨.array (item :: items), rest, by simp [Source.lexemes, hmore, hitems], hrest⟩
  | .openObject :: more =>
      rcases Growth.firstKey_cases h with ⟨rest, rfl⟩ | hkey
      · exact ⟨.object [], rest, rfl, h⟩
      · obtain ⟨key, text, hmore⟩ := Growth.nextKey_cases hkey
        rw [hmore] at hkey
        have hbehindKey : text.length + 2 = more.length := by simp [hmore]
        obtain ⟨value, behind, htext, hbehind⟩ := exists_source text hkey
        have hshorter : behind.length ≤ text.length := by simp [htext]
        obtain ⟨members, rest, hmembers, hrest⟩ := exists_members behind hbehind
        exact ⟨.object ((key, value) :: members), rest,
          by simp [Source.lexemes, hmore, htext, hmembers], hrest⟩
termination_by lexemes.length
decreasing_by all_goals (simp only [List.length_cons]; omega)

theorem exists_items {done : List Tree} {frames : List Frame} {tree : Tree} (lexemes : List Lexeme)
    (h : (Growth.afterItem done frames).onLexemes lexemes = .complete tree) :
    ∃ (items : List Source) (rest : List Lexeme), lexemes = Source.itemLexemes items ++ rest ∧
      (Growth.close (.array (done.reverse ++ Source.itemTrees items) none false) frames).onLexemes
        rest = .complete tree := by
  match lexemes with
  | [] => exact nomatch h
  | .closeArray :: rest =>
      refine ⟨[], rest, rfl, ?_⟩
      rw [Source.itemTrees, List.append_nil]
      exact h
  | .comma :: more =>
      obtain ⟨item, behind, hmore, hbehind⟩ := exists_source more h
      have hshorter : behind.length ≤ more.length := by simp [hmore]
      obtain ⟨items, rest, hitems, hrest⟩ := exists_items behind hbehind
      refine ⟨item :: items, rest, by simp [Source.itemLexemes, hmore, hitems], ?_⟩
      simpa [Source.itemTrees] using hrest
  | .openArray :: _ | .openObject :: _ | .closeObject :: _ | .colon :: _ | .null :: _
  | .flag _ :: _ | .number _ :: _ | .text _ :: _ =>
      exact (Growth.not_complete_of_stopped rfl _ h).elim
termination_by lexemes.length
decreasing_by all_goals (simp only [List.length_cons]; omega)

theorem exists_members {done : List (Key × Tree)} {frames : List Frame} {tree : Tree}
    (lexemes : List Lexeme)
    (h : (Growth.afterMember done frames).onLexemes lexemes = .complete tree) :
    ∃ (members : List (List Glyph × Source)) (rest : List Lexeme),
      lexemes = Source.memberLexemes members ++ rest ∧
      (Growth.close (.object (done.reverse ++ Source.memberTrees members) none) frames).onLexemes
        rest = .complete tree := by
  match lexemes with
  | [] => exact nomatch h
  | .closeObject :: rest =>
      refine ⟨[], rest, rfl, ?_⟩
      rw [Source.memberTrees, List.append_nil]
      exact h
  | .comma :: more =>
      rw [Growth.onLexemes_cons, Lexeme.token, Growth.step] at h
      obtain ⟨key, text, hmore⟩ := Growth.nextKey_cases h
      rw [hmore] at h
      have hbehindKey : text.length + 2 = more.length := by simp [hmore]
      obtain ⟨value, behind, htext, hbehind⟩ := exists_source text h
      have hshorter : behind.length ≤ text.length := by simp [htext]
      obtain ⟨members, rest, hmembers, hrest⟩ := exists_members behind hbehind
      refine ⟨(key, value) :: members, rest,
        by simp [Source.memberLexemes, hmore, htext, hmembers], ?_⟩
      simpa [Source.memberTrees] using hrest
  | .openArray :: _ | .openObject :: _ | .closeArray :: _ | .colon :: _ | .null :: _
  | .flag _ :: _ | .number _ :: _ | .text _ :: _ =>
      exact (Growth.not_complete_of_stopped rfl _ h).elim
termination_by lexemes.length
decreasing_by all_goals (simp only [List.length_cons]; omega)

end

/-! ## What stops leaves a defect -/

namespace Growth

theorem skipDefect_wrap (defect : Defect) {tree : Tree} (h : tree.skipDefect ≠ none)
    (frames : List Frame) : (wrap defect tree frames).skipDefect ≠ none := by
  induction frames generalizing tree with
  | nil => exact h
  | cons frame frames ih =>
      cases frame with
      | array items => exact ih (by simp [Tree.skipDefect])
      | object members key => exact ih (by simp [Tree.skipDefect])

theorem skipDefect_breakValue (quoted : Bool) (used skipped : Defect) (frames : List Frame) :
    (breakValue quoted used skipped frames).skipDefect ≠ none :=
  skipDefect_wrap used (by simp [Tree.skipDefect]) frames

theorem skipDefect_breakItems (defect : Defect) (items : List Tree) (frames : List Frame) :
    (breakItems defect items frames).skipDefect ≠ none :=
  skipDefect_wrap defect (by simp [Tree.skipDefect]) frames

theorem skipDefect_breakMembers (defect : Defect) (members : List (Key × Tree))
    (frames : List Frame) : (breakMembers defect members frames).skipDefect ≠ none :=
  skipDefect_wrap defect (by simp [Tree.skipDefect]) frames

/-- Growth that has stopped holds a defect. -/
def Faulty (growth : Growth) : Prop := ∀ tree, growth = .stopped tree → tree.skipDefect ≠ none

theorem faulty_close (tree : Tree) (frames : List Frame) : (close tree frames).Faulty := by
  intro stopped h
  match frames with
  | [] | .array _ :: _ | .object _ _ :: _ => exact nomatch h

theorem faulty_stopped {tree : Tree} (h : tree.skipDefect ≠ none) : (stopped tree).Faulty := by
  rintro _ ⟨⟩
  exact h

theorem faulty_stepValue (frames : List Frame) (token : Token) :
    (stepValue frames token).Faulty := by
  cases token with
  | null | flag b | number used | text used => exact faulty_close _ _
  | openArray | openObject => exact fun _ h => nomatch h
  | closeArray | closeObject | comma | colon | broken quoted used skipped =>
      exact faulty_stopped (skipDefect_breakValue _ _ _ _)

theorem faulty_stepKey (members : List (Key × Tree)) (frames : List Frame) (token : Token) :
    (stepKey members frames token).Faulty := by
  unfold stepKey
  split
  · exact fun _ h => nomatch h
  · exact faulty_stopped (skipDefect_breakMembers _ _ _)
  · exact faulty_stopped (skipDefect_breakMembers _ _ _)

theorem faulty_step {growth : Growth} (h : growth.Faulty) (token : Token) :
    (growth.step token).Faulty := by
  fun_cases step growth token with
  -- a value or a key is due
  | case1 | case3 => exact faulty_stepValue _ _
  | case8 | case9 => exact faulty_stepKey _ _ _
  -- a container is closed
  | case2 | case5 | case7 | case13 => exact faulty_close _ _
  -- a comma or a colon, or text behind the value
  | case4 | case10 | case12 | case15 | case16 => exact fun _ h => nomatch h
  -- the place is for something else
  | case6 => exact faulty_stopped (skipDefect_breakItems _ _ _)
  | case11 => exact faulty_stopped (skipDefect_breakValue _ _ _ _)
  | case14 => exact faulty_stopped (skipDefect_breakMembers _ _ _)
  | case17 => exact h

theorem faulty_foldl {growth : Growth} (h : growth.Faulty) (tokens : List Token) :
    (tokens.foldl step growth).Faulty := by
  induction tokens generalizing growth with
  | nil => exact h
  | cons token tokens ih => exact ih (faulty_step h token)

/-- Only a complete tree is without a defect at the end of the text. -/
theorem eq_complete_of_finish {growth : Growth} (h : growth.Faulty)
    (htrailing : growth.finish.trailing = false) (hdefect : growth.finish.tree.skipDefect = none) :
    growth = .complete growth.finish.tree := by
  cases growth with
  | value frames | firstItem frames | colon members key frames =>
      exact absurd hdefect (skipDefect_breakValue _ _ _ _)
  | afterItem items frames => exact absurd hdefect (skipDefect_breakItems _ _ _)
  | firstKey frames | nextKey members frames | afterMember members frames =>
      exact absurd hdefect (skipDefect_breakMembers _ _ _)
  | complete tree => rfl
  | trailing tree => exact nomatch htrailing
  | stopped tree => exact absurd hdefect (h tree rfl)

/-- A broken token keeps the tree from being completed. -/
theorem whole_of_foldl {growth : Growth} {tokens : List Token} {tree : Tree}
    (h : tokens.foldl step growth = .complete tree) : ∀ token ∈ tokens, token.Whole := by
  induction tokens generalizing growth with
  | nil => exact List.forall_mem_nil _
  | cons token tokens ih =>
      refine List.forall_mem_cons.mpr ⟨?_, ih h⟩
      rintro quoted used skipped rfl
      rw [List.foldl_cons] at h
      have hend : (∃ tree, growth.step (.broken quoted used skipped) = .stopped tree) ∨
          ∃ tree, growth.step (.broken quoted used skipped) = .trailing tree := by
        cases growth with
        | complete | trailing => exact .inr ⟨_, rfl⟩
        | firstKey | nextKey => cases quoted <;> exact .inl ⟨_, rfl⟩
        | _ => exact .inl ⟨_, rfl⟩
      -- neither end can be left again
      rcases hend with ⟨tree, hstep⟩ | ⟨tree, hstep⟩
      · rw [hstep, foldl_stopped] at h
        exact nomatch h
      · rw [hstep, foldl_trailing] at h
        exact nomatch h

end Growth

/-- **A document without any defect is spelled by a source.** -/
theorem exists_spells {text : String} (htrailing : (Document.ofText text).trailing = false)
    (hdefect : (Document.ofText text).tree.skipDefect = none) :
    ∃ source : Source, source.Spells text := by
  have hstart : (Growth.value []).Faulty := fun _ h => nomatch h
  have hcomplete : (tokens text.toList).foldl Growth.step (.value [])
      = .complete (Document.ofText text).tree :=
    Growth.eq_complete_of_finish (Growth.faulty_foldl hstart _) htrailing hdefect
  obtain ⟨lexemes, hlaid, htokens⟩ := exists_laidOut (Growth.whole_of_foldl hcomplete)
  rw [htokens] at hcomplete
  obtain ⟨source, rest, rfl, hrest⟩ := exists_source lexemes hcomplete
  obtain ⟨rfl, _⟩ := Growth.eq_of_onLexemes_complete hrest
  rw [List.append_nil] at hlaid
  exact ⟨source, hlaid⟩

end CompactQuery.Json
