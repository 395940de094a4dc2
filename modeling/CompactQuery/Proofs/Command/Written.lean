import CompactQuery.Proofs.Command.Line
import Mathlib.Data.List.TakeDrop

/-!
# Written flags — an argument is taken apart into what it says

An argument is taken apart letter by letter, or at its equals sign. That finds what the rules for
writing flags have put there, and it finds an error in whatever no rule writes.

* **`WritesFully.ofArgument_eq`** — a flag with all that belongs to it; **`Names.ofArgument_eq`** —
  the name of one whose value is still to come.
* **`ofArgument_cases`** — what is taken apart without an error is one of the two.
-/

namespace CompactQuery.Command

/-- The item that a thing that is said amounts to. -/
def Saying.item : Saying → Item
  | .switch flag => .flag flag
  | .value flag text => .setting flag text
  | .operand text => .operand text

theorem isFlagLike_iff {text : String} : Item.isFlagLike text = true ↔ LedByDash text := by
  unfold Item.isFlagLike LedByDash
  split
  · rename_i c rest h
    exact iff_of_true rfl ⟨c, rest, h⟩
  · rename_i h
    exact iff_of_false Bool.false_ne_true fun ⟨c, rest, h'⟩ => h c rest h'

instance (text : String) : Decidable (LedByDash text) :=
  decidable_of_iff (Item.isFlagLike text = true) isFlagLike_iff

section

variable {flags : List Flag} {flag : Flag} {letters : List Char} {switches : List Flag}
  {letter : Char} {argument : String}

theorem find?_eq_of_unique {p : Flag → Bool} (hflag : flag ∈ flags) (hp : p flag = true)
    (hunique : ∀ other, p other = true → other = flag) : flags.find? p = some flag := by
  cases hfind : flags.find? p with
  | none => exact absurd hp (List.find?_eq_none.mp hfind flag hflag)
  | some other => rw [hunique other (List.find?_some hfind)]

/-- No two flags have one name. -/
theorem find?_long (hflag : flag ∈ flags) :
    flags.find? (fun f => f.long.toList = flag.long.toList) = some flag := by
  refine find?_eq_of_unique hflag (by simp) fun other h => ?_
  have hlong : other.long = flag.long := by simpa [String.toList_inj] using h
  revert hlong
  cases other <;> cases flag <;> decide

theorem find?_short (hflag : flag ∈ flags) (hshort : flag.short? = some letter) :
    flags.find? (fun f => f.short? = some letter) = some flag := by
  refine find?_eq_of_unique hflag (by simpa using hshort) fun other h => ?_
  have hsame : other.short? = flag.short? := (of_decide_eq_true h).trans hshort.symm
  have hsome : flag.short? ≠ none := by
    rw [hshort]
    exact nofun
  revert hsame hsome
  cases other <;> cases flag <;> decide

theorem letter_ne_dash (hshort : flag.short? = some letter) : letter ≠ '-' := by
  rintro rfl
  revert hshort
  cases flag <;> decide

/-- Switches that are strung together are as many items. -/
theorem ofShort_switches (argument : String)
    (hswitches : List.Forall₂ (IsSwitch flags) letters switches) (rest : List Char) :
    Item.ofShort flags argument (letters ++ rest)
      = switches.map .flag ++ Item.ofShort flags argument rest := by
  induction hswitches with
  | nil => rfl
  | cons hswitch _ ih =>
      rw [List.cons_append, Item.ofShort, find?_short hswitch.mem hswitch.short]
      simp only [hswitch.valueless, Bool.false_eq_true, if_false, ih, List.map_cons,
        List.cons_append]

/-- A single dash starts letters. -/
theorem ofArgument_letters {text : List Char} (htext : argument.toList = '-' :: text)
    (hne : text ≠ []) (hdash : text.head? ≠ some '-') :
    Item.ofArgument flags argument = Item.ofShort flags argument text := by
  obtain ⟨c, rest, rfl⟩ := List.exists_cons_of_ne_nil hne
  have hc : c ≠ '-' := fun hc => hdash (congrArg some hc)
  simp [Item.ofArgument, htext]

/-- The letters of switches are taken off the front, whatever flag is behind them. -/
theorem ofArgument_short (hswitches : List.Forall₂ (IsSwitch flags) letters switches)
    (hshort : flag.short? = some letter) {rest : List Char}
    (htext : argument.toList = '-' :: (letters ++ letter :: rest)) :
    Item.ofArgument flags argument
      = switches.map .flag ++ Item.ofShort flags argument (letter :: rest) := by
  have hdash : (letters ++ letter :: rest).head? ≠ some '-' := by
    cases hswitches with
    | nil => simpa using letter_ne_dash hshort
    | cons hswitch _ => simpa using letter_ne_dash hswitch.short
  rw [ofArgument_letters htext (by simp) hdash, ofShort_switches argument hswitches]

section

variable (hflag : flag ∈ flags) (hshort : flag.short? = some letter)
  (hvalue : flag.takesValue = true)

include hflag hshort hvalue

theorem ofShort_pending : Item.ofShort flags argument [letter] = [.pending flag] := by
  rw [Item.ofShort, find?_short hflag hshort]
  simp [hvalue]

theorem ofShort_equals (value : List Char) :
    Item.ofShort flags argument (letter :: '=' :: value)
      = [.setting flag (String.ofList value)] := by
  rw [Item.ofShort, find?_short hflag hshort]
  simp [hvalue]

theorem ofShort_joined {c : Char} (hc : c ≠ '=') (value : List Char) :
    Item.ofShort flags argument (letter :: c :: value)
      = [.setting flag (String.ofList (c :: value))] := by
  rw [Item.ofShort, find?_short hflag hshort]
  simp [hvalue, hc]

end

/-- A name goes up to an equals sign, or to the end. -/
theorem span_long (flag : Flag) (rest : List Char) (hrest : ∀ c ∈ rest.head?, c = '=') :
    (flag.long.toList ++ rest).span (· ≠ '=') = (flag.long.toList, rest) := by
  have hname : ∀ c ∈ flag.long.toList, decide (c ≠ '=') := by
    cases flag <;> simp [Flag.long]
  rw [List.span_eq_takeWhile_dropWhile, List.takeWhile_append_of_pos hname,
    List.dropWhile_append_of_pos hname]
  cases rest with
  | nil => simp
  | cons c rest =>
      have hc : c = '=' := hrest c rfl
      simp [hc]

theorem ofLong_name (argument : String) (hflag : flag ∈ flags) :
    Item.ofLong flags argument flag.long.toList
      = if flag.takesValue then .pending flag else .flag flag := by
  have hspan := span_long flag [] nofun
  rw [List.append_nil] at hspan
  simp only [Item.ofLong, hspan, find?_long hflag]

theorem ofLong_equals (argument : String) (hflag : flag ∈ flags) (hvalue : flag.takesValue = true)
    (value : List Char) :
    Item.ofLong flags argument (flag.long.toList ++ '=' :: value)
      = .setting flag (String.ofList value) := by
  have hspan := span_long flag ('=' :: value) (by simp)
  simp only [Item.ofLong, hspan, find?_long hflag, hvalue, if_true]

theorem ofArgument_operand (h : ¬ LedByDash argument) :
    Item.ofArgument flags argument = [.operand argument] := by
  unfold Item.ofArgument
  split
  · rename_i text htext
    exact absurd ⟨'-', text, htext⟩ h
  · rename_i c text _ htext
    exact absurd ⟨c, text, htext⟩ h
  · rfl

theorem ofArgument_long {text : List Char} (htext : argument.toList = '-' :: '-' :: text) :
    Item.ofArgument flags argument = [Item.ofLong flags argument text] := by
  simp [Item.ofArgument, htext]

/-- **A written flag is taken apart into what it says.** -/
theorem WritesFully.ofArgument_eq {said : List Saying}
    (h : WritesFully flags said argument.toList) :
    Item.ofArgument flags argument = said.map Saying.item := by
  generalize htext : argument.toList = text at h
  cases h with
  | @long flag hflag hvalue =>
      rw [ofArgument_long htext, ofLong_name argument hflag, hvalue]
      rfl
  | @strung letters switches hne hswitches =>
      have hdash : letters.head? ≠ some '-' := by
        cases hswitches with
        | nil => exact nofun
        | cons hswitch _ => simpa using letter_ne_dash hswitch.short
      have hletters := ofShort_switches argument hswitches []
      rw [List.append_nil] at hletters
      rw [ofArgument_letters htext hne hdash, hletters, Item.ofShort, List.append_nil,
        List.map_map]
      rfl
  | @equals switches flag name hname hvalue value =>
      cases hname with
      | long hflag =>
          rw [ofArgument_long htext]
          exact congrArg (fun item => [item]) (ofLong_equals argument hflag hvalue value)
      | @short letters _ letter _ hswitches hflag hshort =>
          have htext' : argument.toList = '-' :: (letters ++ letter :: '=' :: value) := by
            simpa using htext
          rw [ofArgument_short hswitches hshort htext', ofShort_equals hflag hshort hvalue]
          simp [Function.comp_def, Saying.item]
  | @joined letters switches letter flag hswitches hflag hshort hvalue c hc value =>
      rw [ofArgument_short hswitches hshort htext, ofShort_joined hflag hshort hvalue hc]
      simp [Function.comp_def, Saying.item]

/-- Two dashes alone are no flag. -/
theorem ofArgument_dashes (flags : List Flag) :
    Item.ofArgument flags "--" = [.wrong (.unknownFlag "--")] := by
  have hnamed (flag : Flag) : flag.long.toList ≠ [] := by cases flag <;> decide
  have hlong : Item.ofLong flags "--" [] = .wrong (.unknownFlag "--") := by
    simp only [Item.ofLong, List.span, List.span.loop, List.reverse_nil]
    split
    · rfl
    · rename_i flag hfind _
      have hnil := List.find?_some hfind
      exact absurd (of_decide_eq_true hnil) (hnamed flag)
    · rename_i hcons
      exact nomatch hcons
  rw [← hlong]
  rfl

theorem Names.ledByDash {name : List Char} (h : Names flags switches flag name) :
    ∃ c rest, name = '-' :: c :: rest := by
  cases h with
  | long => exact ⟨'-', _, rfl⟩
  | @short letters _ letter _ _ _ _ =>
      obtain ⟨c, rest, hletters⟩ := List.exists_cons_of_ne_nil
        (List.append_ne_nil_of_right_ne_nil letters (List.cons_ne_nil letter []))
      exact ⟨c, rest, by rw [hletters]⟩

theorem WritesFully.ledByDash {said : List Saying} (h : WritesFully flags said argument.toList) :
    LedByDash argument := by
  generalize htext : argument.toList = text at h
  cases h with
  | long => exact ⟨'-', _, htext⟩
  | strung hne _ =>
      obtain ⟨c, rest, rfl⟩ := List.exists_cons_of_ne_nil hne
      exact ⟨c, rest, htext⟩
  | equals hname _ value =>
      obtain ⟨c, rest, rfl⟩ := hname.ledByDash
      exact ⟨c, rest ++ '=' :: value, htext⟩
  | @joined letters =>
      cases letters with
      | nil => exact ⟨_, _, htext⟩
      | cons => exact ⟨_, _, htext⟩

/-- If the value is apart, it is still to come. -/
theorem Names.ofArgument_eq (h : Names flags switches flag argument.toList)
    (hvalue : flag.takesValue = true) :
    Item.ofArgument flags argument = switches.map .flag ++ [.pending flag] := by
  generalize htext : argument.toList = text at h
  cases h with
  | long hflag =>
      rw [ofArgument_long htext, ofLong_name argument hflag, hvalue]
      rfl
  | short hswitches hflag hshort =>
      rw [ofArgument_short hswitches hshort htext, ofShort_pending hflag hshort hvalue]

/-- The letters behind a dash are those of switches, and perhaps one with a value behind them. -/
theorem exists_letters {text : List Char}
    (hwrong : ∀ error, .wrong error ∉ Item.ofShort flags argument text) :
    ∃ letters switches rest, List.Forall₂ (IsSwitch flags) letters switches ∧
      text = letters ++ rest ∧
      (rest = [] ∨ ∃ letter flag value, rest = letter :: value ∧ flag ∈ flags ∧
        flag.short? = some letter ∧ flag.takesValue = true) := by
  induction text with
  | nil => exact ⟨[], [], [], .nil, rfl, .inl rfl⟩
  | cons c text ih =>
      rw [Item.ofShort] at hwrong
      split at hwrong
      · exact absurd List.mem_cons_self (hwrong _)
      · rename_i flag hfind
        have hflag := List.mem_of_find?_eq_some hfind
        have hfound := List.find?_some hfind
        have hshort : flag.short? = some c := of_decide_eq_true hfound
        by_cases hvalue : flag.takesValue = true
        · exact ⟨[], [], c :: text, .nil, rfl, .inr ⟨c, flag, text, rfl, hflag, hshort, hvalue⟩⟩
        · rw [Bool.not_eq_true] at hvalue
          simp only [hvalue, Bool.false_eq_true, if_false, List.mem_cons, not_or] at hwrong
          obtain ⟨letters, switches, rest, hswitches, rfl, hrest⟩ :=
            ih fun error => (hwrong error).2
          exact ⟨c :: letters, flag :: switches, rest, .cons ⟨hflag, hshort, hvalue⟩ hswitches, rfl,
            hrest⟩

/-- Behind two dashes stands the name of a flag, and perhaps a value that it takes. -/
theorem exists_long {text : List Char}
    (hwrong : ∀ error, Item.ofLong flags argument text ≠ .wrong error) :
    ∃ flag ∈ flags, text = flag.long.toList ∨
      flag.takesValue = true ∧ ∃ value, text = flag.long.toList ++ '=' :: value := by
  have hparts := List.takeWhile_append_dropWhile (p := (· ≠ '=')) (l := text)
  rw [Item.ofLong, List.span_eq_takeWhile_dropWhile] at hwrong
  dsimp only at hwrong
  split at hwrong
  · exact absurd rfl (hwrong _)
  · rename_i flag hfind hrest
    have hname := List.find?_some hfind
    rw [hrest, List.append_nil] at hparts
    exact ⟨flag, List.mem_of_find?_eq_some hfind, .inl (hparts.symm.trans
      (of_decide_eq_true hname).symm)⟩
  · rename_i flag c value hfind hrest
    have hname := List.find?_some hfind
    by_cases hvalue : flag.takesValue = true
    · have hc : c = '=' := by
        have hhead := List.head?_dropWhile_not (· ≠ '=') text
        rw [hrest, List.head?_cons] at hhead
        simpa using hhead
      rw [hrest, ← of_decide_eq_true hname, hc] at hparts
      exact ⟨flag, List.mem_of_find?_eq_some hfind, .inr ⟨hvalue, value, hparts.symm⟩⟩
    · rw [if_neg hvalue] at hwrong
      exact absurd rfl (hwrong _)

/-- **What is taken apart without an error is written by the rules.** -/
theorem ofArgument_cases (hdash : LedByDash argument)
    (hwrong : ∀ error, .wrong error ∉ Item.ofArgument flags argument) :
    (∃ said, WritesFully flags said argument.toList) ∨
      ∃ switches flag, Names flags switches flag argument.toList ∧ flag.takesValue = true := by
  obtain ⟨c, text, htext⟩ := hdash
  rw [htext]
  by_cases hc : c = '-'
  · subst hc
    rw [ofArgument_long htext] at hwrong
    obtain ⟨flag, hflag, rfl | ⟨hvalue, value, rfl⟩⟩ := exists_long
      fun error herror => hwrong error (herror ▸ List.mem_cons_self)
    · by_cases hvalue : flag.takesValue = true
      · exact .inr ⟨_, _, .long hflag, hvalue⟩
      · exact .inl ⟨_, .long hflag (Bool.not_eq_true _ ▸ hvalue)⟩
    · exact .inl ⟨_, .equals (.long hflag) hvalue value⟩
  · rw [ofArgument_letters htext (List.cons_ne_nil c text) (by simpa using hc)] at hwrong
    obtain ⟨letters, switches, rest, hswitches, hletters, hrest⟩ := exists_letters hwrong
    rw [hletters]
    rcases hrest with rfl | ⟨letter, flag, value, rfl, hflag, hshort, hvalue⟩
    · rw [List.append_nil] at hletters ⊢
      exact .inl ⟨_, .strung (hletters ▸ List.cons_ne_nil c text) hswitches⟩
    · cases value with
      | nil => exact .inr ⟨_, _, .short hswitches hflag hshort, hvalue⟩
      | cons d value =>
          by_cases hd : d = '='
          · subst hd
            have hequals := WritesFully.equals (.short hswitches hflag hshort) hvalue value
            rw [List.cons_append, List.append_assoc, List.singleton_append] at hequals
            exact .inl ⟨_, hequals⟩
          · exact .inl ⟨_, .joined hswitches hflag hshort hvalue hd value⟩

end

end CompactQuery.Command
