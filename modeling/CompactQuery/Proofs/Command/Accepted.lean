import CompactQuery.Proofs.Command.Heard
import Mathlib.Data.List.Induction
import Mathlib.Data.List.Nodup

/-!
# Accepted lines — which command lines are accepted

A command line is accepted just if it says something that can be said: no flag twice on one side of
the command, no value that its flag does not have, no operand where none has its place.

* **`Given.exists_set_iff`** — one more thing is accepted if it is possible and not yet said.
* **`Given.exists_foldlM_iff`** — and so is a list of things. Induction from behind: what is set so
  far is what was said.
* **`Invocation.accepted_iff`**, **`Invocation.exists_accepted`** — for a command line.
-/

namespace CompactQuery.Command

section

variable {action : Option Action} {flag : Flag} {said : List Saying}

theorem some_mem_topics_iff :
    some flag ∈ said.map Saying.topic ↔ .switch flag ∈ said ∨ ∃ text, .value flag text ∈ said := by
  rw [List.mem_map]
  constructor
  · rintro ⟨saying, hmem, htopic⟩
    cases saying with
    | switch other =>
        cases htopic
        exact .inl hmem
    | value other text =>
        cases htopic
        exact .inr ⟨text, hmem⟩
    | operand => exact nomatch htopic
  · rintro (h | ⟨text, h⟩)
    · exact ⟨_, h, rfl⟩
    · exact ⟨_, h, rfl⟩

/-- What is said about a flag that takes no value is the flag itself. -/
theorem switch_mem_iff (hsaid : ∀ saying ∈ said, saying.Possible action)
    (hvalue : flag.takesValue = false) :
    .switch flag ∈ said ↔ some flag ∈ said.map Saying.topic := by
  have hnot (text : String) : .value flag text ∉ said := by
    intro hmem
    obtain ⟨rfl, _⟩ | ⟨rfl, _⟩ := hsaid _ hmem
    · exact nomatch hvalue
    · exact nomatch hvalue
  rw [some_mem_topics_iff]
  simp [hnot]

/-- What is said about a flag that takes a value is its value. -/
theorem findSome?_value_eq_none_iff (hsaid : ∀ saying ∈ said, saying.Possible action)
    (hvalue : flag.takesValue = true) :
    said.findSome? (·.value? flag) = none ↔ some flag ∉ said.map Saying.topic := by
  have hnot : .switch flag ∉ said := by
    intro hmem
    obtain rfl | rfl := hsaid _ hmem
    · exact nomatch hvalue
    · exact nomatch hvalue
  rw [List.findSome?_eq_none_iff, some_mem_topics_iff]
  constructor
  · rintro h (hmem | ⟨text, hmem⟩)
    · exact hnot hmem
    · simpa [Saying.value?] using h _ hmem
  · intro h saying hmem
    cases saying with
    | switch | operand => rfl
    | value other text =>
        have hne : other ≠ flag := by
          rintro rfl
          exact h (.inr ⟨text, hmem⟩)
        simp [Saying.value?, hne]

theorem findSome?_operand_eq_none_iff :
    said.findSome? (·.operand?) = none ↔ none ∉ said.map Saying.topic := by
  rw [List.findSome?_eq_none_iff, List.mem_map, not_exists]
  refine forall_congr' fun saying => ?_
  cases saying <;> simp [Saying.operand?, Saying.topic]

theorem acceptable_nil (action : Option Action) : Acceptable action [] :=
  ⟨nofun, List.nodup_nil⟩

theorem acceptable_snoc {saying : Saying} :
    Acceptable action (said ++ [saying]) ↔
      Acceptable action said ∧ saying.topic ∉ said.map Saying.topic ∧ saying.Possible action := by
  have honce : ((said ++ [saying]).map Saying.topic).Nodup ↔
      saying.topic ∉ said.map Saying.topic ∧ (said.map Saying.topic).Nodup := by
    rw [List.map_append, List.map_singleton, ← List.concat_eq_append, List.nodup_concat]
  have hpossible : (∀ other ∈ said ++ [saying], other.Possible action) ↔
      (∀ other ∈ said, other.Possible action) ∧ saying.Possible action := by
    rw [List.forall_mem_append, List.forall_mem_singleton]
  constructor
  · intro h
    obtain ⟨hsaid, hsaying⟩ := hpossible.mp h.possible
    obtain ⟨hnew, hnodup⟩ := honce.mp h.once
    exact ⟨⟨hsaid, hnodup⟩, hnew, hsaying⟩
  · rintro ⟨h, hnew, hsaying⟩
    exact ⟨hpossible.mpr ⟨h.possible, hsaying⟩, honce.mpr ⟨hnew, h.once⟩⟩

end

namespace Given

variable {action : Option Action} {said : List Saying} {given : Given}

theorem exists_switch_iff (h : Hears {} said given)
    (hsaid : ∀ saying ∈ said, saying.Possible action) (flag : Flag) :
    (∃ given', given.switch flag = .ok given') ↔
      some flag ∉ said.map Saying.topic ∧ (Saying.switch flag).Possible action := by
  cases flag with
  | settings | version | help | form => simp [switch, Saying.Possible]
  | verbose =>
      have hsome : given.verbose = true ↔ some .verbose ∈ said.map Saying.topic := by
        rw [h.verbose, switch_mem_iff hsaid rfl, or_iff_right Bool.false_ne_true]
      rw [← hsome]
      cases hset : given.verbose <;> simp [switch, hset, Saying.Possible]
  | urlSafe =>
      have hsome : given.urlSafe = true ↔ some .urlSafe ∈ said.map Saying.topic := by
        rw [h.urlSafe, switch_mem_iff hsaid rfl, or_iff_right Bool.false_ne_true]
      rw [← hsome]
      cases hset : given.urlSafe <;> simp [switch, hset, Saying.Possible]

theorem exists_assign_iff (h : Hears {} said given)
    (hsaid : ∀ saying ∈ said, saying.Possible action) (flag : Flag) (text : String) :
    (∃ given', given.assign flag text = .ok given') ↔
      some flag ∉ said.map Saying.topic ∧ (Saying.value flag text).Possible action := by
  cases flag with
  | verbose | version | help | urlSafe => simp [assign, Saying.Possible]
  | settings =>
      have hnone : given.settings = none ↔ some .settings ∉ said.map Saying.topic := by
        rw [h.settings, Option.none_or, findSome?_value_eq_none_iff hsaid rfl]
      rw [← hnone]
      cases hset : given.settings <;> by_cases htext : text = "" <;>
        simp [assign, hset, htext, Saying.Possible]
  | form =>
      have hnone : given.form = none ↔ some .form ∉ said.map Saying.topic := by
        rw [← Option.map_eq_none_iff, h.form, Option.map_none, Option.none_or,
          findSome?_value_eq_none_iff hsaid rfl]
      have hword : (∃ form, OutputForm.ofWord? text = some form) ↔
          ∃ form : OutputForm, form.word = text :=
        exists_congr fun _ => OutputForm.ofWord?_eq_some_iff
      rw [← hnone, Saying.Possible, ← hword]
      cases hset : given.form <;> cases hknown : OutputForm.ofWord? text <;>
        simp [assign, hset, hknown]

/-- No command has room for two operands. -/
theorem exists_place_iff (h : Hears {} said given) (text : String) :
    (∃ given', given.set action (.operand text) = .ok given') ↔
      none ∉ said.map Saying.topic ∧ (Saying.operand text).Possible action := by
  have hnone : given.operand = none ↔ none ∉ said.map Saying.topic := by
    rw [h.operand, Option.none_or, findSome?_operand_eq_none_iff]
  rw [← hnone]
  cases action with
  | none => simp [set, Saying.Possible]
  | some command =>
      cases hoperand : given.operand with
      | some other => simp [set, place, hoperand, command.operands_le_one]
      | none =>
          by_cases htext : text = "" <;> cases command <;>
            simp [set, place, hoperand, htext, Action.operands, Action.accepts, Saying.Possible]

/-- **One more thing is accepted if it is possible and not yet said.** -/
theorem exists_set_iff (h : Hears {} said given) (hsaid : ∀ saying ∈ said, saying.Possible action)
    (saying : Saying) :
    (∃ given', given.set action saying.item = .ok given') ↔
      saying.topic ∉ said.map Saying.topic ∧ saying.Possible action := by
  cases saying with
  | switch flag => exact exists_switch_iff h hsaid flag
  | value flag text => exact exists_assign_iff h hsaid flag text
  | operand text => exact exists_place_iff h text

/-- **What is accepted is all that can be said together.** -/
theorem exists_foldlM_iff :
    (∃ given, (said.map Saying.item).foldlM (set action) {} = .ok given) ↔
      Acceptable action said := by
  induction said using List.reverseRecOn with
  | nil => exact iff_of_true ⟨{}, rfl⟩ (acceptable_nil action)
  | append_singleton said saying ih =>
      have hone (given : Given) : [saying.item].foldlM (set action) given
          = given.set action saying.item := by
        simp only [List.foldlM_cons, List.foldlM_nil, bind_pure]
      rw [acceptable_snoc, ← ih, List.map_append, List.map_singleton, List.foldlM_append]
      simp only [hone]
      constructor
      · rintro ⟨given', h⟩
        obtain ⟨given, hgiven, hset⟩ := Except.bind_eq_ok.mp h
        have hpossible := (ih.mp ⟨given, hgiven⟩).possible
        exact ⟨⟨given, hgiven⟩,
          (exists_set_iff (hears_of_foldlM hgiven) hpossible saying).mp ⟨given', hset⟩⟩
      · rintro ⟨⟨given, hgiven⟩, hsaying⟩
        have hpossible := (ih.mp ⟨given, hgiven⟩).possible
        obtain ⟨given', hset⟩ :=
          (exists_set_iff (hears_of_foldlM hgiven) hpossible saying).mpr hsaying
        exact ⟨given', Except.bind_eq_ok.mpr ⟨given, hgiven, hset⟩⟩

end Given

namespace Invocation

variable {standIn : Option String} {arguments : List String}

theorem exists_settings?_iff {leading own : Option String} :
    (∃ settings, settings? leading own standIn = .ok settings) ↔
      (standIn = some "" → leading ≠ none ∧ own ≠ none) := by
  rw [settings?]
  split
  · rename_i h
    obtain ⟨hstandIn, hnone⟩ := h
    simp only [Option.isNone_iff_eq_none] at hnone
    refine iff_of_false nofun fun hboth => ?_
    exact hnone.elim (hboth hstandIn).1 (hboth hstandIn).2
  · rename_i h
    refine iff_of_true ⟨_, rfl⟩ fun hstandIn => ?_
    simpa [hstandIn] using h

theorem exists_request?_iff {action : Action} {given : Given} :
    (∃ request, request? action given = .ok request) ↔
      (action = .decode → given.operand ≠ none) := by
  cases action with
  | build | explain | symbols => exact iff_of_true ⟨_, rfl⟩ nofun
  | decode =>
      rw [request?]
      cases given.operand <;> simp

/-- **A command line is accepted just if what it says can be accepted.** -/
theorem accepted_iff {line : Line} (hline : line.Spells arguments) :
    (∃ invocation, ofArguments? standIn arguments = .ok invocation) ↔ line.Accepted standIn := by
  rw [ofArguments?_of_spells hline]
  constructor
  · rintro ⟨invocation, h⟩
    obtain ⟨leading, hleading, h⟩ := Except.bind_eq_ok.mp h
    obtain ⟨own, hown, h⟩ := Except.bind_eq_ok.mp h
    obtain ⟨request, hrequest, h⟩ := Except.bind_eq_ok.mp h
    obtain ⟨settings, hsettings, h⟩ := Except.bind_eq_ok.mp h
    have hoperand := exists_request?_iff.mp ⟨request, hrequest⟩
    have hnamed := exists_settings?_iff.mp ⟨settings, hsettings⟩
    rw [(Given.hears_of_foldlM hown).operand] at hoperand
    rw [(Given.hears_of_foldlM hleading).settings, (Given.hears_of_foldlM hown).settings] at hnamed
    exact ⟨Given.exists_foldlM_iff.mp ⟨leading, hleading⟩,
      Given.exists_foldlM_iff.mp ⟨own, hown⟩, hoperand, by simpa using hnamed⟩
  · intro haccepted
    obtain ⟨leading, hleading⟩ := Given.exists_foldlM_iff.mpr haccepted.leading
    obtain ⟨own, hown⟩ := Given.exists_foldlM_iff.mpr haccepted.own
    have hoperand : line.action = .decode → own.operand ≠ none := by
      rw [(Given.hears_of_foldlM hown).operand]
      exact haccepted.operand
    have hnamed : standIn = some "" → leading.settings ≠ none ∧ own.settings ≠ none := by
      rw [(Given.hears_of_foldlM hleading).settings, (Given.hears_of_foldlM hown).settings]
      simpa using haccepted.standIn
    obtain ⟨request, hrequest⟩ := exists_request?_iff.mpr hoperand
    obtain ⟨settings, hsettings⟩ := exists_settings?_iff.mpr hnamed
    refine ⟨⟨settings, leading.verbose || own.verbose, request⟩, ?_⟩
    exact Except.bind_eq_ok.mpr ⟨leading, hleading, Except.bind_eq_ok.mpr ⟨own, hown,
      Except.bind_eq_ok.mpr ⟨request, hrequest, Except.bind_eq_ok.mpr ⟨settings, hsettings, rfl⟩⟩⟩⟩

/-- So one that is accepted says something that can be. -/
theorem exists_accepted {invocation : Invocation}
    (h : ofArguments? standIn arguments = .ok invocation) :
    ∃ line : Line, line.Spells arguments ∧ line.Accepted standIn := by
  obtain ⟨line, hline⟩ := exists_spells h
  exact ⟨line, hline, (accepted_iff hline).mp ⟨invocation, h⟩⟩

end Invocation

end CompactQuery.Command
