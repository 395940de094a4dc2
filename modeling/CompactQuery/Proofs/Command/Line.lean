import CompactQuery.Command.Arguments
import Mathlib.Data.List.Forall2

/-!
# Lines — what a command line says, and what it asks for

What a command line says is a matter of how it is written, and of nothing else: it is a relation
between arguments and a line, with a rule for each way to write a thing. A flag has a long name
behind two dashes or a letter behind one; letters can be strung together as long as only the last
has a value; a value stands behind an equals sign, right behind a letter, or in an argument of its
own; what does not look like a flag is an operand, and so is everything behind two dashes.

* **`Saying`** — one thing that is said; **`Line`** — the command, with what is said on either side.
* **`Names`**, **`WritesFully`**, **`Writes`**, **`Says`**, **`Line.Spells`** — the rules.
* **`Line.Asks`** — the invocation that a line asks for; **`Line.Accepted`** — the lines that can be
  accepted.
* **`Line.Asks.request_eq`**, **`Line.Asks.settings_eq`** — lines that only say other things about
  the log ask for the same.
-/

namespace CompactQuery.Command

/-! ## How a line is written -/

/-- One thing that a command line says. -/
inductive Saying where
  | switch (flag : Flag)
  | value (flag : Flag) (text : String)
  | operand (text : String)
deriving Repr, DecidableEq

/-- A dash with something behind it starts a flag. -/
def LedByDash (text : String) : Prop := ∃ c rest, text.toList = '-' :: c :: rest

/-- The letter is a flag that may stand here and has no value. -/
structure IsSwitch (flags : List Flag) (letter : Char) (flag : Flag) : Prop where
  mem : flag ∈ flags
  short : flag.short? = some letter
  valueless : flag.takesValue = false

/-- The text is the name of a flag, its letter perhaps behind those of some switches. -/
inductive Names (flags : List Flag) : List Flag → Flag → List Char → Prop where
  | long {flag : Flag} (hflag : flag ∈ flags) : Names flags [] flag ('-' :: '-' :: flag.long.toList)
  | short {letters : List Char} {switches : List Flag} {letter : Char} {flag : Flag}
      (hswitches : List.Forall₂ (IsSwitch flags) letters switches) (hflag : flag ∈ flags)
      (hshort : flag.short? = some letter) :
      Names flags switches flag ('-' :: (letters ++ [letter]))

/-- The argument writes these things in full: nothing more is to come. -/
inductive WritesFully (flags : List Flag) : List Saying → List Char → Prop where
  | long {flag : Flag} (hflag : flag ∈ flags) (hvalue : flag.takesValue = false) :
      WritesFully flags [.switch flag] ('-' :: '-' :: flag.long.toList)
  | strung {letters : List Char} {switches : List Flag} (hne : letters ≠ [])
      (hswitches : List.Forall₂ (IsSwitch flags) letters switches) :
      WritesFully flags (switches.map .switch) ('-' :: letters)
  | equals {switches : List Flag} {flag : Flag} {name : List Char}
      (hname : Names flags switches flag name) (hvalue : flag.takesValue = true)
      (value : List Char) :
      WritesFully flags (switches.map .switch ++ [.value flag (String.ofList value)])
        (name ++ '=' :: value)
  | joined {letters : List Char} {switches : List Flag} {letter : Char} {flag : Flag}
      (hswitches : List.Forall₂ (IsSwitch flags) letters switches) (hflag : flag ∈ flags)
      (hshort : flag.short? = some letter) (hvalue : flag.takesValue = true) {c : Char}
      (hc : c ≠ '=') (value : List Char) :
      WritesFully flags (switches.map .switch ++ [.value flag (String.ofList (c :: value))])
        ('-' :: (letters ++ letter :: c :: value))

/-- The arguments write these flags, with their values. -/
inductive Writes (flags : List Flag) : List Saying → List String → Prop where
  | fully {said : List Saying} {argument : String}
      (h : WritesFully flags said argument.toList) : Writes flags said [argument]
  | apart {switches : List Flag} {flag : Flag} {name : String}
      (hname : Names flags switches flag name.toList) (hvalue : flag.takesValue = true)
      {value : String} (hdash : ¬ LedByDash value) :
      Writes flags (switches.map .switch ++ [.value flag value]) [name, value]

/-- The arguments say all of this, in this order, where operands have their place or have not. -/
inductive Says (flags : List Flag) (withOperands : Bool) : List Saying → List String → Prop where
  | nil : Says flags withOperands [] []
  | flags {said more : List Saying} {arguments others : List String}
      (h : Writes flags said arguments) (hmore : Says flags withOperands more others) :
      Says flags withOperands (said ++ more) (arguments ++ others)
  | operand {text : String} {more : List Saying} {others : List String}
      (hplace : withOperands = true) (hdash : ¬ LedByDash text)
      (hmore : Says flags withOperands more others) :
      Says flags withOperands (.operand text :: more) (text :: others)
  | dashes (hplace : withOperands = true) (texts : List String) :
      Says flags withOperands (texts.map .operand) ("--" :: texts)

/-- A command, with what is said in front of it and behind it. -/
structure Line where
  leading : List Saying
  action : Action
  own : List Saying
deriving Repr, DecidableEq

/-- The line is what these arguments say. -/
def Line.Spells (line : Line) (arguments : List String) : Prop :=
  ∃ front behind, arguments = front ++ line.action.word :: behind ∧
    Says leadingFlags false line.leading front ∧ Says line.action.flags true line.own behind

/-! ## What a line asks for -/

namespace Saying

/-- The value that is said for the flag. -/
def value? (flag : Flag) : Saying → Option String
  | .value other text => if other = flag then some text else none
  | _ => none

def operand? : Saying → Option String
  | .operand text => some text
  | _ => none

end Saying

namespace Line

/-- The settings file that is named behind the command, or else before it. -/
def settings? (line : Line) : Option Path :=
  ((line.own.findSome? (·.value? .settings)).or
    (line.leading.findSome? (·.value? .settings))).map Path.mk

/-- The word for the form of the output. -/
def form? (line : Line) : Option String := line.own.findSome? (·.value? .form)

def operand? (line : Line) : Option String := line.own.findSome? (·.operand?)

/-- The line says that the output is to be percent-encoded. -/
def UrlSafe (line : Line) : Prop := .switch .urlSafe ∈ line.own

def Verbose (line : Line) : Prop := .switch .verbose ∈ line.leading ∨ .switch .verbose ∈ line.own

/-- The line without a word about the log. -/
def quiet (line : Line) : Line :=
  { line with
    leading := line.leading.filter (· ≠ .switch .verbose)
    own := line.own.filter (· ≠ .switch .verbose) }

/-- The line asks for this, where a variable may stand in for the flag that names the settings. -/
structure Asks (line : Line) (standIn : Option String) (invocation : Invocation) : Prop where
  settings : invocation.settings = line.settings?.or (standIn.map Path.mk)
  verbose : invocation.verbose = true ↔ line.Verbose
  request : match line.action with
    | .build => ∃ urlSafe form,
        invocation.request = .build (line.operand?.map Path.mk) urlSafe form ∧
        (urlSafe = true ↔ line.UrlSafe) ∧ form.map OutputForm.word = line.form?
    | .explain => invocation.request = .explain (line.operand?.map Path.mk)
    | .decode => ∃ text, line.operand? = some text ∧ invocation.request = .decode text
    | .symbols => invocation.request = .symbols

end Line

/-! ## What is accepted -/

namespace Saying

/-- What is said something about: a flag, or else the operand. -/
def topic : Saying → Option Flag
  | .switch flag => some flag
  | .value flag _ => some flag
  | .operand _ => none

/-- This can be said of the command, or in front of one. -/
def Possible (action : Option Action) : Saying → Prop
  | .switch flag => flag = .verbose ∨ flag = .urlSafe
  | .value flag text =>
    flag = .settings ∧ text ≠ "" ∨ flag = .form ∧ ∃ form : OutputForm, form.word = text
  | .operand text => ∃ command, action = some command ∧ command ≠ .symbols ∧
      (command = .decode ∨ text ≠ "")

end Saying

/-- All of this can be said together: nothing is said twice. -/
structure Acceptable (action : Option Action) (said : List Saying) : Prop where
  possible : ∀ saying ∈ said, saying.Possible action
  once : (said.map Saying.topic).Nodup

/-- The line can be accepted. Where no flag names the settings, the variable is taken for it and may
not be empty. -/
structure Line.Accepted (line : Line) (standIn : Option String) : Prop where
  leading : Acceptable none line.leading
  own : Acceptable (some line.action) line.own
  operand : line.action = .decode → line.operand? ≠ none
  standIn : standIn = some "" → ∀ said ∈ [line.leading, line.own],
    said.findSome? (·.value? .settings) ≠ none

/-! ## Lines that differ in what they say about the log -/

theorem OutputForm.word_injective : Function.Injective OutputForm.word := by
  intro a b h
  revert h
  cases a <;> cases b <;> decide

theorem OutputForm.ofWord?_eq_some_iff {word : String} {form : OutputForm} :
    OutputForm.ofWord? word = some form ↔ form.word = word := by
  constructor
  · intro h
    unfold OutputForm.ofWord? at h
    split at h
    · cases h
      exact Eq.symm ‹_›
    · split at h
      · cases h
        exact Eq.symm ‹_›
      · exact nomatch h
  · rintro rfl
    cases form <;> decide

namespace Line

variable {line line' : Line} {standIn standIn' : Option String}
  {invocation invocation' : Invocation}

theorem findSome?_quiet {α : Type} {f : Saying → Option α} (hf : f (.switch .verbose) = none)
    (said : List Saying) :
    (said.filter (· ≠ .switch .verbose)).findSome? f = said.findSome? f := by
  induction said with
  | nil => rfl
  | cons saying said ih =>
      by_cases h : saying = .switch .verbose
      · subst h
        rw [List.filter_cons_of_neg (by simp), ih, List.findSome?_cons, hf]
      · rw [List.filter_cons_of_pos (by simpa using h), List.findSome?_cons, List.findSome?_cons,
          ih]

/-- Nothing but the log is asked for in another way. -/
theorem Asks.request_eq (h : line.Asks standIn invocation) (h' : line'.Asks standIn' invocation')
    (hquiet : line'.quiet = line.quiet) : invocation'.request = invocation.request := by
  obtain ⟨hleading, haction, hown⟩ := Line.mk.inj hquiet
  have hoperand : line'.operand? = line.operand? := by
    have hsome := congrArg (List.findSome? Saying.operand?) hown
    rwa [findSome?_quiet rfl, findSome?_quiet rfl] at hsome
  have hform : line'.form? = line.form? := by
    have hsome := congrArg (List.findSome? (Saying.value? .form)) hown
    rwa [findSome?_quiet rfl, findSome?_quiet rfl] at hsome
  have hurlSafe : line'.UrlSafe ↔ line.UrlSafe := by
    have hmem := congrArg (Saying.switch .urlSafe ∈ ·) hown
    simpa [UrlSafe] using hmem
  have hrequest := h.request
  have hrequest' := h'.request
  rw [haction, hoperand, hform] at hrequest'
  cases hcommand : line.action with
  | build =>
      rw [hcommand] at hrequest hrequest'
      obtain ⟨urlSafe, form, hbuild, hsafe, hword⟩ := hrequest
      obtain ⟨urlSafe', form', hbuild', hsafe', hword'⟩ := hrequest'
      have hforms : form' = form := Option.map_injective OutputForm.word_injective
        (hword'.trans hword.symm)
      have hsafes : urlSafe' = urlSafe :=
        Bool.eq_iff_iff.mpr (hsafe'.trans (hurlSafe.trans hsafe.symm))
      rw [hbuild, hbuild', hforms, hsafes]
  | explain | symbols =>
      rw [hcommand] at hrequest hrequest'
      exact hrequest'.trans hrequest.symm
  | decode =>
      rw [hcommand] at hrequest hrequest'
      obtain ⟨text, htext, hdecode⟩ := hrequest
      obtain ⟨text', htext', hdecode'⟩ := hrequest'
      cases htext.symm.trans htext'
      exact hdecode'.trans hdecode.symm

theorem Asks.settings_eq (h : line.Asks standIn invocation) (h' : line'.Asks standIn invocation')
    (hquiet : line'.quiet = line.quiet) : invocation'.settings = invocation.settings := by
  obtain ⟨hleading, _, hown⟩ := Line.mk.inj hquiet
  have hbefore := congrArg (List.findSome? (Saying.value? .settings)) hleading
  have hbehind := congrArg (List.findSome? (Saying.value? .settings)) hown
  rw [findSome?_quiet rfl, findSome?_quiet rfl] at hbefore hbehind
  rw [h.settings, h'.settings, settings?, settings?, hbehind, hbefore]

end Line

end CompactQuery.Command
