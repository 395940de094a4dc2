import CompactQuery.Command.Path
import CompactQuery.Settings

/-!
# Arguments — what a command line asks for

A command line names a command, with flags before it that hold for every command and flags and
operands behind it that are the command's own. Arguments are read from left to right, and the first
thing that ends the reading decides: a wrong argument, or a flag that asks for the version or for
help.

* **`Flag`** — the flags, with their spellings and whether they take a value.
* **`Action`** — the commands, each with its flags and operands.
* **`Item`**, **`Item.ofArgument`** — what one argument amounts to; short flags may be strung
  together.
* **`Given`** — what the arguments so far have set; **`Given.set`** — one item more.
* **`Invocation.ofArguments?`** — the invocation of a command line, or why there is none (`Stop`).
-/

namespace CompactQuery.Command

/-- A flag of the command line. -/
inductive Flag where
  | settings | verbose | version | help | urlSafe | form
deriving Repr, DecidableEq

namespace Flag

/-- The long spelling, behind two dashes. -/
def long : Flag → String
  | .settings => "config"
  | .verbose => "verbose"
  | .version => "version"
  | .help => "help"
  | .urlSafe => "url-safe"
  | .form => "format"

/-- The short spelling, behind one dash. -/
def short? : Flag → Option Char
  | .settings => none
  | .verbose => some 'v'
  | .version => some 'V'
  | .help => some 'h'
  | .urlSafe => some 'u'
  | .form => some 'f'

/-- Whether the flag takes a value. -/
def takesValue : Flag → Bool
  | .settings => true
  | .form => true
  | _ => false

end Flag

/-- What the program can be asked to do. -/
inductive Action where
  | build | explain | decode | symbols
deriving Repr, DecidableEq

namespace Action

/-- All commands. -/
def all : List Action := [.build, .explain, .decode, .symbols]

/-- The word for a command. -/
def word : Action → String
  | .build => "build"
  | .explain => "explain"
  | .decode => "decode"
  | .symbols => "symbols"

/-- The command of a word. -/
def ofWord? (word : String) : Option Action := all.find? (·.word = word)

/-- The flags that may stand behind the command. -/
def flags : Action → List Flag
  | .build => [.settings, .verbose, .help, .urlSafe, .form]
  | _ => [.settings, .verbose, .help]

/-- How many operands the command takes at most. -/
def operands : Action → Nat
  | .symbols => 0
  | _ => 1

/-- Whether an operand may be this text: what names a file may not be empty. -/
def accepts (action : Action) (operand : String) : Bool :=
  action = .decode || operand ≠ ""

end Action

/-- The flags that may stand before the command. -/
def leadingFlags : List Flag := [.settings, .verbose, .help, .version]

/-- Why an argument is wrong. -/
inductive UsageError where
  | unknownCommand (word : String)
  | missingCommand
  | unknownFlag (argument : String)
  | repeatedFlag (flag : Flag)
  | missingValue (flag : Flag)
  /-- A value for a flag that takes none. -/
  | surplusValue (flag : Flag)
  | wrongValue (flag : Flag) (value : String)
  | surplusOperand (operand : String)
  | emptyOperand
  | missingOperand
deriving Repr, DecidableEq

/-- The error in words. -/
def UsageError.message : UsageError → String
  | .unknownCommand word => "unrecognized command '" ++ word ++ "'"
  | .missingCommand => "a command is required"
  | .unknownFlag argument => "unexpected argument '" ++ argument ++ "'"
  | .repeatedFlag flag => "'--" ++ flag.long ++ "' cannot be used multiple times"
  | .missingValue flag => "a value is required for '--" ++ flag.long ++ "'"
  | .surplusValue flag => "'--" ++ flag.long ++ "' takes no value"
  | .wrongValue flag value => "invalid value '" ++ value ++ "' for '--" ++ flag.long ++ "'"
  | .surplusOperand operand => "unexpected argument '" ++ operand ++ "'"
  | .emptyOperand => "the name of a file is empty"
  | .missingOperand => "a text to decode is required"

/-- What ends the reading of a command line early. -/
inductive Stop where
  | version
  | help
  | wrong (error : UsageError)
deriving Repr, DecidableEq

/-! ## One argument -/

/-- What an argument, or a part of one, amounts to. -/
inductive Item where
  | flag (flag : Flag)
  | setting (flag : Flag) (value : String)
  /-- A flag whose value is the next argument. -/
  | pending (flag : Flag)
  | operand (text : String)
  | wrong (error : UsageError)
deriving Repr, DecidableEq

namespace Item

/-- Whether an argument is written like a flag. A single dash is not. -/
def isFlagLike (argument : String) : Bool :=
  match argument.toList with
  | '-' :: _ :: _ => true
  | _ => false

/-- A flag by its long spelling, with what follows it behind an equals sign. -/
def ofLong (flags : List Flag) (argument : String) (text : List Char) : Item :=
  let (name, rest) := text.span (· ≠ '=')
  match flags.find? (fun f => f.long.toList = name), rest with
  | none, _ => .wrong (.unknownFlag argument)
  | some f, [] => if f.takesValue then .pending f else .flag f
  | some f, _ :: value =>
    if f.takesValue then .setting f (String.ofList value) else .wrong (.surplusValue f)

/-- Short flags strung together, up to the first that takes a value: the rest is that value, behind
an equals sign or right away. -/
def ofShort (flags : List Flag) (argument : String) : List Char → List Item
  | [] => []
  | c :: rest =>
    match flags.find? (fun f => f.short? = some c) with
    | none => [.wrong (.unknownFlag argument)]
    | some f =>
      if f.takesValue then
        match rest with
        | [] => [.pending f]
        | '=' :: value => [.setting f (String.ofList value)]
        | value => [.setting f (String.ofList value)]
      else .flag f :: ofShort flags argument rest

/-- What an argument amounts to where these flags may stand. -/
def ofArgument (flags : List Flag) (argument : String) : List Item :=
  match argument.toList with
  | '-' :: '-' :: text => [ofLong flags argument text]
  | '-' :: c :: text => ofShort flags argument (c :: text)
  | _ => [.operand argument]

end Item

/-! ## A run of arguments -/

/-- What the arguments so far have set. -/
structure Given where
  settings : Option String := none
  verbose : Bool := false
  urlSafe : Bool := false
  form : Option OutputForm := none
  operand : Option String := none
  /-- The flag whose value is due. -/
  pending : Option Flag := none
deriving Repr, DecidableEq

namespace Given

/-- The value of a flag. No flag may be set twice. -/
def assign (given : Given) (flag : Flag) (value : String) : Except Stop Given :=
  match flag with
  | .settings =>
    if given.settings.isSome then .error (.wrong (.repeatedFlag flag))
    else if value = "" then .error (.wrong (.wrongValue flag value))
    else .ok { given with settings := some value }
  | .form =>
    if given.form.isSome then .error (.wrong (.repeatedFlag flag))
    else
      match OutputForm.ofWord? value with
      | none => .error (.wrong (.wrongValue flag value))
      | some form => .ok { given with form := some form }
  | _ => .error (.wrong (.surplusValue flag))

/-- A flag without a value. -/
def switch (given : Given) (flag : Flag) : Except Stop Given :=
  match flag with
  | .version => .error .version
  | .help => .error .help
  | .verbose =>
    if given.verbose then .error (.wrong (.repeatedFlag flag))
    else .ok { given with verbose := true }
  | .urlSafe =>
    if given.urlSafe then .error (.wrong (.repeatedFlag flag))
    else .ok { given with urlSafe := true }
  | _ => .error (.wrong (.missingValue flag))

/-- An operand of a command. -/
def place (action : Action) (given : Given) (operand : String) : Except Stop Given :=
  if action.operands ≤ given.operand.toList.length then
    .error (.wrong (.surplusOperand operand))
  else if action.accepts operand then .ok { given with operand := some operand }
  else .error (.wrong .emptyOperand)

/-- One item. Operands have a meaning behind a command only. -/
def set (action : Option Action) (given : Given) : Item → Except Stop Given
  | .flag flag => given.switch flag
  | .setting flag value => given.assign flag value
  | .pending flag => .ok { given with pending := some flag }
  | .operand text =>
    match action with
    | some action => given.place action text
    | none => .error (.wrong (.unknownCommand text))
  | .wrong error => .error (.wrong error)

/-- An argument where the value of a flag is due. -/
def supply (given : Given) (flag : Flag) (argument : String) : Except Stop Given :=
  if Item.isFlagLike argument then .error (.wrong (.missingValue flag))
  else { given with pending := none }.assign flag argument

/-- The end of the arguments. -/
def finish (given : Given) : Except Stop Given :=
  match given.pending with
  | none => .ok given
  | some flag => .error (.wrong (.missingValue flag))

/-- The arguments behind a command. Behind two dashes there are operands only. -/
def readAction (action : Action) : Given → List String → Except Stop Given
  | given, [] => given.finish
  | given, argument :: rest =>
    match given.pending with
    | some flag => do readAction action (← given.supply flag argument) rest
    | none =>
      if argument = "--" then rest.foldlM (place action) given
      else do
        let given ← (Item.ofArgument action.flags argument).foldlM (set (some action)) given
        readAction action given rest

/-- The arguments up to the command, with its word and the arguments behind it. -/
def readLeading : Given → List String → Except Stop (Given × String × List String)
  | given, [] => do
    let _ ← given.finish
    .error (.wrong .missingCommand)
  | given, argument :: rest =>
    match given.pending with
    | some flag => do readLeading (← given.supply flag argument) rest
    | none =>
      if Item.isFlagLike argument then do
        let given ← (Item.ofArgument leadingFlags argument).foldlM (set none) given
        readLeading given rest
      else .ok (given, argument, rest)

end Given

/-! ## Invocations -/

/-- What is to be done. -/
inductive Request where
  /-- Write the compact form of a query. -/
  | build (file : Option Path) (urlSafe : Bool) (form : Option OutputForm)
  /-- Show the segments of a query. -/
  | explain (file : Option Path)
  /-- Undo percent-encoding. -/
  | decode (text : String)
  /-- Show what the sigils mean. -/
  | symbols
deriving Repr, DecidableEq

/-- A command line that asks for something to be done. -/
structure Invocation where
  /-- The settings file that is named. -/
  settings : Option Path
  verbose : Bool
  request : Request
deriving Repr, DecidableEq

namespace Invocation

/-- The request of a command with what was set behind it. -/
def request? (action : Action) (given : Given) : Except Stop Request :=
  match action with
  | .build => .ok (.build (given.operand.map Path.mk) given.urlSafe given.form)
  | .explain => .ok (.explain (given.operand.map Path.mk))
  | .decode =>
    match given.operand with
    | some text => .ok (.decode text)
    | none => .error (.wrong .missingOperand)
  | .symbols => .ok .symbols

/-- The settings file: named behind the command, else before it, else by a variable. The variable
stands in wherever the flag could stand and does not, and may not be empty there. -/
def settings? (leading own standIn : Option String) : Except Stop (Option Path) :=
  if standIn = some "" ∧ (leading.isNone ∨ own.isNone) then
    .error (.wrong (.wrongValue .settings ""))
  else .ok (((own.or leading).or standIn).map Path.mk)

/-- Whether help can be given on the words behind the command for it: on everything, or on one
command. -/
def helps : List String → Bool
  | [] => true
  | [word] => word = "help" || (Action.ofWord? word).isSome
  | _ => false

/-- The invocation of a command line, or why there is none. The settings variable is the one that
stands in for the flag. -/
def ofArguments? (standIn : Option String) (arguments : List String) : Except Stop Invocation := do
  let (leading, word, rest) ← Given.readLeading {} arguments
  match Action.ofWord? word with
  | some action =>
    let own ← Given.readAction action {} rest
    let request ← request? action own
    let settings ← settings? leading.settings own.settings standIn
    .ok { settings, verbose := leading.verbose || own.verbose, request }
  | none =>
    if word = "help" ∧ helps rest then .error .help
    else .error (.wrong (.unknownCommand word))

end Invocation

end CompactQuery.Command
