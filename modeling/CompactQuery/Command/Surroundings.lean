import CompactQuery.Command.Path

/-!
# Surroundings — all that a run of the program can depend on besides its arguments

* **`ReadFailure`** — why a file, or the input, cannot be read as text.
* **`Environment`** — the variables that matter; **`Environment.ofPairs`** — from names and values.
* **`Surroundings`** — the variables, the files, the input and whether the output is a terminal.
* **`Surroundings.text`** — a file as text.

Whether anything is at a path (`Surroundings.holds`) is another question than what is read there: a
file may be there that cannot be read, and one behind a folder that may not be searched is not found.
-/

namespace CompactQuery.Command

/-- Why something cannot be read as text. -/
inductive ReadFailure where
  | missing
  /-- A part of the path that ought to be a folder is none. -/
  | notFolder
  | folder
  | denied
  | nameTooLong
  /-- It is no UTF-8. -/
  | notText
  | other (reason : String)
deriving Repr, DecidableEq

namespace ReadFailure

/-- The failure in words. -/
def message : ReadFailure → String
  | .missing => "No such file or directory (os error 2)"
  | .notFolder => "Not a directory (os error 20)"
  | .folder => "Is a directory (os error 21)"
  | .denied => "Permission denied (os error 13)"
  | .nameTooLong => "File name too long (os error 36)"
  | .notText => "stream did not contain valid UTF-8"
  | .other reason => reason

/-- Whether something is there that only cannot be read, if everything is within reach. -/
def isThere : ReadFailure → Bool
  | .missing => false
  | .notFolder => false
  | .nameTooLong => false
  | _ => true

end ReadFailure

/-- Octets as text. -/
def readText (octets : ByteArray) : Except ReadFailure String :=
  match String.fromUTF8? octets with
  | some text => .ok text
  | none => .error .notText

/-- The variables that matter, each as far as it is set. -/
structure Environment where
  /-- The settings file, unless the command line names one. -/
  settings : Option String := none
  /-- Which log records are shown. -/
  logFilter : Option String := none
  /-- Set at all, it turns colours off. -/
  noColour : Option String := none
  /-- Zero turns colours off. -/
  colour : Option String := none
  /-- Anything but zero turns colours on, whatever else is set. -/
  forceColour : Option String := none
  /-- The folder of the user's settings. -/
  settingsFolder : Option String := none
  /-- The user's own folder. -/
  home : Option String := none
  /-- The user's own folder as the system has it on record, for when the variable names none. -/
  recordedHome : Option String := none
deriving Repr, DecidableEq

namespace Environment

/-- The names of the variables that matter. -/
def names : List String :=
  ["SHORTSQL_CONFIG", "RUST_LOG", "NO_COLOR", "CLICOLOR", "CLICOLOR_FORCE", "XDG_CONFIG_HOME",
    "HOME"]

/-- The environment in which the variables have these values, with nothing on record. -/
def ofPairs (pairs : List (String × String)) : Environment :=
  { settings := pairs.lookup "SHORTSQL_CONFIG"
    logFilter := pairs.lookup "RUST_LOG"
    noColour := pairs.lookup "NO_COLOR"
    colour := pairs.lookup "CLICOLOR"
    forceColour := pairs.lookup "CLICOLOR_FORCE"
    settingsFolder := pairs.lookup "XDG_CONFIG_HOME"
    home := pairs.lookup "HOME" }

/-- Whether text is printed in colour. -/
def colours (environment : Environment) (terminal : Bool) : Bool :=
  if environment.forceColour.any (· ≠ "0") then true
  else if environment.noColour.isSome then false
  else environment.colour.all (· ≠ "0") && terminal

/-- The user's settings file: in the folder for settings if that is given as a path from the root,
else in a folder of the user's own. -/
def userSettings? (environment : Environment) : Option Path :=
  let named := (environment.settingsFolder.map Path.mk).filter Path.isAbsolute
  let home := (environment.home.filter (· ≠ "")).or (environment.recordedHome.filter (· ≠ ""))
  let usual := home.map fun home => (Path.mk home).child ".config"
  (named.or usual).map fun folder => (folder.child "shortsql").child "config.toml"

end Environment

/-- All that a run can depend on besides its arguments. -/
structure Surroundings where
  environment : Environment
  /-- The content of each file, or why it has none. -/
  files : Path → Except ReadFailure ByteArray
  /-- Whether anything is found at a path. Unless that is known, it is told from the reading, as if
  everything were within reach. -/
  holds : Path → Bool := fun path =>
    match files path with
    | .ok _ => true
    | .error failure => failure.isThere
  /-- All of the input. -/
  input : Except ReadFailure ByteArray
  /-- Whether the output is a terminal. -/
  terminal : Bool

namespace Surroundings

/-- A file as text. -/
def text (here : Surroundings) (path : Path) : Except ReadFailure String :=
  here.files path >>= readText

/-- The input as text. -/
def inputText (here : Surroundings) : Except ReadFailure String := here.input >>= readText

/-- Whether text is printed in colour. -/
def colours (here : Surroundings) : Bool := here.environment.colours here.terminal

end Surroundings

end CompactQuery.Command
