import CompactQuery.Command.Surroundings
import CompactQuery.Loading
import CompactQuery.Query.Segment

/-!
# Reports — the outcome of a stage, with the events on the way

The program works in stages, and the first that fails ends it. A stage reports the events on its way
to a result or a failure; a stage behind one that succeeded adds its own.

* **`Failure`** — what can go wrong, one constructor per stage; **`Failure.message`** — the words.
* **`Report`** — events and a result or failure; it is a monad.
* **`loadSettings`** — the first stage: the settings in force.
* **`loadQuery`** — the second and third: the description, and the query that it describes.
-/

namespace CompactQuery.Command

/-- Where a description comes from. -/
inductive Source where
  | input
  | file (path : Path)
deriving Repr, DecidableEq

namespace Source

/-- What messages call a source. -/
def name : Source → String
  | .input => "stdin"
  | .file path => path.text

/-- The source that an operand names: the input if there is none, or if it is a dash. -/
def ofOperand : Option Path → Source
  | none => .input
  | some path => if path.same ⟨"-"⟩ then .input else .file path

/-- The format of the descriptions from a source: TOML for files with its extension. -/
def format : Source → Format
  | .input => .json
  | .file path => if path.extension? = some "toml".toList then .toml else .json

/-- The event that reports that a source is about to be read. -/
def event : Source → Event
  | .input => .inputRead
  | .file path => .fileRead path.text

/-- The text of a source. -/
def text (here : Surroundings) : Source → Except ReadFailure String
  | .input => here.inputText
  | .file path => here.text path

end Source

/-- What can go wrong. -/
inductive Failure where
  /-- The settings file cannot be read. -/
  | settingsUnread (path : Path) (reason : ReadFailure)
  /-- The settings file holds no settings. -/
  | settingsWrong (error : LoadError)
  /-- The description cannot be read. -/
  | descriptionUnread (source : Source) (reason : ReadFailure)
  /-- The description describes no query. -/
  | descriptionWrong (error : LoadError)
deriving Repr, DecidableEq

/-- An error and its cause in words. The cause is part of the error's own words as well. -/
def chained (error : LoadError) : String := error.message ++ ": " ++ error.cause

/-- The failure in words, the cause last. -/
def Failure.message : Failure → String
  | .settingsUnread path reason =>
    "Failed to load config: Configuration error: Failed to read " ++ path.text ++ ": "
      ++ reason.message
  | .settingsWrong error => "Failed to load config: " ++ chained error
  | .descriptionUnread source reason =>
    "Failed to read " ++ source.name ++ ": " ++ reason.message
  | .descriptionWrong error => chained error

/-- The events of a stage, and its result or failure. -/
structure Report (α : Type) where
  events : List Event
  result : Except Failure α

namespace Report

/-- A result without events. -/
def done {α : Type} (a : α) : Report α := ⟨[], .ok a⟩

/-- A stage behind another one, which it needs the result of. -/
def andThen {α β : Type} (report : Report α) (next : α → Report β) : Report β :=
  match report.result with
  | .ok a => ⟨report.events ++ (next a).events, (next a).result⟩
  | .error failure => ⟨report.events, .error failure⟩

instance : Monad Report where
  pure := done
  bind := andThen

/-- Nothing but events. -/
def tell (events : List Event) : Report Unit := ⟨events, .ok ()⟩

/-- A result, or the failure that an error amounts to. -/
def ofExcept {ε α : Type} (failure : ε → Failure) : Except ε α → Report α
  | .ok a => ⟨[], .ok a⟩
  | .error e => ⟨[], .error (failure e)⟩

end Report

/-! ## The stages -/

/-- The settings file in the folder where the program runs. -/
def localSettings : Path := ⟨"shortsql.toml"⟩

/-- The usual settings files, the one to prefer first. -/
def usualSettings (environment : Environment) : List Path :=
  localSettings :: environment.userSettings?.toList

/-- The settings file in force, if there is one: the one that is named, else the first of the usual
ones that is there. -/
def settingsFile (here : Surroundings) (named : Option Path) : Option Path :=
  named.or ((usualSettings here.environment).find? fun path => here.holds path)

/-- The settings in force. A file that is in force and cannot be read or understood is a failure,
even if there is another one. -/
def loadSettings (here : Surroundings) (named : Option Path) : Report Settings :=
  match settingsFile here named with
  | none => do
    Report.tell [.settingsAbsent]
    pure {}
  | some path => do
    Report.tell [.settingsRead path.text]
    let text ← Report.ofExcept (Failure.settingsUnread path) (here.text path)
    Report.ofExcept Failure.settingsWrong (Settings.load? text)

/-- The query that a source describes. -/
def loadQuery (here : Surroundings) (source : Source) : Report Query := do
  Report.tell [source.event]
  let text ← Report.ofExcept (Failure.descriptionUnread source) (source.text here)
  Report.tell (Query.loadEvents source.format text)
  Report.ofExcept Failure.descriptionWrong (Query.load? source.format text)

/-- The rendering of a query. -/
def render (query : Query) (urlSafe : Bool) : Report String := do
  Report.tell [.rendered query.table urlSafe]
  pure (query.render urlSafe)

end CompactQuery.Command
