/-!
# Events — what the library and the program report while they work

An event says what happened; its `record` is what a log shows of it: a level, the part of the
program it comes from, a fixed message and named values.

* **`Level`** — from the most talkative to the most urgent.
* **`Event`** — one constructor per thing that is reported.
* **`Event.record`** — the log record of an event.
-/

namespace CompactQuery

/-- How urgent a log record is, the least urgent first. -/
inductive Level where
  | trace | debug | info | warn | error
deriving Repr, DecidableEq

/-- The name of a level. -/
def Level.name : Level → String
  | .trace => "TRACE"
  | .debug => "DEBUG"
  | .info => "INFO"
  | .warn => "WARN"
  | .error => "ERROR"

/-- Something that happened. Clauses are reported by their tokens. -/
inductive Event where
  | fieldAdded (token : String)
  | joinAdded (token : String)
  | conditionAdded (token : String)
  | sortKeyAdded (token : String)
  | limitSet (token : String)
  | groupAdded (token : String)
  /-- The first condition of a filter came with a connector. -/
  | connectorRejected (connector : String)
  /-- A later condition of a filter, at this place, came without one. -/
  | connectorMissed (index : Nat)
  | rendered (table : String) (urlSafe : Bool)
  | settingsRead (path : String)
  | settingsAbsent
  | fileRead (path : String)
  | inputRead
deriving Repr, DecidableEq

/-- What a log shows of an event. -/
structure LogRecord where
  level : Level
  /-- The part of the program that reports. -/
  source : String
  message : String
  /-- Named values, in the order shown. -/
  values : List (String × String)
deriving Repr, DecidableEq

/-- The part of the program that collects clauses. -/
def LogRecord.collecting : String := "shortsql::builder"

/-- The part of the program that writes the compact form. -/
def LogRecord.rendering : String := "shortsql::transpiler"

/-- The part of the program that finds the settings. -/
def LogRecord.configuring : String := "shortsql::config"

/-- The command line itself. -/
def LogRecord.running : String := "shortsql"

/-- The log record of an event. Clauses that are added are traced, all else is for debugging. -/
def Event.record : Event → LogRecord
  | .fieldAdded token => ⟨.trace, LogRecord.collecting, "add field", [("field", token)]⟩
  | .joinAdded token => ⟨.trace, LogRecord.collecting, "add join", [("join", token)]⟩
  | .conditionAdded token => ⟨.trace, LogRecord.collecting, "add where", [("condition", token)]⟩
  | .sortKeyAdded token => ⟨.trace, LogRecord.collecting, "add order", [("order", token)]⟩
  | .limitSet token => ⟨.trace, LogRecord.collecting, "set limit", [("limit", token)]⟩
  | .groupAdded token => ⟨.trace, LogRecord.collecting, "add group", [("field", token)]⟩
  | .connectorRejected connector =>
    ⟨.debug, LogRecord.collecting, "rejected connector on first where condition",
      [("connector", connector)]⟩
  | .connectorMissed index =>
    ⟨.debug, LogRecord.collecting, "rejected where condition without connector",
      [("index", Nat.repr index)]⟩
  | .rendered table urlSafe =>
    ⟨.debug, LogRecord.rendering, "render",
      [("table", table), ("url_safe", if urlSafe then "true" else "false")]⟩
  | .settingsRead path => ⟨.debug, LogRecord.configuring, "loading config", [("path", path)]⟩
  | .settingsAbsent => ⟨.debug, LogRecord.configuring, "no config file found, using defaults", []⟩
  | .fileRead path => ⟨.debug, LogRecord.running, "reading query description", [("path", path)]⟩
  | .inputRead => ⟨.debug, LogRecord.running, "reading query description from stdin", []⟩

end CompactQuery
