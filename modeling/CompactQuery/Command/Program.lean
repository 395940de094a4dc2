import CompactQuery.Command.Arguments
import CompactQuery.Command.Listing
import CompactQuery.Command.LogFilter
import CompactQuery.Command.Report

/-!
# The program — from a command line and its surroundings to an outcome

A run is a function: everything it reads is in its surroundings, and everything it does is in its
outcome.

* **`Outcome`** — what is printed, and the status.
* **`perform`** — what a request comes to, as a report.
* **`run`** — the outcome of a command line.

A run that fails prints nothing but a message, behind the log.
-/

namespace CompactQuery.Command

/-- What a run prints, to either of its outputs, and its status. -/
structure Outcome where
  status : Nat
  output : String
  messages : String
deriving Repr, DecidableEq

/-- A compact form as the program prints it. -/
def resultText (form : OutputForm) (urlSafe : Bool) (text : String) : String :=
  match form with
  | .plain => text ++ "\n"
  | .json =>
    Json.prettyObject [("shortsql", .text text), ("url_safe", .flag urlSafe)] ++ "\n"

/-- The compact form of a query, as the command line wants it and else as the settings do. -/
def build (here : Surroundings) (settingsPath : Option Path) (file : Option Path) (urlSafe : Bool)
    (form : Option OutputForm) : Report (List Span) := do
  let settings ← loadSettings here settingsPath
  let query ← loadQuery here (.ofOperand file)
  let urlSafe := urlSafe || settings.output.urlSafe
  let text ← render query urlSafe
  pure [.plain (resultText (form.getD settings.output.form) urlSafe text)]

/-- The listing of a query, which holds both of its renderings. -/
def explain (here : Surroundings) (file : Option Path) : Report (List Span) := do
  let query ← loadQuery here (.ofOperand file)
  let _ ← render query false
  let _ ← render query true
  pure (listing query)

/-- What a request comes to. -/
def perform (here : Surroundings) (settingsPath : Option Path) : Request → Report (List Span)
  | .build file urlSafe form => build here settingsPath file urlSafe form
  | .explain file => explain here file
  | .decode text => pure [.plain (Percent.decode text ++ "\n")]
  | .symbols => pure sigilTable

/-- What is printed for help. -/
def helpText : String :=
  "Compact ShortSQL query strings\n\n"
    ++ "Usage: shortsql [--config PATH] [-v] COMMAND\n\n"
    ++ "Commands:\n"
    ++ "  build [FILE] [-u] [-f plain|json]  Render a query description\n"
    ++ "  explain [FILE]                     Show the segments of a query description\n"
    ++ "  decode INPUT                       Percent-decode a URL-safe string\n"
    ++ "  symbols                            Show the symbol reference\n\n"
    ++ "A description is JSON, or TOML in a file with the extension toml. It comes from stdin\n"
    ++ "when FILE is absent or a dash.\n"

/-- What is printed for the version. -/
def versionText : String := "shortsql 0.1.0\n"

/-- The outcome of a report: its log, and then either the text or the failure. -/
def Report.outcome (colours : Bool) (filter : LogFilter) (report : Report (List Span)) : Outcome :=
  let log := logText filter report.events
  match report.result with
  | .ok spans => ⟨0, shownAll colours spans, log⟩
  | .error failure =>
    let label := (Span.styled .boldRed "Error:").shown colours
    ⟨1, "", log ++ label ++ " " ++ failure.message ++ "\n"⟩

/-- The outcome of a command line that asks for nothing to be done. -/
def Stop.outcome : Stop → Outcome
  | .version => ⟨0, versionText, ""⟩
  | .help => ⟨0, helpText, ""⟩
  | .wrong error => ⟨2, "", "error: " ++ error.message ++ "\n"⟩

/-- The outcome of an invocation. -/
def Invocation.outcome (here : Surroundings) (invocation : Invocation) : Outcome :=
  (perform here invocation.settings invocation.request).outcome here.colours
    (.choose here.environment.logFilter invocation.verbose)

/-- The outcome of a command line. -/
def run (here : Surroundings) (arguments : List String) : Outcome :=
  match Invocation.ofArguments? here.environment.settings arguments with
  | .ok invocation => invocation.outcome here
  | .error stop => stop.outcome

end CompactQuery.Command
