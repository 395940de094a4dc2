import CompactQuery.Command.Directive

/-!
# Log filters — which records are shown

A filter is a list of directives between commas. Of all that apply to a record, the most specific
one decides, and of equally specific ones the last.

* **`LogFilter.parse?`** — the filter of a text, or `none` if one of its directives is wrong.
* **`LogFilter.shows`** — whether a record is shown; **`recordLine`** — how it is shown.
-/

namespace CompactQuery.Command

/-- Directives in the order given. -/
abbrev LogFilter := List Directive

namespace LogFilter

/-- A filter with one verbosity for everything. -/
def uniform (verbosity : Verbosity) : LogFilter := [{ verbosity }]

/-- The filter of a text, or `none` if one of its directives is wrong. Without any directive only
errors are shown. -/
def parse? (text : String) : Option LogFilter :=
  match (pieces ',' text.toList).filter (· ≠ []) with
  | [] => some (uniform (verbosityOf .error))
  | texts => (texts.mapM Directive.parse?).map fun directives => directives.filterMap id

/-- The filter in force: the given one if it is well formed, else debugging records if the command
line asks for more, else warnings. -/
def choose (text : Option String) (verbose : Bool) : LogFilter :=
  (text.bind parse?).getD (uniform (verbosityOf (if verbose then .debug else .warn)))

/-- The directive that decides about a record. -/
def decider? (filter : LogFilter) (record : LogRecord) : Option Directive :=
  (filter.filter (·.appliesTo record)).foldl
    (fun best directive =>
      match best with
      | none => some directive
      | some b => if directive.outranks b then some directive else some b)
    none

/-- Whether a record is shown. -/
def shows (filter : LogFilter) (record : LogRecord) : Bool :=
  (filter.decider? record).any fun directive => verbosityOf record.level ≤ directive.verbosity

end LogFilter

/-- A record as a line of a log. -/
def recordLine (record : LogRecord) : String :=
  record.level.name ++ " " ++ record.source ++ ": " ++ record.message
    ++ String.join (record.values.map fun value => " " ++ value.1 ++ "=" ++ value.2) ++ "\n"

/-- The lines of a log, for the events that a filter shows. -/
def logText (filter : LogFilter) (events : List Event) : String :=
  String.join (((events.map Event.record).filter filter.shows).map recordLine)

end CompactQuery.Command
