import CompactQuery.Json.Document
import CompactQuery.Schema.Catalogue
import CompactQuery.Toml.Document

/-!
# Loading — from a text in JSON or TOML to a query

Any value of the library can be read from a text in either format (`Shaped.read?`). A query takes
one step more: what the text describes is replayed clause by clause on the bare table, so a text
whose filter breaks the rule on connectors loads nothing.

* **`readShape`** — the value of a shape that a text in a format holds; **`Shaped.read?`** — the
  same for a type.
* **`LoadError`** — why a text loads nothing; **`LoadError.message`** — the words for it.
* **`Query.load?`** — the query of a text; **`Query.loadEvents`** — what loading it reports.
-/

namespace CompactQuery

/-- The name that messages use. -/
def Format.name : Format → String
  | .json => "JSON"
  | .toml => "TOML"

/-- The value of a shape that a text in a format holds, or the first fault. -/
def readShape (format : Format) (s : Shape) (text : String) : Except Fault s.Content :=
  match format with
  | .json => Json.readShape s text
  | .toml => Toml.readShape s text

/-- Why a text loads nothing. -/
inductive LoadError where
  /-- It does not hold the value that is wanted. -/
  | text (format : Format) (fault : Fault)
  /-- It describes a filter that breaks the rule on connectors. -/
  | sequence (fault : ChainFault)
deriving Repr, DecidableEq

namespace LoadError

/-- What comes before the words for the cause. -/
def label : LoadError → String
  | .text format _ => format.name ++ " error: "
  | .sequence _ => "Sequence error: "

/-- The words for the cause. -/
def cause : LoadError → String
  | .text _ fault => fault.message
  | .sequence fault => fault.message

/-- The error in words. -/
def message (error : LoadError) : String := error.label ++ error.cause

end LoadError

/-- The value of a type that a text in a format holds. -/
def Shaped.read? (α : Type) [Shaped α] (format : Format) (text : String) : Except LoadError α :=
  match readShape format (Shaped.shape α) text with
  | .ok content => .ok (Shaped.ofContent content)
  | .error fault => .error (.text format fault)

/-- The JSON text of a value, without any blanks. -/
def Shaped.jsonText {α : Type} [Shaped α] (value : α) : String :=
  ((Shaped.shape α).toJson (Shaped.toContent value)).compact

namespace Query

/-- The query of a text, built clause by clause. -/
def load? (format : Format) (text : String) : Except LoadError Query :=
  match Shaped.read? Query format text with
  | .error error => .error error
  | .ok query =>
    match query.replay? with
    | .ok built => .ok built
    | .error fault => .error (.sequence fault)

/-- What loading a text reports: a query that is read reports its steps. -/
def loadEvents (format : Format) (text : String) : List Event :=
  match Shaped.read? Query format text with
  | .error _ => []
  | .ok query => query.replayEvents

end Query

/-- The settings of a text. -/
def Settings.load? (text : String) : Except LoadError Settings :=
  Shaped.read? Settings .toml text

end CompactQuery
