/-!
# Settings — what a settings file can say about the output

* **`OutputForm`** — the bare text or a JSON object.
* **`OutputSettings`** — the form, and whether the text is percent-encoded by default.
* **`Settings`** — everything a settings file holds. Whatever it leaves out has its default.
-/

namespace CompactQuery

/-- How a result is written. -/
inductive OutputForm where
  /-- The text itself, on a line of its own. -/
  | plain
  /-- A JSON object that also says whether the text is encoded. -/
  | json
deriving Repr, DecidableEq

/-- The word for a form, in files and on the command line. -/
def OutputForm.word : OutputForm → String
  | .plain => "plain"
  | .json => "json"

/-- The form that a word stands for. -/
def OutputForm.ofWord? (word : String) : Option OutputForm :=
  if word = "plain" then some .plain else if word = "json" then some .json else none

/-- The settings for the output. -/
structure OutputSettings where
  /-- Whether results are percent-encoded even if the command line does not ask for it. -/
  urlSafe : Bool := false
  /-- The form of results if the command line does not name one. -/
  form : OutputForm := .plain
deriving Repr, DecidableEq

/-- The content of a settings file. -/
structure Settings where
  output : OutputSettings := {}
deriving Repr, DecidableEq

end CompactQuery
