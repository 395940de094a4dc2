import CompactQuery.Command.Program
import CompactQuery.Proofs.Command.Accepted
import CompactQuery.Proofs.Json.Document

/-!
# Printed — what a build prints of a query

A build prints a compact form on a line of its own, or as a member of an object. What an object is,
and what it holds, is a matter for a reader of JSON, and not of how the program lays one out.

* **`Shows`** — the output shows a text, bare or in an object; **`shows_resultText`** — the program
  prints one that does.
* **`Line.Prints`** — the output shows what the line wants of a query, and what it leaves open is
  what the settings say; **`Line.Asks.exists_build`** — and that is what a build for it prints.
-/

namespace CompactQuery.Command

/-- The output shows a text: bare and with a line feed behind it, or in an object that holds just the
text and whether it is encoded, with a line feed behind the brace. -/
def Shows (form : OutputForm) (encoded : Bool) (text output : String) : Prop :=
  match form with
  | .plain => output = text ++ "\n"
  | .json => ∃ object, output = object ++ "\n" ∧ object.toList.getLast? = some '\x7d' ∧
      Json.Document.ofText object =
        ⟨.object [(.name (.ok "shortsql"), .text (.ok text)),
          (.name (.ok "url_safe"), .flag encoded)] none, false⟩

theorem getLast?_prettyObject (members : List (String × Json.Value)) :
    (Json.prettyObject members).toList.getLast? = some '\x7d' := by
  rw [Json.prettyObject, String.toList_ofList, List.getLast?_append]
  rfl

theorem shows_resultText (form : OutputForm) (encoded : Bool) (text : String) :
    Shows form encoded text (resultText form encoded text) := by
  cases form with
  | plain => rfl
  | json =>
      refine ⟨_, rfl, getLast?_prettyObject _, ?_⟩
      rw [Json.Document.ofText_of_spells (Json.spells_prettyObject _ _), Json.Value.tree_source]
      rfl

/-- The source of the description that the line names. -/
def Line.source (line : Line) : Source := .ofOperand (line.operand?.map Path.mk)

/-- The output shows the query in the form that the line names and encoded if it says so; where it
leaves that open it is for the settings to say. -/
def Line.Prints (line : Line) (settings : Settings) (query : Query) (output : String) : Prop :=
  ∃ form encoded, form.word = line.form?.getD settings.output.form.word ∧
    (encoded = true ↔ line.UrlSafe ∨ settings.output.urlSafe = true) ∧
    Shows form encoded (query.render encoded) output

/-- **A line that asks for a build asks for what it is to print.** -/
theorem Line.Asks.exists_build {line : Line} {standIn : Option String} {invocation : Invocation}
    (h : line.Asks standIn invocation) (haction : line.action = .build) :
    ∃ urlSafe form, invocation.request = .build (line.operand?.map Path.mk) urlSafe form ∧
      ∀ settings query, line.Prints settings query
        (resultText (form.getD settings.output.form) (urlSafe || settings.output.urlSafe)
          (query.render (urlSafe || settings.output.urlSafe))) := by
  have hasks := h.request
  rw [haction] at hasks
  obtain ⟨urlSafe, form, hrequest, hsafe, hword⟩ := hasks
  refine ⟨urlSafe, form, hrequest, fun settings query => ⟨_, _, ?_, ?_, shows_resultText _ _ _⟩⟩
  · rw [← hword]
    cases form <;> rfl
  · rw [Bool.or_eq_true, hsafe]

end CompactQuery.Command
