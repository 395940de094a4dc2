import CompactQuery.Loading

/-!
# Outcomes of loading

A query is loaded in two steps, and a text fails either because it does not hold the description of
a query or because the filter that it describes breaks the rule on connectors.

* **`Shaped.read?_eq_ok_iff`**, **`Shaped.read?_eq_error_iff`** — the first step.
* **`Query.load?_eq_ok_iff`**, **`Query.load?_of_read?_ok`**, **`Query.load?_of_read?_error`** —
  both steps.
-/

namespace CompactQuery

section

variable {α : Type} [Shaped α] {format : Format} {text : String}

theorem Shaped.read?_eq_ok_iff {a : α} :
    Shaped.read? α format text = .ok a ↔
      ∃ content, readShape format (Shaped.shape α) text = .ok content ∧
        Shaped.ofContent content = a := by
  unfold Shaped.read?
  cases readShape format (Shaped.shape α) text <;> simp

theorem Shaped.read?_eq_error_iff {error : LoadError} :
    Shaped.read? α format text = .error error ↔
      ∃ fault, readShape format (Shaped.shape α) text = .error fault ∧
        error = .text format fault := by
  unfold Shaped.read?
  cases readShape format (Shaped.shape α) text <;> simp [eq_comm]

end

namespace Query

variable {format : Format} {text : String}

theorem load?_eq_ok_iff {built : Query} :
    load? format text = .ok built ↔
      ∃ described, Shaped.read? Query format text = .ok described ∧
        described.replay? = .ok built := by
  unfold load?
  cases Shaped.read? Query format text with
  | error error => simp
  | ok described => cases hreplay : described.replay? <;> simp [hreplay]

theorem load?_of_read?_ok {described : Query} (h : Shaped.read? Query format text = .ok described) :
    load? format text = described.replay?.mapError .sequence := by
  simp only [load?, h]
  cases described.replay? <;> rfl

theorem load?_of_read?_error {error : LoadError}
    (h : Shaped.read? Query format text = .error error) : load? format text = .error error := by
  rw [load?, h]

end Query

end CompactQuery
