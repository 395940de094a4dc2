import CompactQuery.Schema.Reading

/-!
# Computations that can fail — what each outcome says about the steps

* **`Except.bind_eq_ok`**, **`Except.bind_eq_error`** — one step behind another.
* **`Except.map_eq_ok`**, **`Except.mapError_eq_ok`**, **`Except.mapError_eq_error`** — a change to
  what comes out.
* **`Fault.lift_eq_ok`**, **`Fault.ofEnding_eq_ok`** — a step of a reader within one of a value.
-/

namespace CompactQuery

section

variable {ε ε' α β : Type}

theorem Except.bind_eq_ok {x : Except ε α} {f : α → Except ε β} {b : β} :
    (x >>= f) = .ok b ↔ ∃ a, x = .ok a ∧ f a = .ok b := by
  cases x <;> simp [bind, Except.bind]

theorem Except.bind_eq_error {x : Except ε α} {f : α → Except ε β} {e : ε} :
    (x >>= f) = .error e ↔ x = .error e ∨ ∃ a, x = .ok a ∧ f a = .error e := by
  cases x <;> simp [bind, Except.bind]

theorem Except.map_eq_ok {x : Except ε α} {f : α → β} {b : β} :
    x.map f = .ok b ↔ ∃ a, x = .ok a ∧ f a = b := by
  cases x <;> simp [Except.map]

theorem Except.mapError_eq_ok {x : Except ε α} {f : ε → ε'} {a : α} :
    x.mapError f = .ok a ↔ x = .ok a := by
  cases x with
  | error cause => constructor <;> rintro ⟨⟩
  | ok a' =>
      constructor
      · rintro ⟨⟩
        rfl
      · rintro ⟨⟩
        rfl

theorem Except.mapError_eq_error {x : Except ε α} {f : ε → ε'} {e : ε'} :
    x.mapError f = .error e ↔ ∃ cause, x = .error cause ∧ f cause = e := by
  cases x with
  | error cause =>
      constructor
      · rintro ⟨⟩
        exact ⟨cause, rfl, rfl⟩
      · rintro ⟨_, ⟨⟩, rfl⟩
        rfl
  | ok a =>
      constructor
      · rintro ⟨⟩
      · rintro ⟨_, ⟨⟩, _⟩

end

theorem Fault.lift_eq_ok {α : Type} {x : Except Defect α} {a : α} :
    Fault.lift x = .ok a ↔ x = .ok a := by
  cases x <;> simp [Fault.lift]

theorem Fault.ofEnding_eq_ok {ending : Option Defect} {u : Unit} :
    Fault.ofEnding ending = .ok u ↔ ending = none := by
  cases ending <;> simp [Fault.ofEnding]

end CompactQuery
