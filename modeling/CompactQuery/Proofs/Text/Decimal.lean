import CompactQuery.Text.Digit
import Mathlib.Data.List.Induction

/-!
# Decimal — numbers and the digits they are written in

A number is written in decimal digits, at least one and none a leading zero. Such digits and numbers
are the same thing: writing and reading are inverse to each other in both directions, at any length.

* **`Canonical`** — digits as a number is written; **`canonical_toDigits`** — so they are.
* **`number_toDigits`** — a written number reads back.
* **`toDigits_number`** — canonical digits are written again as they were read. Induction on the
  digits from their end: all but the last are canonical and not zero, or there is only one.
* **`DigitText`** — canonical digits as a text, which is the text of their number.
-/

namespace CompactQuery

/-- At least one digit, and no zero in front of others. -/
structure Canonical (digits : List Char) : Prop where
  digit : ∀ c ∈ digits, c.isDigit
  ne_nil : digits ≠ []
  head : digits.head? = some '0' → digits = ['0']

namespace Digit

/-! ## One digit -/

theorem isDigit_iff {c : Char} : c.isDigit ↔ 48 ≤ c.toNat ∧ c.toNat ≤ 57 := by
  simp only [Char.isDigit, Bool.and_eq_true, decide_eq_true_eq]
  exact Iff.rfl

theorem value?_of_isDigit {c : Char} (h : c.isDigit) : value? c = some (c.toNat - 48) := by
  have hrange : '0' ≤ c ∧ c ≤ '9' := isDigit_iff.mp h
  rw [value?, if_pos hrange]

/-- A digit is written for its value. -/
theorem toDigits_of_isDigit {c : Char} (h : c.isDigit) : Nat.toDigits 10 (c.toNat - 48) = [c] := by
  obtain ⟨hlow, hhigh⟩ := isDigit_iff.mp h
  have hchar : Nat.digitChar (c.toNat - 48) = c := by
    rw [← Char.toNat_inj, Nat.toNat_digitChar_of_lt_ten (by omega)]
    omega
  rw [Nat.toDigits_of_lt_base (by omega), hchar]

/-! ## Reading digits -/

/-- The number of decimal digits is the one that the library reads. -/
theorem number_eq_ofDigitChars {digits : List Char} (h : ∀ c ∈ digits, c.isDigit) :
    number 10 digits = Nat.ofDigitChars 10 digits 0 := by
  have hfold : ∀ n, digits.foldl (extend 10) n = Nat.ofDigitChars 10 digits n := by
    induction digits with
    | nil => intro n; rfl
    | cons c digits ih =>
        intro n
        rw [List.foldl_cons, Nat.ofDigitChars_cons, extend, value?_of_isDigit (h c (by simp)),
          ih fun d hd => h d (List.mem_cons_of_mem _ hd)]
        rfl
  exact hfold 0

theorem number_append_singleton (digits : List Char) {c : Char} (h : c.isDigit) :
    number 10 (digits ++ [c]) = 10 * number 10 digits + (c.toNat - 48) := by
  rw [number, List.foldl_append, List.foldl_cons, List.foldl_nil, extend, value?_of_isDigit h]
  rfl

/-! ## Writing and reading -/

theorem isDigit_of_mem_toDigits {n : Nat} {c : Char} (h : c ∈ Nat.toDigits 10 n) : c.isDigit :=
  Nat.isDigit_of_mem_toDigits (by decide) (by decide) h

/-- A written number reads back. -/
theorem number_toDigits (n : Nat) : number 10 (Nat.toDigits 10 n) = n := by
  rw [number_eq_ofDigitChars fun c => isDigit_of_mem_toDigits, Nat.ofDigitChars_ten_toDigits]

theorem toDigits_ne_nil (n : Nat) : Nat.toDigits 10 n ≠ [] :=
  List.ne_nil_of_length_pos Nat.length_toDigits_pos

/-- A number above zero is written without a leading zero. -/
theorem head?_toDigits_ne_zero {n : Nat} (h : 0 < n) : (Nat.toDigits 10 n).head? ≠ some '0' := by
  induction n using Nat.strongRecOn with
  | ind n ih =>
      rw [Nat.toDigits_eq_if (by decide)]
      by_cases hn : n < 10
      · have hall : ∀ n < 10, 0 < n → Nat.digitChar n ≠ '0' := by decide
        rw [if_pos hn]
        simpa using hall n hn h
      · -- the digits before the last one come first
        have hfront := ih (n / 10) (by omega) (by omega)
        obtain ⟨d, rest, hd⟩ := List.exists_cons_of_ne_nil (toDigits_ne_nil (n / 10))
        rw [if_neg hn, hd]
        rwa [hd] at hfront

theorem canonical_toDigits (n : Nat) : Canonical (Nat.toDigits 10 n) := by
  refine ⟨fun c => isDigit_of_mem_toDigits, toDigits_ne_nil n, fun hzero => ?_⟩
  rcases Nat.eq_zero_or_pos n with rfl | hpos
  · rfl
  · exact absurd hzero (head?_toDigits_ne_zero hpos)

/-- **Canonical digits are written again as they were read.** -/
theorem toDigits_number {digits : List Char} (h : Canonical digits) :
    Nat.toDigits 10 (number 10 digits) = digits := by
  induction digits using List.reverseRecOn with
  | nil => exact absurd rfl h.ne_nil
  | append_singleton digits c ih =>
      have hc : c.isDigit := h.digit c (by simp)
      obtain ⟨hlow, hhigh⟩ := isDigit_iff.mp hc
      rw [number_append_singleton _ hc]
      by_cases hnil : digits = []
      · rw [hnil, show number 10 [] = 0 from rfl, Nat.mul_zero, Nat.zero_add,
          toDigits_of_isDigit hc]
        rfl
      · -- a zero in front would have to stand alone
        have hhead : digits.head? ≠ some '0' := by
          intro hzero
          have hall := h.head (by rw [List.head?_append, hzero, Option.some_or])
          exact hnil (by simpa using congrArg List.length hall)
        have hfront : Nat.toDigits 10 (number 10 digits) = digits :=
          ih ⟨fun d hd => h.digit d (List.mem_append_left _ hd), hnil, fun hz => absurd hz hhead⟩
        have hpos : 0 < number 10 digits := by
          rw [Nat.pos_iff_ne_zero]
          intro hzero
          rw [hzero] at hfront
          exact hhead (by rw [← hfront]; rfl)
        rw [← Nat.toDigits_append_toDigits (by decide) hpos (by omega), hfront,
          toDigits_of_isDigit hc]

end Digit

/-! ## Digits as a text -/

/-- A number of any size as a text of decimal digits. -/
structure DigitText where
  text : String
  canonical : Canonical text.toList

namespace DigitText

/-- The number that the digits stand for. -/
def number (digits : DigitText) : Nat := Digit.number 10 digits.text.toList

theorem repr_number (digits : DigitText) : Nat.repr digits.number = digits.text := by
  rw [Nat.repr, number, Digit.toDigits_number digits.canonical, String.ofList_toList]

/-- Only the digit zero stands for zero. -/
theorem number_eq_zero_iff {digits : DigitText} : digits.number = 0 ↔ digits.text = "0" := by
  constructor
  · intro hzero
    rw [← digits.repr_number, hzero]
    rfl
  · intro hzero
    rw [number, hzero]
    rfl

end DigitText

end CompactQuery
