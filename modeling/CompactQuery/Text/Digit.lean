/-!
# Digits — characters as numbers and back

* **`Digit.value?`** — the value of a digit in a base up to sixteen, in either case.
* **`Digit.lower`**, **`Digit.upper`** — the hexadecimal digit of a number.
* **`Digit.number`** — the number that digits stand for.
-/

namespace CompactQuery.Digit

/-- The value of a hexadecimal digit of either case. -/
def value? (c : Char) : Option Nat :=
  if '0' ≤ c ∧ c ≤ '9' then some (c.toNat - 48)
  else if 'A' ≤ c ∧ c ≤ 'F' then some (c.toNat - 55)
  else if 'a' ≤ c ∧ c ≤ 'f' then some (c.toNat - 87)
  else none

/-- The lower-case hexadecimal digit of a number below sixteen. -/
def lower (n : Nat) : Char := Char.ofNat (if n < 10 then 48 + n else 87 + n)

/-- The upper-case hexadecimal digit of a number below sixteen. -/
def upper (n : Nat) : Char := Char.ofNat (if n < 10 then 48 + n else 55 + n)

/-- The number that one more digit makes of a number. -/
def extend (base n : Nat) (c : Char) : Nat := base * n + (value? c).getD 0

/-- The number that digits in a base stand for. -/
def number (base : Nat) (digits : List Char) : Nat := digits.foldl (extend base) 0

/-- A written digit reads back. -/
theorem value?_upper : ∀ n < 16, value? (upper n) = some n := by decide

end CompactQuery.Digit
