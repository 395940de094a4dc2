/-!
# Binary64 — the magnitudes a double can hold, in exact arithmetic

A finite magnitude is a natural number times a power of two. The arithmetic here is exact on
quotients of naturals and rounds once, at the end, to the nearest magnitude that fits into 53 bits
with an exponent of at least -1074; of two equally near ones the one with the even mantissa wins.

* **`ofRatio?`** — the nearest magnitude of a quotient, or `none` past the largest one.
* **`mul?`**, **`div?`** — rounded product and quotient, from the exact ones.
* **`ofDecimal?`** — the nearest magnitude of `digits · 10^exponent`.
* **`ofScaled?`** — the same by repeated rounded steps, one power of ten at a time, for readers
  that scale their digits with floating-point operations.
-/

namespace CompactQuery

/-- The magnitude `mantissa · 2^exponent`. -/
structure Binary64 where
  /-- The bits, at most 53 of them. -/
  mantissa : Nat
  /-- The power of two, at least -1074. -/
  exponent : Int
deriving Repr, DecidableEq

namespace Binary64

/-- Nothing. -/
def zero : Binary64 := ⟨0, -1074⟩

/-- A quotient as an exact numerator and denominator, scaled by `2^exponent`. -/
def scaleRatio (num den : Nat) (exponent : Int) : Nat × Nat :=
  let power := Nat.pow 2 exponent.natAbs
  if exponent < 0 then (num * power, den) else (num, den * power)

/-- The magnitude as an exact quotient. -/
def toRatio (x : Binary64) : Nat × Nat :=
  if x.exponent < 0 then (x.mantissa, Nat.pow 2 x.exponent.natAbs)
  else (x.mantissa * Nat.pow 2 x.exponent.natAbs, 1)

/-- The natural number nearest to a quotient; a half goes to the even neighbour. -/
def roundEven (num den : Nat) : Nat :=
  let q := num / den
  let twice := 2 * (num % den)
  if twice < den then q else if den < twice then q + 1 else q + q % 2

/-- The exponent at which a positive quotient has 53 bits before the point, or the least one. -/
def unitExponent (num den : Nat) : Int :=
  let low : Int := max (-1074) ((num.log2 : Int) - den.log2 - 53)
  let (n, d) := scaleRatio num den low
  if d * Nat.pow 2 53 ≤ n then low + 1 else low

/-- The nearest magnitude of a quotient, or `none` if that is past the largest one. -/
def ofRatio? (num den : Nat) : Option Binary64 :=
  if num = 0 then some zero
  else
    let exponent := unitExponent num den
    let (n, d) := scaleRatio num den exponent
    let mantissa := roundEven n d
    let (mantissa, exponent) :=
      if mantissa = Nat.pow 2 53 then (Nat.pow 2 52, exponent + 1) else (mantissa, exponent)
    if 971 < exponent then none else some ⟨mantissa, exponent⟩

/-- The rounded product. -/
def mul? (x y : Binary64) : Option Binary64 :=
  ofRatio? (x.toRatio.1 * y.toRatio.1) (x.toRatio.2 * y.toRatio.2)

/-- The rounded quotient. -/
def div? (x y : Binary64) : Option Binary64 :=
  ofRatio? (x.toRatio.1 * y.toRatio.2) (x.toRatio.2 * y.toRatio.1)

/-- The nearest magnitude of `digits · 10^exponent`. Exponents far outside the range of a double are
decided without computing the power: ten is more than two to the third, so that many places down
leave less than half of the least magnitude. -/
def ofDecimal? (digits : Nat) (exponent : Int) : Option Binary64 :=
  if digits = 0 then some zero
  else if exponent < 0 then
    if digits.log2 + 1081 < 3 * exponent.natAbs then some zero
    else ofRatio? digits (Nat.pow 10 exponent.natAbs)
  else if 310 < exponent then none
  else ofRatio? (digits * Nat.pow 10 exponent.natAbs) 1

/-- The magnitude `x · 10^exponent`, scaled by at most 308 places at a time and rounded after each
step. A nonzero magnitude that is still to be scaled up by more than 308 places is too large. -/
def scaleTen? (x : Binary64) (exponent : Int) : Option Binary64 :=
  if exponent.natAbs ≤ 308 then do
    let power ← ofDecimal? 1 exponent.natAbs
    if 0 ≤ exponent then x.mul? power else x.div? power
  else if x.mantissa = 0 then some x
  else if 0 ≤ exponent then none
  else do
    let power ← ofDecimal? 1 308
    let y ← x.div? power
    scaleTen? y (exponent + 308)
termination_by exponent.natAbs

/-- The magnitude a reader arrives at that first takes the digits as a double and then scales it by
powers of ten. -/
def ofScaled? (digits : Nat) (exponent : Int) : Option Binary64 := do
  scaleTen? (← ofRatio? digits 1) exponent

end Binary64

end CompactQuery
