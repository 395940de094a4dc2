import CompactQuery.Decimal.Binary64

/-!
# Shortest decimals — the fewest digits that read back, and two ways to lay them out

The reals that round to a magnitude form an interval. Its text is the shortest decimal in that
interval, and of several equally short ones the nearest to the magnitude. Two can be equally near;
a layout says which of them it takes.

* **`Shortest.Tie`** — the ways to choose between two that are equally near.
* **`Shortest.ofBinary64`** — the digits and the place of the point.
* **`Decimal.positional`** — all digits around the point, zeros filled in; never an exponent.
* **`Decimal.scientific`** — the same while the leading digit is worth at least `10^-5` and less
  than `10^16`, else one digit before the point and a signed exponent.
-/

namespace CompactQuery

/-- The decimal `0.d₁d₂… · 10^point`, the first digit not zero. -/
structure Decimal where
  /-- The digits, most significant first; none stand for zero. -/
  digits : List Char
  /-- How far to the right of the first digit's left side the point stands. -/
  point : Int
deriving Repr, DecidableEq

/-! ## Which digits -/

namespace Shortest

/-- Which of two neighbours on a grid is taken if both are equally near. -/
inductive Tie where
  /-- The one with the even last digit. -/
  | toEven
  /-- The greater one. -/
  | up
deriving Repr, DecidableEq

/-- Whether the greater neighbour of a point in the middle is taken, given the lesser one. -/
def Tie.takesGreater (tie : Tie) (lesser : Nat) : Bool :=
  match tie with
  | .toEven => lesser % 2 = 1
  | .up => true

/-- A positive magnitude with the ends of its rounding interval, all over one denominator. -/
structure Interval where
  low : Nat
  mid : Nat
  high : Nat
  den : Nat
  /-- Whether the ends belong to it. -/
  closed : Bool

/-- The interval of the reals that round to a positive magnitude. The gap below a power of two is
half the gap above it. -/
def Interval.of (x : Binary64) : Interval :=
  let m := x.mantissa
  let below := if m = Nat.pow 2 52 ∧ -1074 < x.exponent then 1 else 2
  let unit := (Binary64.mk 1 (x.exponent - 2)).toRatio
  { low := (4 * m - below) * unit.1, mid := 4 * m * unit.1, high := (4 * m + 2) * unit.1,
    den := unit.2, closed := m % 2 = 0 }

/-- Whether a quotient lies in the interval. -/
def Interval.contains (i : Interval) (num den : Nat) : Bool :=
  let at_low := i.low * den
  let at_high := i.high * den
  let here := num * i.den
  if i.closed then at_low ≤ here && here ≤ at_high else at_low < here && here < at_high

/-- The least power of ten above a positive quotient, searched for from a given one upwards. -/
def leastAbove (num den : Nat) : Nat → Int → Int
  | 0, k => k
  | tries + 1, k =>
    let power := Nat.pow 10 k.natAbs
    let (n, d) := if k < 0 then (num * power, den) else (num, den * power)
    if n < d then k else leastAbove num den tries (k + 1)

/-- The point of a positive quotient: the least `k` with the quotient below `10^k`. The binary
logarithm gives it but for a few steps. -/
def pointOf (num den : Nat) : Int :=
  let bits : Int := (num.log2 : Int) - den.log2 - 1
  leastAbove num den 6 (bits * 30103 / 100000 - 1)

/-- The multiple of `10^(point - places)` nearest to the middle of the interval among those that
lie in it, if one of the two next to the middle does. -/
def onGrid (tie : Tie) (i : Interval) (point : Int) (places : Nat) : Option Nat :=
  let e := point - places
  let power := Nat.pow 10 e.natAbs
  let (up, down) := if e < 0 then (power, 1) else (1, power)
  let floor := i.mid * up / (i.den * down)
  let lowFits := i.contains (floor * down) up
  let highFits := i.contains ((floor + 1) * down) up
  let halfway := (2 * floor + 1) * (i.den * down)
  let twice := 2 * (i.mid * up)
  let takesHigh := halfway < twice || (halfway = twice && tie.takesGreater floor)
  if lowFits && highFits then some (if takesHigh then floor + 1 else floor)
  else if lowFits then some floor
  else if highFits then some (floor + 1)
  else none

/-- The first grid with a hit, from the given number of places on, and the number of places. -/
def search (tie : Tie) (i : Interval) (point : Int) : Nat → Nat → Option (Nat × Nat)
  | 0, _ => none
  | tries + 1, places =>
    match onGrid tie i point places with
    | some digits => some (digits, places)
    | none => search tie i point tries (places + 1)

/-- The digits of a natural number without the zeros at its end. -/
def trimmed (n : Nat) : List Char := ((Nat.toDigits 10 n).reverse.dropWhile (· = '0')).reverse

/-- The shortest decimal of a magnitude. -/
def ofBinary64 (tie : Tie) (x : Binary64) : Decimal :=
  if x.mantissa = 0 then ⟨[], 0⟩
  else
    let i := Interval.of x
    let point := pointOf i.mid i.den
    match search tie i point 17 1 with
    | none => ⟨[], 0⟩
    | some (digits, places) =>
      ⟨trimmed digits, point - places + (Nat.toDigits 10 digits).length⟩

end Shortest

/-! ## How they are laid out -/

namespace Decimal

/-- All digits around the point, with one place after it at least. -/
def positional (d : Decimal) : List Char :=
  match d.digits with
  | [] => ['0', '.', '0']
  | digits =>
    if d.point ≤ 0 then ['0', '.'] ++ List.replicate d.point.natAbs '0' ++ digits
    else
      let whole := d.point.natAbs
      if digits.length ≤ whole then
        digits ++ List.replicate (whole - digits.length) '0' ++ ['.', '0']
      else digits.take whole ++ ['.'] ++ digits.drop whole

/-- Positional from `10^-5` to below `10^16`, else one digit before the point and an exponent with
its sign. -/
def scientific (d : Decimal) : List Char :=
  let exponent := d.point - 1
  if d.digits = [] ∨ (-5 ≤ exponent ∧ exponent ≤ 15) then d.positional
  else
    let sign := if exponent < 0 then '-' else '+'
    let fraction := if d.digits.length ≤ 1 then [] else '.' :: d.digits.drop 1
    d.digits.take 1 ++ fraction ++ ['e', sign] ++ Nat.toDigits 10 exponent.natAbs

end Decimal

end CompactQuery
