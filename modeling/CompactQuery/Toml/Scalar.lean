import CompactQuery.Decimal.Shortest
import CompactQuery.Toml.Text
import CompactQuery.Tree.Basic

/-!
# Numbers, dates and times in TOML

* **`moment`** — a date, a time, or both with or without an offset. Only its form counts: the days
  of a month, the hours of a day and so on.
* **`float`** — a number with a point or an exponent, an infinity or no number at all.
* **`integer`** — an integer in one of four bases that fits into 64 bits with a sign.
* **`scalar`** — whichever of them the text starts with.
-/

namespace CompactQuery.Toml

/-! ## Dates and times -/

/-- The value of exactly so many decimal digits. -/
def fixedDigits (count : Nat) (text : List Char) : Option (Nat × List Char) :=
  let digits := text.take count
  if digits.length = count ∧ digits.all Char.isDigit then
    some (Digit.number 10 digits, text.drop count)
  else none

/-- What follows a given mark. -/
def mark (c : Char) : List Char → Option (List Char)
  | d :: rest => if c = d then some rest else none
  | [] => none

/-- The days of a month. -/
def daysIn (year month : Nat) : Nat :=
  if month = 2 then
    if year % 4 = 0 ∧ (year % 100 ≠ 0 ∨ year % 400 = 0) then 29 else 28
  else if month = 4 ∨ month = 6 ∨ month = 9 ∨ month = 11 then 30
  else 31

/-- What follows a date. -/
def date (text : List Char) : Option (List Char) := do
  let (year, rest) ← fixedDigits 4 text
  let (month, rest) ← fixedDigits 2 (← mark '-' rest)
  let (day, rest) ← fixedDigits 2 (← mark '-' rest)
  if 1 ≤ month ∧ month ≤ 12 ∧ 1 ≤ day ∧ day ≤ daysIn year month then some rest else none

/-- What follows an hour and a minute. -/
def hourMinute (text : List Char) : Option (List Char) := do
  let (hour, rest) ← fixedDigits 2 text
  let (minute, rest) ← fixedDigits 2 (← mark ':' rest)
  if hour ≤ 23 ∧ minute ≤ 59 then some rest else none

/-- What follows the fraction of a second, if there is one. -/
def fraction : List Char → List Char
  | '.' :: d :: rest => if d.isDigit then rest.dropWhile Char.isDigit else '.' :: d :: rest
  | rest => rest

/-- What follows a time. The sixtieth second is a leap second. -/
def time (text : List Char) : Option (List Char) := do
  let (second, rest) ← fixedDigits 2 (← mark ':' (← hourMinute text))
  if second ≤ 60 then some (fraction rest) else none

/-- What follows an offset from universal time, if there is one. -/
def offset : List Char → Option (List Char)
  | c :: rest =>
    if c = 'Z' ∨ c = 'z' then some rest
    else if c = '+' ∨ c = '-' then hourMinute rest
    else some (c :: rest)
  | [] => some []

/-- What follows a time and its offset behind a date, if they are there. -/
def dayTime (text : List Char) : Option (List Char) :=
  match text with
  | c :: rest =>
    if c = 'T' ∨ c = 't' ∨ c = ' ' then
      match time rest with
      | some rest => offset rest
      | none => some text
    else some text
  | [] => some text

/-- A date, a time, or both. -/
def moment (text : List Char) : Option (Tree × List Char) :=
  match date text with
  | some rest => (dayTime rest).map fun rest => (.moment, rest)
  | none => (time text).map fun rest => (.moment, rest)

/-! ## Numbers -/

/-- Digits at the start of a text; an underscore may stand between two of them. -/
def digits (isDigit : Char → Bool) : List Char → List Char × List Char
  | '_' :: d :: rest =>
    if isDigit d then
      let (more, rest) := digits isDigit rest
      (d :: more, rest)
    else ([], '_' :: d :: rest)
  | d :: rest =>
    if isDigit d then
      let (more, rest) := digits isDigit rest
      (d :: more, rest)
    else ([], d :: rest)
  | [] => ([], [])

/-- One or more digits, the first of them not after an underscore. -/
def someDigits (isDigit : Char → Bool) : List Char → Option (List Char × List Char)
  | [] => none
  | d :: rest =>
    if isDigit d then
      let (more, rest) := digits isDigit rest
      some (d :: more, rest)
    else none

/-- The sign of a number, and what follows it. -/
def sign : List Char → Bool × List Char
  | '-' :: rest => (true, rest)
  | '+' :: rest => (false, rest)
  | rest => (false, rest)

/-- The digits of an integer: a zero, or digits that do not start with one. -/
def wholeDigits : List Char → Option (List Char × List Char)
  | '0' :: rest => some (['0'], rest)
  | text => someDigits Char.isDigit text

/-- The exponent of a number. -/
def exponent : List Char → Option (Int × List Char)
  | e :: rest =>
    if e = 'e' ∨ e = 'E' then do
      let (minus, rest) := sign rest
      let (digits, rest) ← someDigits Char.isDigit rest
      let n : Int := Digit.number 10 digits
      some (if minus then -n else n, rest)
    else none
  | [] => none

/-- The digits after the point, and the exponent: at least one of the two. -/
def tail (text : List Char) : Option ((List Char × Int) × List Char) :=
  match text with
  | '.' :: rest => do
    let (digits, rest) ← someDigits Char.isDigit rest
    match exponent rest with
    | some (e, rest) => some ((digits, e), rest)
    | none => some ((digits, 0), rest)
  | text => do
    let (e, rest) ← exponent text
    some (([], e), rest)

/-- A float as messages show it, of two equally near decimals the greater. A number that is too
large for a double is an infinity, which only the one below zero may be. -/
def showFloat (minus : Bool) (whole fraction : List Char) (exponent : Int) : Option String :=
  let digits := Digit.number 10 (whole ++ fraction)
  match Binary64.ofDecimal? digits (exponent - fraction.length) with
  | some x =>
    let shown := String.ofList (Shortest.ofBinary64 .up x).positional
    some (if minus then "-" ++ shown else shown)
  | none => if minus then some "-inf" else none

/-- A number with a point or an exponent. -/
def pointFloat (text : List Char) : Option (Tree × List Char) := do
  let (minus, rest) := sign text
  let (whole, rest) ← wholeDigits rest
  let ((fraction, exponent), rest) ← tail rest
  let shown ← showFloat minus whole fraction exponent
  some (.number (.ok (.float shown)), rest)

/-- An infinity, or no number. -/
def namedFloat (text : List Char) : Option (Tree × List Char) :=
  match sign text with
  | (minus, 'i' :: 'n' :: 'f' :: rest) =>
    some (.number (.ok (.float (if minus then "-inf" else "inf"))), rest)
  | (_, 'n' :: 'a' :: 'n' :: rest) => some (.number (.ok (.float "NaN")), rest)
  | _ => none

/-- An integer, if it fits into 64 bits with a sign. -/
def ofInteger (minus : Bool) (n : Nat) : Option Tree :=
  if minus ∧ 0 < n then
    if n ≤ Nat.pow 2 63 then some (.number (.ok (.negative (-(n : Int))))) else none
  else if n < Nat.pow 2 63 then some (.number (.ok (.natural (UInt64.ofNat n)))) else none

/-- An integer in the given base, from its digits on. -/
def basedInteger (base : Nat) (text : List Char) : Option (Tree × List Char) := do
  let isDigit := fun c => (Digit.value? c).any (· < base)
  let (digits, rest) ← someDigits isDigit text
  some (← ofInteger false (Digit.number base digits), rest)

/-- An integer. Only the decimal ones have a sign. -/
def integer : List Char → Option (Tree × List Char)
  | '0' :: 'x' :: rest => basedInteger 16 rest
  | '0' :: 'o' :: rest => basedInteger 8 rest
  | '0' :: 'b' :: rest => basedInteger 2 rest
  | text => do
    let (minus, rest) := sign text
    let (digits, rest) ← wholeDigits rest
    some (← ofInteger minus (Digit.number 10 digits), rest)

/-- A truth value. -/
def flag : List Char → Option (Tree × List Char)
  | 't' :: 'r' :: 'u' :: 'e' :: rest => some (.flag true, rest)
  | 'f' :: 'a' :: 'l' :: 's' :: 'e' :: rest => some (.flag false, rest)
  | _ => none

/-- Any value that is neither a text nor a container. -/
def scalar (text : List Char) : Option (Tree × List Char) :=
  (((flag text).or (moment text)).or ((pointFloat text).or (namedFloat text))).or (integer text)

end CompactQuery.Toml
