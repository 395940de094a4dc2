import CompactQuery.Decimal.Shortest
import CompactQuery.Text.Digit
import CompactQuery.Tree.Basic

/-!
# Texts and numbers in JSON

The two kinds of JSON literal that take some reading. Each can be well formed for a reader, for a
skipper, for both or for neither:

* **`readText`** — the characters of a text, its escapes spelled out. A surrogate escape must be
  half of a pair.
* **`skipText`** — the end of a text. Four hexadecimal digits are enough after `\u`.
* **`Numeral.scan`** — the digits of a number; **`Numeral.number?`** — the number they stand for.
  A reader takes no number that a double cannot hold.

An escape `\u` with fewer than four octets of text behind it means that the text ends too early;
with at least four that are not all digits, it breaks the grammar.
-/

namespace CompactQuery.Json

/-! ## Texts -/

/-- The value of four hexadecimal digits. -/
def unit? (a b c d : Char) : Option Nat := do
  let values ← [a, b, c, d].mapM Digit.value?
  pure (values.foldl (fun n v => 16 * n + v) 0)

/-- How many octets characters take in UTF-8. -/
def octetCount (chars : List Char) : Nat := chars.foldl (fun n c => n + c.utf8Size) 0

/-- The defect of an escape that has no four characters behind it. -/
def shortEscape (rest : List Char) : Defect :=
  if 4 ≤ octetCount rest then .malformed else .unfinished

/-- The character that a one-letter escape stands for. -/
def escaped? : Char → Option Char
  | '"' => some '"'
  | '\\' => some '\\'
  | '/' => some '/'
  | 'b' => some '\x08'
  | 'f' => some '\x0c'
  | 'n' => some '\n'
  | 'r' => some '\r'
  | 't' => some '\t'
  | _ => none

/-- Whether a unit is the first half of a surrogate pair. -/
def isLeading (unit : Nat) : Bool := 0xD800 ≤ unit && unit ≤ 0xDBFF

/-- Whether a unit is the second half of a surrogate pair. -/
def isTrailing (unit : Nat) : Bool := 0xDC00 ≤ unit && unit ≤ 0xDFFF

/-- The character of a surrogate pair. -/
def ofPair (leading trailing : Nat) : Char :=
  Char.ofNat (0x10000 + (leading - 0xD800) * 0x400 + (trailing - 0xDC00))

/-- The characters of a text from behind its opening quotation mark, or its first defect. -/
def readText : List Char → Except Defect (List Char)
  | [] => .error .unfinished
  | '"' :: _ => .ok []
  | '\\' :: 'u' :: a :: b :: c :: d :: rest =>
    match unit? a b c d with
    | none => .error .malformed
    | some unit =>
      if isTrailing unit then .error .malformed
      else if isLeading unit then
        match rest with
        | [] => .error .unfinished
        | ['\\'] => .error .unfinished
        | '\\' :: 'u' :: e :: f :: g :: h :: rest =>
          match unit? e f g h with
          | none => .error .malformed
          | some second =>
            if isTrailing second then (readText rest).map (ofPair unit second :: ·)
            else .error .malformed
        | '\\' :: 'u' :: rest => .error (shortEscape rest)
        | _ => .error .malformed
      else (readText rest).map (Char.ofNat unit :: ·)
  | '\\' :: 'u' :: rest => .error (shortEscape rest)
  | ['\\'] => .error .unfinished
  | '\\' :: e :: rest =>
    match escaped? e with
    | none => .error .malformed
    | some c => (readText rest).map (c :: ·)
  | c :: rest => if c.toNat < 32 then .error .malformed else (readText rest).map (c :: ·)

/-- What follows a text, from behind its opening quotation mark, or the first defect of its form. -/
def skipText : List Char → Except Defect (List Char)
  | [] => .error .unfinished
  | '"' :: rest => .ok rest
  | '\\' :: 'u' :: a :: b :: c :: d :: rest =>
    match unit? a b c d with
    | none => .error .malformed
    | some _ => skipText rest
  | '\\' :: 'u' :: rest => .error (shortEscape rest)
  | ['\\'] => .error .unfinished
  | '\\' :: e :: rest =>
    match escaped? e with
    | none => .error .malformed
    | some _ => skipText rest
  | c :: rest => if c.toNat < 32 then .error .malformed else skipText rest

/-! ## Numbers -/

/-- The parts of a number. -/
structure Numeral where
  minus : Bool
  /-- The digits before the point. -/
  whole : List Char
  /-- The digits after the point; none if there is no point. -/
  fraction : List Char
  /-- The exponent, if there is one. -/
  exponent : Option Int
deriving Repr, DecidableEq

/-- How a number ends before it is complete: what a reader and a skipper make of it. -/
structure Incomplete where
  used : Defect
  skipped : Defect
deriving Repr, DecidableEq

/-- The defect of a number that needs a digit next. A reader that meets the end of the text there
takes it for unfinished, a skipper never does. -/
def Incomplete.before (rest : List Char) : Incomplete :=
  ⟨if rest.isEmpty then .unfinished else .malformed, .malformed⟩

namespace Numeral

/-- The digits at the start of a text, and what follows them. -/
def span (text : List Char) : List Char × List Char :=
  (text.takeWhile Char.isDigit, text.dropWhile Char.isDigit)

/-- The digits before the point: a zero alone, or digits that do not start with one. -/
def scanWhole (text : List Char) : Except Incomplete (List Char × List Char) :=
  match span text with
  | ([], rest) => .error (Incomplete.before rest)
  | ('0' :: _ :: _, _) => .error ⟨.malformed, .malformed⟩
  | (digits, rest) => .ok (digits, rest)

/-- The point and the digits after it, if there is a point. -/
def scanFraction (text : List Char) : Except Incomplete (List Char × List Char) :=
  match text with
  | '.' :: rest =>
    match span rest with
    | ([], rest) => .error (Incomplete.before rest)
    | (digits, rest) => .ok (digits, rest)
  | rest => .ok ([], rest)

/-- The sign of an exponent and what follows it. -/
def scanSign (text : List Char) : Bool × List Char :=
  match text with
  | '-' :: rest => (true, rest)
  | '+' :: rest => (false, rest)
  | rest => (false, rest)

/-- The exponent, if there is one. -/
def scanExponent (text : List Char) : Except Incomplete (Option Int × List Char) :=
  match text with
  | [] => .ok (none, [])
  | e :: rest =>
    if e = 'e' ∨ e = 'E' then
      let (minus, rest) := scanSign rest
      match span rest with
      | ([], rest) => .error (Incomplete.before rest)
      | (digits, rest) =>
        let n : Int := Digit.number 10 digits
        .ok (some (if minus then -n else n), rest)
    else .ok (none, e :: rest)

/-- The minus sign of a number, if there is one, and what follows it. -/
def scanMinus (text : List Char) : Bool × List Char :=
  match text with
  | '-' :: rest => (true, rest)
  | rest => (false, rest)

/-- The number at the start of a text and what follows it. -/
def scan (text : List Char) : Except Incomplete (Numeral × List Char) := do
  let whole ← scanWhole (scanMinus text).2
  let fraction ← scanFraction whole.2
  let exponent ← scanExponent fraction.2
  pure (⟨(scanMinus text).1, whole.1, fraction.1, exponent.1⟩, exponent.2)

/-- The digits that fit below 2^64 after a number, what they make of it, and the digits left. -/
def fill (n : Nat) : List Char → Nat × List Char
  | [] => (n, [])
  | c :: rest =>
    let next := Digit.extend 10 n c
    if next < UInt64.size then fill next rest else (n, c :: rest)

/-- The magnitude of a number that is no integer below 2^64, from as many of its digits as fit below
2^64. Digits before the point that do not fit count as zeros, digits after it are dropped. -/
def magnitude? (numeral : Numeral) : Option Binary64 :=
  let (n, zeros) := fill 0 numeral.whole
  let (n, dropped) := fill n numeral.fraction
  let places : Int := (numeral.fraction.length : Int) - dropped.length
  Binary64.ofScaled? n (zeros.length - places + numeral.exponent.getD 0)

/-- The number that the digits stand for, or a defect if no double can hold it. An integer that
leaves the range of its machine word is read like any other number, and so is a zero with a minus
sign. -/
def number? (numeral : Numeral) : Except Defect Number :=
  let integer := Digit.number 10 numeral.whole
  let bare := numeral.fraction.isEmpty && numeral.exponent.isNone
  if bare && !numeral.minus && integer < UInt64.size then .ok (.natural (UInt64.ofNat integer))
  else if bare && numeral.minus && 0 < integer && integer ≤ Nat.pow 2 63 then
    .ok (.negative (-(integer : Int)))
  else
    match numeral.magnitude? with
    | none => .error .malformed
    | some x =>
      let shown := String.ofList (Shortest.ofBinary64 .toEven x).scientific
      .ok (.float (if numeral.minus then "-" ++ shown else shown))

end Numeral

end CompactQuery.Json
