import CompactQuery.Text.Digit
import CompactQuery.Text.Utf8

/-!
# Percent-encoding — a text as a part of a URL

A character that is legal somewhere in a URL stands for itself; of any other character each octet
is written as a percent sign and two upper-case hexadecimal digits. Decoding replaces every percent
sign that two hexadecimal digits follow, whatever their case, leaves any other percent sign alone,
and reads the octets it arrives at as UTF-8 with replacements.

* **`encode`**, **`decode`** — the two directions on texts.
* **`octetsOf`** — the octets an encoded text stands for, the middle of decoding.
-/

namespace CompactQuery.Percent

/-- The marks that stand for themselves: those without a meaning of their own in a URL, the
separators of its parts, and the number sign. -/
def marks : List Char :=
  ['-', '_', '.', '!', '~', '*', '\'', '(', ')', ';', ',', '/', '?', ':', '@', '&', '=', '+', '$',
    '#']

/-- Whether a character stands for itself. -/
def kept (c : Char) : Bool := c.isAlphanum || marks.contains c

/-- An octet as a percent sign and its two digits. -/
def escape (b : UInt8) : List Char := ['%', Digit.upper (b.toNat / 16), Digit.upper (b.toNat % 16)]

/-- A character in its encoded form. -/
def encodeChar (c : Char) : List Char :=
  if kept c then [c] else (Utf8.octets c).flatMap escape

/-- The encoded form of a text. -/
def encode (text : String) : String := String.ofList (text.toList.flatMap encodeChar)

/-- The octets that an encoded text stands for. -/
def octetsOf : List Char → List UInt8
  | '%' :: a :: b :: rest =>
    match Digit.value? a, Digit.value? b with
    | some x, some y => UInt8.ofNat (16 * x + y) :: octetsOf rest
    | _, _ => Utf8.octets '%' ++ octetsOf (a :: b :: rest)
  | c :: rest => Utf8.octets c ++ octetsOf rest
  | [] => []

/-- The text that an encoded text stands for. -/
def decode (text : String) : String := String.ofList (Utf8.lossy (octetsOf text.toList))

theorem toList_encode (text : String) : (encode text).toList = text.toList.flatMap encodeChar := by
  simp [encode]

theorem toList_decode (text : String) :
    (decode text).toList = Utf8.lossy (octetsOf text.toList) := by
  simp [decode]

end CompactQuery.Percent
