/-!
# UTF-8 — octets of a character, and a reader that never fails

A character is written as one to four octets (`octets`). Reading goes the other way over any octets
at all: `lossy` follows the octets one by one with a small machine, and each longest start of a
character that cannot be completed becomes one replacement character.

* **`Pending`** — where the reader stands between two octets: between characters, or inside one
  with the range that the next octet has to lie in.
* **`step`** — one octet: the characters it finishes, and the new place.
* **`readFrom`** — the run of the machine; **`lossy`** — the run from between two characters.

The range of the first following octet carries all the exceptions of the encoding: no overlong
form, no surrogate and nothing above the last code point ever gets past it.
-/

namespace CompactQuery.Utf8

/-! ## Writing -/

/-- The octets of a character, the lead octet first. -/
def octets (c : Char) : List UInt8 :=
  let n := c.toNat
  if n < 0x80 then [UInt8.ofNat n]
  else if n < 0x800 then [UInt8.ofNat (0xC0 + n / 64), UInt8.ofNat (0x80 + n % 64)]
  else if n < 0x10000 then
    [UInt8.ofNat (0xE0 + n / 4096), UInt8.ofNat (0x80 + n / 64 % 64), UInt8.ofNat (0x80 + n % 64)]
  else
    [UInt8.ofNat (0xF0 + n / 262144), UInt8.ofNat (0x80 + n / 4096 % 64),
      UInt8.ofNat (0x80 + n / 64 % 64), UInt8.ofNat (0x80 + n % 64)]

/-! ## Reading -/

/-- The character that stands for octets which form none. -/
def replacement : Char := '\uFFFD'

/-- Where the reader stands between two octets. -/
inductive Pending where
  /-- Between two characters. -/
  | between
  /-- Inside a character: the bits read so far, how many octets are owed after the next one, and
  the range the next one has to lie in. -/
  | inside (bits owed low high : Nat)
deriving Repr, DecidableEq

/-- An octet met between two characters: a character of its own, the lead of a longer one, or an
octet that starts nothing. -/
def start (b : UInt8) : List Char × Pending :=
  let n := b.toNat
  if n < 0x80 then ([Char.ofNat n], .between)
  else if n < 0xC2 then ([replacement], .between)
  else if n < 0xE0 then ([], .inside (n - 0xC0) 0 0x80 0xBF)
  else if n < 0xF0 then
    ([], .inside (n - 0xE0) 1 (if n = 0xE0 then 0xA0 else 0x80) (if n = 0xED then 0x9F else 0xBF))
  else if n < 0xF5 then
    ([], .inside (n - 0xF0) 2 (if n = 0xF0 then 0x90 else 0x80) (if n = 0xF4 then 0x8F else 0xBF))
  else ([replacement], .between)

/-- One octet: the characters it finishes, and where the reader then stands. An octet that does not
continue the character at hand ends it as a replacement and is read again as the start of the
next. -/
def step : Pending → UInt8 → List Char × Pending
  | .between, b => start b
  | .inside bits owed low high, b =>
    if low ≤ b.toNat ∧ b.toNat ≤ high then
      let bits := bits * 64 + (b.toNat - 0x80)
      match owed with
      | 0 => ([Char.ofNat bits], .between)
      | owed + 1 => ([], .inside bits owed 0x80 0xBF)
    else (replacement :: (start b).1, (start b).2)

/-- What is left to write when the octets end: a character that was cut short is a replacement. -/
def finish : Pending → List Char
  | .between => []
  | .inside .. => [replacement]

/-- The characters of the octets, read from the given place. -/
def readFrom : Pending → List UInt8 → List Char
  | place, [] => finish place
  | place, b :: bs => (step place b).1 ++ readFrom (step place b).2 bs

/-- The characters of any octets, each longest incomplete start read as one replacement. -/
def lossy (bytes : List UInt8) : List Char := readFrom .between bytes

theorem readFrom_cons (place : Pending) (b : UInt8) (bs : List UInt8) :
    readFrom place (b :: bs) = (step place b).1 ++ readFrom (step place b).2 bs := rfl

end CompactQuery.Utf8
