import CompactQuery.Text.CharKind
import CompactQuery.Text.Digit

/-!
# Characters in patterns

A pattern describes texts. Nothing is matched here; what counts is whether a pattern is well formed
and within what the matcher offers. The matcher knows no tables of Unicode, so a pattern may not
ask for letters in either case, nor for digits, blanks or words, unless it gives up Unicode first.
Without Unicode it may not ask for anything that bytes outside ASCII would fit.

* **`Manner`** — how a stretch of a pattern is read; **`Manner.skip`** — what it passes over.
* **`Atom`** — the smallest parts of a pattern; **`Atom.allowed`**, **`Atom.allowedInSet`** — where
  they may stand.
* **`Atom.escaped?`** — the part that a backslash introduces.
-/

namespace CompactQuery.Pattern

/-- How a stretch of a pattern is read. -/
structure Manner where
  /-- Letters stand for both their cases. -/
  anyCase : Bool := false
  /-- Characters are those of Unicode, and not bytes. -/
  unicode : Bool := true
  /-- Blanks and comments do not count. -/
  spaced : Bool := false
deriving Repr, DecidableEq

/-! ## Blanks and comments -/

/-- What follows blanks and comments. A comment starts with a number sign and ends with its line. -/
def skipFiller (comment : Bool) : List Char → List Char
  | [] => []
  | c :: rest =>
    if comment then skipFiller (c ≠ '\n') rest
    else if c = '#' then skipFiller true rest
    else if CharKind.isSpace c then skipFiller false rest
    else c :: rest

/-- What follows blanks and comments where they do not count. -/
def Manner.skip (manner : Manner) (text : List Char) : List Char :=
  if manner.spaced then skipFiller false text else text

theorem length_skipFiller_le (comment : Bool) (text : List Char) :
    (skipFiller comment text).length ≤ text.length := by
  induction text generalizing comment with
  | nil => simp [skipFiller]
  | cons c rest ih =>
    have inComment := ih (c ≠ '\n')
    have atComment := ih true
    have atBlank := ih false
    unfold skipFiller
    split
    · exact Nat.le_succ_of_le inComment
    · split
      · exact Nat.le_succ_of_le atComment
      · split
        · exact Nat.le_succ_of_le atBlank
        · exact Nat.le_refl _

theorem Manner.length_skip_le (manner : Manner) (text : List Char) :
    (manner.skip text).length ≤ text.length := by
  unfold Manner.skip
  split
  · exact length_skipFiller_le false text
  · exact Nat.le_refl _

/-- The character that comes next, seen past blanks and one number sign where they do not count. -/
def Manner.peek (manner : Manner) (text : List Char) : Option Char :=
  if manner.spaced then
    match text.dropWhile CharKind.isSpace with
    | '#' :: rest => (rest.dropWhile CharKind.isSpace).head?
    | rest => rest.head?
  else text.head?

/-! ## The smallest parts -/

/-- A part of a pattern that has no parts. -/
inductive Atom where
  /-- A character. The flag says whether it is written as a byte, with two digits. -/
  | literal (c : Char) (byte : Bool)
  /-- Any character of a line. -/
  | any
  /-- A digit, a blank or a character of a word, or one that is none. -/
  | kind (negated : Bool)
  /-- The start or the end of the text or a line. -/
  | edge
  /-- The start or the end of a word, or a place that is neither. -/
  | wordEdge
deriving Repr, DecidableEq

namespace Atom

/-- Whether the part may stand on its own. -/
def allowed (manner : Manner) : Atom → Bool
  | .literal c byte => if manner.unicode then !manner.anyCase else !(byte && 128 ≤ c.toNat)
  | .any => manner.unicode
  | .kind negated => !manner.unicode && !negated
  | .edge => true
  | .wordEdge => !manner.unicode

/-- Whether the part may stand in a set of characters. -/
def allowedInSet (manner : Manner) : Atom → Bool
  | .literal c _ => if manner.unicode then !manner.anyCase else c.toNat < 128
  | .kind negated => !manner.unicode && !negated
  | _ => false

/-- So many hexadecimal digits, with blanks and comments before each where they do not count. -/
def digits? (manner : Manner) : Nat → List Char → Option (List Char × List Char)
  | 0, text => some ([], text)
  | count + 1, text =>
    match manner.skip text with
    | [] => none
    | c :: rest =>
      if (Digit.value? c).isSome then
        (digits? manner count rest).map fun (digits, rest) => (c :: digits, rest)
      else none

/-- A character by its number in so many digits. -/
def numbered? (manner : Manner) (count : Nat) (text : List Char) : Option (Atom × List Char) := do
  let (digits, rest) ← digits? manner count text
  let n := Digit.number 16 digits
  if n.isValidChar then some (.literal (Char.ofNat n) (count = 2), rest) else none

/-- The control character of a letter. -/
def control? : Char → Option Char
  | 'a' => some '\x07'
  | 't' => some '\t'
  | 'n' => some '\n'
  | 'v' => some '\x0B'
  | 'f' => some '\x0C'
  | 'r' => some '\r'
  | _ => none

/-- The part behind a backslash. Digits, other letters, angle brackets but for words, and characters
outside ASCII have no meaning there. -/
def escaped? (manner : Manner) : List Char → Option (Atom × List Char)
  | [] => none
  | 'x' :: rest => numbered? manner 2 rest
  | 'u' :: rest => numbered? manner 4 rest
  | 'U' :: rest => numbered? manner 8 rest
  | c :: rest =>
    if c ∈ ['d', 's', 'w'] then some (.kind false, rest)
    else if c ∈ ['D', 'S', 'W'] then some (.kind true, rest)
    else if c ∈ ['A', 'z'] then some (.edge, rest)
    else if c ∈ ['b', 'B', '<', '>'] then some (.wordEdge, rest)
    else
      match control? c with
      | some control => some (.literal control false, rest)
      | none => if c.toNat < 128 && !c.isAlphanum then some (.literal c false, rest) else none

/-- The part that a text starts with where no character but the backslash has a meaning. -/
def plain? (manner : Manner) : List Char → Option (Atom × List Char)
  | [] => none
  | '\\' :: rest => escaped? manner rest
  | c :: rest => some (.literal c false, rest)

/-- The part that a text starts with. -/
def read? (manner : Manner) : List Char → Option (Atom × List Char)
  | '.' :: rest => some (.any, rest)
  | '^' :: rest => some (.edge, rest)
  | '$' :: rest => some (.edge, rest)
  | text => plain? manner text

end Atom

end CompactQuery.Pattern
