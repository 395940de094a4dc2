import CompactQuery.Pattern.Character

/-!
# Sets of characters in patterns

A set stands between brackets. It holds characters, ranges, named kinds and other sets, one after
another, and two sets can be joined by an operator. A hyphen or a closing bracket right after the
opening one is meant as a character.

* **`Level`** — a set that is still open, and how deep it nests so far.
* **`step`** — one part of a set; **`set?`** — a set from behind its opening bracket, with how deep
  it nests.
-/

namespace CompactQuery.Pattern

/-- A set that is still open. -/
structure Level where
  /-- How many parts it has since the last operator. -/
  size : Nat := 0
  /-- How deep the deepest of them nests. -/
  height : Nat := 0
  /-- How deep the part before the last operator nests, if there is one. -/
  left : Option Nat := none
deriving Repr, DecidableEq

namespace Level

/-- One more part that nests so deep. -/
def add (level : Level) (height : Nat) : Level :=
  { level with size := level.size + 1, height := max level.height height }

/-- How deep all of it nests: parts side by side count for one, and each operator does. -/
def total (level : Level) : Nat :=
  let right := if level.size ≤ 1 then level.height else level.height + 1
  match level.left with
  | none => right
  | some left => max left right + 1

/-- An operator. -/
def operator (level : Level) : Level := { left := some level.total }

end Level

namespace Brackets

/-- The names for kinds of characters. -/
def names : List String :=
  ["alnum", "alpha", "ascii", "blank", "cntrl", "digit", "graph", "lower", "print", "punct",
    "space", "upper", "word", "xdigit"]

/-- A named kind from behind its opening bracket, and whether it is negated. -/
def named? : List Char → Option (Bool × List Char)
  | ':' :: text =>
    let (negated, text) :=
      match text with
      | '^' :: rest => (true, rest)
      | text => (false, text)
    match text.span (· ≠ ':') with
    | (name, ':' :: ']' :: rest) =>
      if String.ofList name ∈ names then some (negated, rest) else none
    | _ => none
  | _ => none

/-- A part of a set that is no set: one character or kind, or a range from one character to another.
A hyphen before a closing bracket or another hyphen makes no range. -/
def part? (manner : Manner) (text : List Char) : Option (List Char) := do
  let (first, rest) ← Atom.plain? manner text
  let alone := if first.allowedInSet manner then some (manner.skip rest) else none
  match manner.skip rest with
  | '-' :: rest =>
    if manner.peek rest = some ']' ∨ manner.peek rest = some '-' then alone
    else do
      let (last, rest) ← Atom.plain? manner (manner.skip rest)
      match first, last with
      | .literal a _, .literal b _ =>
        if a ≤ b ∧ first.allowedInSet manner ∧ last.allowedInSet manner then some rest else none
      | _, _ => none
  | _ => alone

/-- The hyphens that a text starts with, counted. -/
def hyphens (manner : Manner) (text : List Char) : Nat × List Char :=
  match text with
  | '-' :: rest =>
    have := manner.length_skip_le rest
    let (count, rest) := hyphens manner (manner.skip rest)
    (count + 1, rest)
  | text => (0, text)
termination_by text.length
decreasing_by simp; omega

/-- The start of a set from behind its opening bracket. -/
def open? (manner : Manner) (text : List Char) : Option (Level × List Char) :=
  let (negated, text) :=
    match manner.skip text with
    | '^' :: rest => (true, manner.skip rest)
    | text => (false, text)
  let (size, text) :=
    match hyphens manner text with
    | (0, ']' :: rest) => (1, rest)
    | (count, rest) => (count, rest)
  if negated ∧ ¬manner.unicode then none
  else if size ≠ 0 ∧ ¬(Atom.literal '-' false).allowedInSet manner then none
  else some ({ size }, text)

/-- One part of the innermost open set, or the end of it. The levels are the open sets, the
innermost first, and behind them one for what is around them all. -/
def step (manner : Manner) (level : Level) (outer : List Level) :
    List Char → Option (List Level × List Char)
  | '[' :: rest =>
    match named? rest with
    | some (negated, rest) =>
      if (if manner.unicode then !manner.anyCase else !negated) then
        some (level.add 0 :: outer, rest)
      else none
    | none => do
      let (inner, rest) ← open? manner rest
      some (inner :: level :: outer, rest)
  | ']' :: rest =>
    match outer with
    | [] => none
    | next :: others => some (next.add (level.total + 1) :: others, rest)
  | '&' :: '&' :: rest => some (level.operator :: outer, rest)
  | '-' :: '-' :: rest => some (level.operator :: outer, rest)
  | '~' :: '~' :: rest => some (level.operator :: outer, rest)
  | text => (part? manner text).map fun rest => (level.add 0 :: outer, rest)

/-- The rest of the open sets: how deep they nest, and what follows them. -/
def rest? (manner : Manner) (levels : List Level) (text : List Char) :
    Option (Nat × List Char) :=
  match levels with
  | [] => none
  | [around] => some (around.height, text)
  | level :: outer =>
    match step manner level outer (manner.skip text) with
    | none => none
    | some (levels, rest) =>
      if _h : rest.length < text.length then rest? manner levels rest else none
termination_by text.length

/-- A set from behind its opening bracket: how deep it nests, and what follows it. -/
def set? (manner : Manner) (text : List Char) : Option (Nat × List Char) := do
  let (level, rest) ← open? manner text
  rest? manner [level, {}] rest

end Brackets

end CompactQuery.Pattern
