import CompactQuery.Pattern.Brackets

/-!
# Patterns — which of them are well formed

A pattern is made of alternatives, an alternative of parts one after another. A part is a character,
a set of characters, a group in parentheses, a mark that changes the manner of what follows, or
another part that is repeated. Only the three marks for repetition are known that need no count:
patterns stand where no closing brace can, so no count ever ends.

* **`Branch`** — the alternative at hand; **`Group`** — the group at hand, or the whole pattern.
* **`Opening`** — what an opening parenthesis introduces.
* **`Reader`** — the groups that are open; **`Reader.step`** — one part of a pattern.
* **`wellFormed`** — whether a text is a pattern.
-/

namespace CompactQuery.Pattern

/-! ## What has been read -/

/-- An alternative that may go on. -/
structure Branch where
  /-- How many parts it has. -/
  size : Nat := 0
  /-- How deep the deepest of them nests. -/
  height : Nat := 0
  /-- How deep the last of them nests, if it may be repeated. -/
  last : Option Nat := none
deriving Repr, DecidableEq

/-- How deep an alternative nests: parts side by side count for one. -/
def Branch.total (branch : Branch) : Nat :=
  if branch.size ≤ 1 then branch.height else branch.height + 1

/-- A group that is still open. -/
structure Group where
  /-- The alternative at hand. -/
  branch : Branch := {}
  /-- How deep the deepest of the alternatives before it nests, if there are any. -/
  earlier : Option Nat := none
deriving Repr, DecidableEq

namespace Group

/-- One more part that nests so deep. -/
def add (group : Group) (height : Nat) : Group :=
  let branch := group.branch
  { group with
    branch := ⟨branch.size + 1, max branch.height height, some height⟩ }

/-- A change of manner, which is a part that cannot be repeated. -/
def addMark (group : Group) : Group :=
  { group with branch := { group.branch with size := group.branch.size + 1, last := none } }

/-- The last part, repeated. -/
def repeated? (group : Group) : Option Group :=
  group.branch.last.map fun height =>
    let branch := group.branch
    { group with
      branch := ⟨branch.size, max branch.height (height + 1), some (height + 1)⟩ }

/-- The deepest of the alternatives so far. -/
def deepest (group : Group) : Nat := max (group.earlier.getD 0) group.branch.total

/-- The next alternative. -/
def split (group : Group) : Group := { earlier := some group.deepest }

/-- How deep all of it nests: alternatives side by side count for one. -/
def total (group : Group) : Nat :=
  if group.earlier.isNone then group.deepest else group.deepest + 1

end Group

/-! ## Opening parentheses -/

/-- What an opening parenthesis introduces. -/
inductive Opening where
  /-- A group, perhaps with a name, read in a manner of its own. -/
  | group (name : Option (List Char)) (manner : Manner)
  /-- A change of manner up to the end of the group around it. -/
  | mark (manner : Manner)
deriving Repr, DecidableEq

namespace Opening

/-- Whether a group may have this name. -/
def isName : List Char → Bool
  | [] => false
  | c :: rest =>
    (c = '_' || CharKind.isLetter c) && rest.all fun c =>
      c = '_' || c = '.' || c = '[' || c = ']' || CharKind.isAlphanumeric c

/-- A named group from behind the opening angle bracket. -/
def named? (manner : Manner) (text : List Char) : Option (Opening × List Char) :=
  match text.span (· ≠ '>') with
  | (name, _ :: rest) => if isName name then some (.group (some name) manner, rest) else none
  | _ => none

/-- The manner that flags make of a manner: what stands before the hyphen is set, what stands behind
it is cleared. -/
def change (manner : Manner) (flags : List Char) : Manner :=
  let (on, off) := flags.span (· ≠ '-')
  let apply (flag : Char) (old : Bool) : Bool := flag ∈ on || (old && flag ∉ off)
  { anyCase := apply 'i' manner.anyCase
    unicode := apply 'u' manner.unicode
    spaced := apply 'x' manner.spaced }

/-- Whether the letters are flags. None may be given twice, and some must stand behind a hyphen. -/
def areFlags (flags : List Char) : Bool :=
  flags.all (· ∈ ['i', 'm', 's', 'U', 'u', 'R', 'x', '-'])
    && flags.Nodup && flags.getLast? ≠ some '-'

/-- Flags from behind the question mark. A colon ends them where a group follows. -/
def flagged? (manner : Manner) (text : List Char) : Option (Opening × List Char) :=
  match text.span fun c => c ≠ ':' && c ≠ ')' with
  | (flags, closing :: rest) =>
    if ¬areFlags flags then none
    else if closing = ':' then some (.group none (change manner flags), rest)
    else if flags = [] then none
    else some (.mark (change manner flags), rest)
  | _ => none

/-- What an opening parenthesis introduces, from behind it. -/
def read? (manner : Manner) (text : List Char) : Option (Opening × List Char) :=
  match manner.skip text with
  | '?' :: 'P' :: '<' :: rest => named? manner rest
  | '?' :: '<' :: rest => named? manner rest
  | '?' :: rest => flagged? manner rest
  | rest => some (.group none manner, rest)

end Opening

/-! ## The whole pattern -/

/-- A pattern that is being read. -/
structure Reader where
  manner : Manner := {}
  /-- The names of groups so far. -/
  names : List (List Char) := []
  /-- The innermost group that is open. -/
  group : Group := {}
  /-- The groups around it, each with the manner that comes back with it. -/
  outer : List (Group × Manner) := []
deriving Repr

namespace Reader

/-- What an opening parenthesis introduces. No two groups may have one name. -/
def enter? (reader : Reader) : Opening → Option Reader
  | .mark manner => some { reader with manner, group := reader.group.addMark }
  | .group name manner =>
    if name.any (· ∈ reader.names) then none
    else
      some ⟨manner, name.toList ++ reader.names, {}, (reader.group, reader.manner) :: reader.outer⟩

/-- The end of a group. -/
def leave? (reader : Reader) : Option Reader :=
  match reader.outer with
  | [] => none
  | (group, manner) :: outer =>
    some { reader with manner, group := group.add (reader.group.total + 1), outer }

/-- A part that nests so deep. -/
def add (reader : Reader) (height : Nat) : Reader :=
  { reader with group := reader.group.add height }

/-- One part of a pattern, or what stands between parts. A question mark behind a mark for
repetition belongs to it. -/
def step (reader : Reader) : List Char → Option (Reader × List Char)
  | '(' :: rest => do
    let (opening, rest) ← Opening.read? reader.manner rest
    some (← reader.enter? opening, rest)
  | ')' :: rest => reader.leave?.map fun reader => (reader, rest)
  | '|' :: rest => some ({ reader with group := reader.group.split }, rest)
  | '[' :: rest =>
    (Brackets.set? reader.manner rest).map fun (height, rest) => (reader.add height, rest)
  | '\x7b' :: _ => none
  | c :: rest =>
    if c ∈ ['*', '+', '?'] then do
      let group ← reader.group.repeated?
      some ({ reader with group }, if rest.head? = some '?' then rest.drop 1 else rest)
    else do
      let (atom, rest) ← Atom.read? reader.manner (c :: rest)
      if atom.allowed reader.manner then some (reader.add 0, rest) else none
  | [] => none

/-- The rest of a pattern: how deep all of it nests. -/
def rest? (reader : Reader) (text : List Char) : Option Nat :=
  match reader.manner.skip text with
  | [] => if reader.outer.isEmpty then some reader.group.total else none
  | start =>
    match reader.step start with
    | none => none
    | some (reader, rest) => if _h : rest.length < text.length then reader.rest? rest else none
termination_by text.length

end Reader

/-- How deep patterns may nest. -/
def maxHeight : Nat := 250

/-- Whether a text is a pattern that can be matched. -/
def wellFormed (text : List Char) : Bool :=
  (({} : Reader).rest? text).any (· ≤ maxHeight)

end CompactQuery.Pattern
