/-!
# Trees — what a text spells, as far as it can be read

Texts in JSON and in TOML are read in two steps. The first makes a tree of the text and knows
nothing about queries; the second (`Schema/Reading.lean`) takes the tree apart in the order of the
text, and the first thing it cannot accept decides the answer.

The first step never fails. Where the text stops being well formed the tree has a `broken` leaf, or
a container that is not closed, and nothing after it. A reader that has found fault with something
earlier never gets there.

What is well formed depends on use. A number that no double can hold and a text with half a
surrogate pair are fine in a value that is skipped and not in one that is read, so leaves carry what
a reader meets there (`used`) apart from what a skipper meets.

* **`Defect`** — the two ways in which a text is not well formed.
* **`Number`** — what a number can be; **`Key`** — what stands where a member's name is due.
* **`Tree`** — the tree.
* **`Tree.skipDefect`** — the first defect a skipper meets in it.
-/

namespace CompactQuery

/-- A way in which a text is not well formed. -/
inductive Defect where
  /-- It breaks the grammar. -/
  | malformed
  /-- It ends too early. -/
  | unfinished
deriving Repr, DecidableEq

/-- A number as messages and readers tell them apart. -/
inductive Number where
  | natural (n : UInt64)
  /-- An integer below zero. -/
  | negative (i : Int)
  /-- Any other number, in the digits that messages show. -/
  | float (shown : String)
deriving Repr, DecidableEq

/-- What a message says it found. -/
inductive Found where
  | null
  | flag (b : Bool)
  | number (n : Number)
  | text (s : String)
  | sequence
  | map
deriving Repr, DecidableEq

/-- What stands where the name of a member is due. -/
inductive Key where
  /-- A text. Its escapes may spell no characters. -/
  | name (used : Except Defect String)
  /-- A text that does not get to its end, or the end of everything. -/
  | cut (used skipped : Defect)
  /-- Something else. -/
  | other
deriving Repr

/-- What a text spells. -/
inductive Tree where
  | null
  | flag (b : Bool)
  | number (used : Except Defect Number)
  | text (used : Except Defect String)
  /-- A date, a time or both. -/
  | moment
  /-- A sequence, with the defect that keeps it from being closed. The flag says whether its items
  are tables that headers of their own open. -/
  | array (items : List Tree) (ending : Option Defect) (headed : Bool)
  /-- A map, with the defect that keeps it from being closed. -/
  | object (members : List (Key × Tree)) (ending : Option Defect)
  /-- No value. The flag says whether it is a text cut short, or the end of everything. -/
  | broken (quoted : Bool) (used skipped : Defect)
deriving Repr

/-- What a reader of names finds in a key: the name, or the defect that a map with it has. -/
def Key.read : Key → Except Defect String
  | .name used => used
  | .cut used _ => .error used
  | .other => .error .malformed

/-- The defect that a skipper meets in a key. -/
def Key.skipDefect : Key → Option Defect
  | .name _ => none
  | .cut _ skipped => some skipped
  | .other => some .malformed

mutual

/-- The first defect in a tree that is skipped. -/
def Tree.skipDefect : Tree → Option Defect
  | .array items ending _ => (Tree.skipItems items).or ending
  | .object members ending => (Tree.skipMembers members).or ending
  | .broken _ _ skipped => some skipped
  | _ => none

/-- The first defect in items that are skipped. -/
def Tree.skipItems : List Tree → Option Defect
  | [] => none
  | item :: rest => item.skipDefect.or (Tree.skipItems rest)

/-- The first defect in members that are skipped. -/
def Tree.skipMembers : List (Key × Tree) → Option Defect
  | [] => none
  | (key, value) :: rest => key.skipDefect.or (value.skipDefect.or (Tree.skipMembers rest))

end

/-- What a message says a tree is, or the defect that keeps a reader from telling. -/
def Tree.found : Tree → Except Defect Found
  | .null => .ok .null
  | .flag b => .ok (.flag b)
  | .number used => used.map .number
  | .text used => used.map .text
  | .moment => .ok .map
  | .array .. => .ok .sequence
  | .object .. => .ok .map
  | .broken _ used _ => .error used

end CompactQuery
