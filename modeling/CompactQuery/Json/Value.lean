import CompactQuery.Schema.Shape
import CompactQuery.Text.Digit

/-!
# JSON values and their text

A value of a shape is written as JSON with the members of a record in the order of its slots, none
left out. Within a text the quotation mark, the backslash and the control characters are escaped,
and nothing else is.

* **`Json.Value`** — the values that are written.
* **`Json.Value.chars`** — a value without any blanks; **`Json.Value.compact`** — the same as a
  text.
* **`Json.prettyObject`** — an object with each member on a line of its own.
* **`Shape.toJson`** — the JSON value of a value of a shape.
-/

namespace CompactQuery

namespace Json

/-- A value that is written as JSON. -/
inductive Value where
  | null
  | flag (b : Bool)
  | natural (n : UInt64)
  | text (s : String)
  | array (items : List Value)
  | object (members : List (String × Value))
deriving Repr

/-- A character as it stands between the quotation marks of a text. -/
def escapeChar (c : Char) : List Char :=
  if c = '"' then ['\\', '"']
  else if c = '\\' then ['\\', '\\']
  else if c = '\x08' then ['\\', 'b']
  else if c = '\x0c' then ['\\', 'f']
  else if c = '\n' then ['\\', 'n']
  else if c = '\r' then ['\\', 'r']
  else if c = '\t' then ['\\', 't']
  else if c.toNat < 32 then
    ['\\', 'u', '0', '0', Digit.lower (c.toNat / 16), Digit.lower (c.toNat % 16)]
  else [c]

/-- A text between quotation marks. -/
def quote (s : String) : List Char := '"' :: s.toList.flatMap escapeChar ++ ['"']

mutual

/-- A value without any blanks. -/
def Value.chars : Value → List Char
  | .null => ['n', 'u', 'l', 'l']
  | .flag true => ['t', 'r', 'u', 'e']
  | .flag false => ['f', 'a', 'l', 's', 'e']
  | .natural n => Nat.toDigits 10 n.toNat
  | .text s => quote s
  | .array [] => ['[', ']']
  | .array (item :: rest) => '[' :: item.chars ++ Value.itemChars rest
  | .object [] => ['\x7b', '\x7d']
  | .object ((key, value) :: rest) =>
    '\x7b' :: quote key ++ ':' :: value.chars ++ Value.memberChars rest

/-- The items after the first, with the bracket that closes them. -/
def Value.itemChars : List Value → List Char
  | [] => [']']
  | item :: rest => ',' :: item.chars ++ Value.itemChars rest

/-- The members after the first, with the brace that closes them. -/
def Value.memberChars : List (String × Value) → List Char
  | [] => ['\x7d']
  | (key, value) :: rest => ',' :: quote key ++ ':' :: value.chars ++ Value.memberChars rest

end

/-- The text of a value, without any blanks. -/
def Value.compact (value : Value) : String := String.ofList value.chars

/-- A member on a line of its own. -/
def prettyMember (member : String × Value) : List Char :=
  [' ', ' '] ++ quote member.1 ++ [':', ' '] ++ member.2.chars

/-- An object with at least one member, each on a line of its own. -/
def prettyObject (members : List (String × Value)) : String :=
  String.ofList
    (['\x7b', '\n'] ++ List.intercalate [',', '\n'] (members.map prettyMember) ++ ['\n', '\x7d'])

end Json

mutual

/-- The JSON value of a value of a shape. -/
def Shape.toJson : (s : Shape) → s.Content → Json.Value
  | .text, s => .text s
  | .flag, b => .flag b
  | .count, n => .natural n
  | .form, form => .text (OutputForm.word form)
  | .optional s, value =>
    match value with
    | none => .null
    | some value => s.toJson value
  | .list s, values => .array (List.map (fun value => s.toJson value) values)
  | .record _ slots, values => .object (slots.toJson values)
termination_by structural s => s

/-- The members of a record, in the order of its slots. -/
def Slots.toJson : (slots : Slots) → slots.Content → List (String × Json.Value)
  | .nil, _ => []
  | .cons key s rest, (value, values) => (key, s.toJson value) :: rest.toJson values
termination_by structural slots => slots

end

end CompactQuery
