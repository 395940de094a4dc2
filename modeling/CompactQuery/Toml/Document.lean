import CompactQuery.Schema.Reading
import CompactQuery.Toml.Scalar
import CompactQuery.Toml.Table

/-!
# TOML documents — from a text to a tree

The whole document is made into a tree before anything is read from it, so a text that is no TOML
has no other fault.

* **`value`** — a value, with arrays and inline tables nested less than eighty deep.
* **`Draft`** — a document that is being read: the tables that are complete, and the one that is
  open. A table is put in its place when the next one is opened.
* **`Draft.lines`** — the lines of a document, one after the other.
* **`tree?`** — the tree of a document; **`readShape`** — the value of a shape that it holds.
-/

namespace CompactQuery.Toml

/-! ## Values -/

/-- What follows blanks, line ends and comments. -/
def skipFiller (comment : Bool) : List Char → List Char
  | [] => []
  | '\r' :: '\n' :: rest => skipFiller false rest
  | '\n' :: rest => skipFiller false rest
  | c :: rest =>
    if comment then
      if isPlain c then skipFiller true rest else c :: rest
    else if c = '#' then skipFiller true rest
    else if isBlank c then skipFiller false rest
    else c :: rest

/-- The items of an array up to its closing bracket. A comma may follow the last. -/
def arrayItems (item : List Char → Option (Tree × List Char)) (text : List Char) :
    Option (List Tree × List Char) :=
  match skipFiller false text with
  | ']' :: rest => some ([], rest)
  | start => do
    let (tree, rest) ← item start
    match skipFiller false rest with
    | ']' :: rest => some ([tree], rest)
    | ',' :: rest =>
      if _h : rest.length < text.length then do
        let (trees, rest) ← arrayItems item rest
        some (tree :: trees, rest)
      else none
    | _ => none
termination_by text.length

/-- The members of an inline table up to its closing brace. No comma may follow the last. -/
def inlineMembers (item : List Char → Option (Tree × List Char)) (table : Table)
    (text : List Char) : Option (Table × List Char) := do
  let ((path, name), rest) ← key text
  match rest with
  | '=' :: rest => do
    let (tree, rest) ← item (skipBlanks rest)
    let table ← table.define path name tree
    match skipBlanks rest with
    | '\x7d' :: rest => some (table, rest)
    | ',' :: rest =>
      if _h : rest.length < text.length then inlineMembers item table rest else none
    | _ => none
  | _ => none
termination_by text.length

/-- An inline table from behind its opening brace. -/
def inlineTable (item : List Char → Option (Tree × List Char)) (text : List Char) :
    Option (Tree × List Char) :=
  match skipBlanks text with
  | '\x7d' :: rest => some ((Table.empty .written).toTree, rest)
  | _ => (inlineMembers item (.empty .written) text).map fun (table, rest) => (table.toTree, rest)

/-- A value that holds containers nested at most so deep. -/
def value (depth : Nat) (start : List Char) : Option (Tree × List Char) :=
  match start with
  | '[' :: rest =>
    match depth with
    | 0 => none
    | depth + 1 =>
      (arrayItems (fun text => value depth text) rest).map fun (items, rest) =>
        (.array items none false, rest)
  | '\x7b' :: rest =>
    match depth with
    | 0 => none
    | depth + 1 => inlineTable (fun text => value depth text) rest
  | '"' :: _ => (text start).map fun (s, rest) => (.text (.ok s), rest)
  | '\'' :: _ => (text start).map fun (s, rest) => (.text (.ok s), rest)
  | _ => scalar start
termination_by structural depth

/-- How deep containers may nest. -/
def maxDepth : Nat := 79

/-! ## Documents -/

/-- A document that is being read. -/
structure Draft where
  /-- The tables that are complete. -/
  root : Table
  /-- The table that is open. -/
  current : Table
  /-- Where the open table belongs: the path of its header, and its name. The document itself has
  none. -/
  header : Option (List String × String)
  /-- Whether the header has double brackets. -/
  repeated : Bool
deriving Repr

namespace Draft

/-- An empty document. -/
def empty : Draft := ⟨.empty .written, .empty .written, none, false⟩

/-- The tables once the open one is in its place. -/
def settle (draft : Draft) : Option Table :=
  match draft.header with
  | none => some draft.current
  | some (path, name) =>
    let content := (draft.current.origin, draft.current.entries)
    Table.update false path (fun parent =>
      match parent.find? name, draft.repeated with
      | none, false => some (parent.append name draft.current.toEntry)
      | none, true => some (parent.append name (.repeated [content]))
      | some (.repeated tables), true => some (parent.replace name (.repeated (content :: tables)))
      | _, _ => none) draft.root

/-- A header in single brackets. A table that other headers only mention is taken up with what it
has; any other table of that name is in the way. -/
def openTable (draft : Draft) (path : List String) (name : String) : Option Draft := do
  let root ← draft.settle
  let (entries, root) ← Table.inside false path (fun parent =>
    match parent.find? name with
    | none => some ([], parent)
    | some (.table .parent entries) => some (entries, parent.erase name)
    | some _ => none) root
  some ⟨root, ⟨.written, entries⟩, some (path, name), false⟩

/-- A header in double brackets. Whatever has that name must be a list of tables. -/
def openTables (draft : Draft) (path : List String) (name : String) : Option Draft := do
  let root ← draft.settle
  let root ← Table.update false path (fun parent =>
    match parent.find? name with
    | none => some (parent.append name (.repeated []))
    | some (.repeated _) => some parent
    | some _ => none) root
  some ⟨root, .empty .written, some (path, name), true⟩

/-- What follows the end of a line, after blanks and perhaps a comment. The end of the text ends a
line too. -/
def endLine (text : List Char) : Option (List Char) :=
  let rest :=
    match skipBlanks text with
    | '#' :: rest => rest.dropWhile isPlain
    | rest => rest
  match rest with
  | [] => some []
  | rest => lineEnd? rest

/-- A header, from its opening bracket on. -/
def headerLine (draft : Draft) (text : List Char) : Option (Draft × List Char) :=
  match text with
  | '[' :: '[' :: rest => do
    let ((path, name), rest) ← key rest
    match rest with
    | ']' :: ']' :: rest => do
      let draft ← draft.openTables path name
      some (draft, ← endLine rest)
    | _ => none
  | '[' :: rest => do
    let ((path, name), rest) ← key rest
    match rest with
    | ']' :: rest => do
      let draft ← draft.openTable path name
      some (draft, ← endLine rest)
    | _ => none
  | _ => none

/-- A key with its value. -/
def assignment (draft : Draft) (text : List Char) : Option (Draft × List Char) := do
  let ((path, name), rest) ← key text
  match rest with
  | '=' :: rest => do
    let (tree, rest) ← value maxDepth (skipBlanks rest)
    let current ← draft.current.define path name tree
    some ({ draft with current }, ← endLine rest)
  | _ => none

/-- A line: a header, a key with its value, or nothing but a comment. -/
def line (draft : Draft) (text : List Char) : Option (Draft × List Char) :=
  match text with
  | '[' :: _ => draft.headerLine text
  | '#' :: _ => (endLine text).map fun rest => (draft, rest)
  | '\n' :: _ => (endLine text).map fun rest => (draft, rest)
  | '\r' :: _ => (endLine text).map fun rest => (draft, rest)
  | _ => draft.assignment text

/-- The rest of a document, line by line. -/
def lines (draft : Draft) (text : List Char) : Option Draft :=
  match skipBlanks text with
  | [] => some draft
  | start =>
    match draft.line start with
    | none => none
    | some (draft, rest) => if _h : rest.length < text.length then draft.lines rest else none
termination_by text.length

end Draft

/-- The tree of a document, or `none` if it is no TOML. A byte order mark may come first. -/
def tree? (text : String) : Option Tree := do
  let chars :=
    match text.toList with
    | '\uFEFF' :: rest => rest
    | chars => chars
  let draft ← Draft.empty.lines chars
  let root ← draft.settle
  some root.toTree

/-- The value of a shape that a document holds, or the first fault. -/
def readShape (s : Shape) (text : String) : Except Fault s.Content :=
  match tree? text with
  | none => .error Fault.malformed
  | some tree => s.read .toml tree

end CompactQuery.Toml
