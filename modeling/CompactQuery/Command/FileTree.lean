import CompactQuery.Command.Surroundings

/-!
# File trees — files and folders held in memory

A tree answers for a path what a file system answers: the path is followed piece by piece from the
root, every piece but the last has to be a folder, two dots lead back to the folder above, and an
empty piece or a single dot stays where it is but still needs a folder to stay in.

* **`FileTree`** — a file or a folder; **`FileTree.insert`**, **`ofList`** — how one is made.
* **`FileTree.walk`** — where a list of pieces leads; **`FileTree.read`** — the file of a path.
-/

namespace CompactQuery.Command

/-- A file with its content, or a folder with its entries. -/
inductive FileTree where
  | file (content : ByteArray)
  | folder (entries : List (String × FileTree))

namespace FileTree

/-- The tree with something put where these names lead, and the folders on the way. What was there
is replaced. -/
def insert (item : FileTree) : List String → FileTree → FileTree
  | [], _ => item
  | name :: names, .file _ => .folder [(name, insert item names (.folder []))]
  | name :: names, .folder entries =>
    let below := (entries.lookup name).getD (.folder [])
    .folder ((name, insert item names below) :: entries.filter (·.1 ≠ name))

/-- The tree of these items, each with the names that lead to it. -/
def ofList (items : List (List String × FileTree)) : FileTree :=
  items.foldl (fun tree (names, item) => insert item names tree) (.folder [])

/-- How many octets a name may have. -/
def nameLimit : Nat := 255

/-- How many octets a path may have. -/
def pathLimit : Nat := 4095

/-- Where pieces lead from a place, which comes with the folders above it, the nearest first. -/
def walk (here : FileTree) (above : List FileTree) : List (List Char) → Except ReadFailure FileTree
  | [] => .ok here
  | piece :: pieces =>
    match here with
    | .file _ => .error .notFolder
    | .folder entries =>
      if piece = [] ∨ piece = ['.'] then walk here above pieces
      else if piece = ['.', '.'] then
        match above with
        | [] => walk here [] pieces
        | parent :: others => walk parent others pieces
      else if nameLimit < (String.ofList piece).utf8ByteSize then .error .nameTooLong
      else
        match entries.lookup (String.ofList piece) with
        | none => .error .missing
        | some child => walk child (here :: above) pieces

/-- The content of the file at a path. A path that does not start at the root starts at the folder
that these names lead to. -/
def read (tree : FileTree) (folder : List String) (path : Path) : Except ReadFailure ByteArray :=
  let start := if path.isAbsolute then [] else folder.map String.toList
  if path.text = "" then .error .missing
  else if pathLimit < path.text.utf8ByteSize then .error .nameTooLong
  else
    match walk tree [] (start ++ path.pieces) with
    | .ok (.file content) => .ok content
    | .ok (.folder _) => .error .folder
    | .error failure => .error failure

end FileTree

end CompactQuery.Command
