import CompactQuery.Text.Pieces

/-!
# Paths — the names that files are asked for by

A path is kept as it was written, since messages show it that way. What it names is decided by its
parts: the pieces between slashes, where empty pieces and single dots count for nothing, but for a
dot that starts the path.

* **`Path.pieces`** — what stands between the slashes; **`Path.parts`** — the pieces that count.
* **`Path.same`** — two spellings of the same parts.
* **`Path.extension?`** — what follows the last dot of the last part.
* **`Path.child`** — the path of a file in a folder.
-/

namespace CompactQuery.Command

/-- The name of a file or folder, as it was written. -/
structure Path where
  text : String
deriving Repr, DecidableEq

namespace Path

/-- What stands between the slashes. -/
def pieces (path : Path) : List (List Char) := CompactQuery.pieces '/' path.text.toList

/-- Whether the path starts at the root. -/
def isAbsolute (path : Path) : Bool := path.text.toList.head? = some '/'

/-- Whether a piece behind the first one counts. -/
def counts (piece : List Char) : Bool := piece ≠ [] && piece ≠ ['.']

/-- The pieces that count. -/
def parts (path : Path) : List (List Char) :=
  match path.pieces with
  | [] => []
  | [] :: rest => rest.filter counts
  | first :: rest => first :: rest.filter counts

/-- Whether two paths are spellings of the same parts from the same start. -/
def same (a b : Path) : Bool := a.isAbsolute = b.isAbsolute && a.parts = b.parts

/-- The last part, if it names something: neither of the names for folders with dots alone. -/
def fileName? (path : Path) : Option (List Char) :=
  path.parts.getLast?.filter fun name => name ≠ ['.'] && name ≠ ['.', '.']

/-- What follows the last dot of a name, unless that dot starts it. -/
def afterDot? (name : List Char) : Option (List Char) :=
  match name.reverse.span (· ≠ '.') with
  | (_, []) => none
  | (_, [_]) => none
  | (extension, _) => some extension.reverse

/-- The extension of the file that the path names. -/
def extension? (path : Path) : Option (List Char) := path.fileName?.bind afterDot?

/-- The path of something in a folder. -/
def child (folder : Path) (name : String) : Path :=
  let slash := if folder.text.toList.getLast?.all (· = '/') then "" else "/"
  ⟨folder.text ++ slash ++ name⟩

end Path

end CompactQuery.Command
