/-!
# Extents — parts of a text by places that are counted in bytes

Places are counted in the bytes that the characters before them take in UTF-8. A place inside a
character is none.

* **`Extent.drop?`**, **`Extent.take?`** — the text from a place on, and up to it.
* **`Extent.between?`** — the text between two places.
-/

namespace CompactQuery.Extent

/-- The text from a place on. -/
def drop? : Nat → List Char → Option (List Char)
  | 0, text => some text
  | _ + 1, [] => none
  | n + 1, c :: rest => if c.utf8Size ≤ n + 1 then drop? (n + 1 - c.utf8Size) rest else none

/-- The text up to a place. -/
def take? : Nat → List Char → Option (List Char)
  | 0, _ => some []
  | _ + 1, [] => none
  | n + 1, c :: rest =>
    if c.utf8Size ≤ n + 1 then (take? (n + 1 - c.utf8Size) rest).map (c :: ·) else none

/-- The text between two places. -/
def between? (first last : Nat) (text : List Char) : Option (List Char) :=
  (drop? first text).bind (take? (last - first))

end CompactQuery.Extent
