import CompactQuery.Json.Token
import CompactQuery.Json.Value
import CompactQuery.Schema.Reading

/-!
# JSON documents — from tokens to a tree

A tree is grown token by token, with the containers that are still open kept on a stack. A token
that may not stand at its place stops the growth: the tree so far is the result, with the defect
where the token stood.

* **`Frame`** — an open container around the place at hand; **`Growth`** — the place itself, that
  is, what may come next.
* **`Growth.step`** — one token; **`Growth.finish`** — the end of the text.
* **`Document.ofText`** — the tree of a text, and whether anything follows its value.
* **`Json.readShape`** — the value of a shape that a text holds: the tree is read first, and text
  behind it matters only once it has been accepted.
-/

namespace CompactQuery.Json

/-- A container that is still open, with what it holds so far, the latest first. -/
inductive Frame where
  | array (items : List Tree)
  /-- An object whose latest member has a key and no value yet. -/
  | object (members : List (Key × Tree)) (key : Key)
deriving Repr

/-- A tree that is growing: what may come next, and the containers open around it. -/
inductive Growth where
  /-- A value. -/
  | value (frames : List Frame)
  /-- The first item of an array, or the end of it. -/
  | firstItem (frames : List Frame)
  /-- A comma or the end of an array. -/
  | afterItem (items : List Tree) (frames : List Frame)
  /-- The first key of an object, or the end of it. -/
  | firstKey (frames : List Frame)
  /-- A key. -/
  | nextKey (members : List (Key × Tree)) (frames : List Frame)
  /-- The colon after a key. -/
  | colon (members : List (Key × Tree)) (key : Key) (frames : List Frame)
  /-- A comma or the end of an object. -/
  | afterMember (members : List (Key × Tree)) (frames : List Frame)
  /-- Nothing: the value is complete. -/
  | complete (tree : Tree)
  /-- Anything: there is text behind the value. -/
  | trailing (tree : Tree)
  /-- Anything: the text has a defect, and the tree ends with it. -/
  | stopped (tree : Tree)
deriving Repr

namespace Growth

/-- A value is complete, with these containers open around it. -/
def close (tree : Tree) : List Frame → Growth
  | [] => .complete tree
  | .array items :: frames => .afterItem (tree :: items) frames
  | .object members key :: frames => .afterMember ((key, tree) :: members) frames

/-- The whole tree around a part that ends with a defect. -/
def wrap (defect : Defect) (tree : Tree) : List Frame → Tree
  | [] => tree
  | .array items :: frames =>
    wrap defect (.array (tree :: items).reverse (some defect) false) frames
  | .object members key :: frames =>
    wrap defect (.object ((key, tree) :: members).reverse (some defect)) frames

/-- A defect where a value is due. -/
def breakValue (quoted : Bool) (used skipped : Defect) (frames : List Frame) : Tree :=
  wrap used (.broken quoted used skipped) frames

/-- A defect where a comma or the end of an array is due. -/
def breakItems (defect : Defect) (items : List Tree) (frames : List Frame) : Tree :=
  wrap defect (.array items.reverse (some defect) false) frames

/-- A defect where a comma or the end of an object is due. -/
def breakMembers (defect : Defect) (members : List (Key × Tree)) (frames : List Frame) : Tree :=
  wrap defect (.object members.reverse (some defect)) frames

/-- A key that is none. -/
def breakKey (key : Key) (defect : Defect) (members : List (Key × Tree)) (frames : List Frame) :
    Tree :=
  breakMembers defect ((key, .broken false defect defect) :: members) frames

/-- A token where a value is due. -/
def stepValue (frames : List Frame) : Token → Growth
  | .null => close .null frames
  | .flag b => close (.flag b) frames
  | .number used => close (.number used) frames
  | .text used => close (.text used) frames
  | .openArray => .firstItem frames
  | .openObject => .firstKey frames
  | .broken quoted used skipped => .stopped (breakValue quoted used skipped frames)
  | _ => .stopped (breakValue false .malformed .malformed frames)

/-- A token where a key is due. -/
def stepKey (members : List (Key × Tree)) (frames : List Frame) : Token → Growth
  | .text used => .colon members (.name used) frames
  | .broken true used skipped => .stopped (breakKey (.cut used skipped) used members frames)
  | _ => .stopped (breakKey .other .malformed members frames)

/-- One token. -/
def step : Growth → Token → Growth
  | .value frames, token => stepValue frames token
  | .firstItem frames, .closeArray => close (.array [] none false) frames
  | .firstItem frames, token => stepValue (.array [] :: frames) token
  | .afterItem items frames, .comma => .value (.array items :: frames)
  | .afterItem items frames, .closeArray => close (.array items.reverse none false) frames
  | .afterItem items frames, _ => .stopped (breakItems .malformed items frames)
  | .firstKey frames, .closeObject => close (.object [] none) frames
  | .firstKey frames, token => stepKey [] frames token
  | .nextKey members frames, token => stepKey members frames token
  | .colon members key frames, .colon => .value (.object members key :: frames)
  | .colon members key frames, _ =>
    .stopped (breakValue false .malformed .malformed (.object members key :: frames))
  | .afterMember members frames, .comma => .nextKey members frames
  | .afterMember members frames, .closeObject => close (.object members.reverse none) frames
  | .afterMember members frames, _ => .stopped (breakMembers .malformed members frames)
  | .complete tree, _ => .trailing tree
  | .trailing tree, _ => .trailing tree
  | .stopped tree, _ => .stopped tree

end Growth

/-- The tree of a text, and whether there is text behind its value. -/
structure Document where
  tree : Tree
  trailing : Bool
deriving Repr

/-- The end of the text. -/
def Growth.finish : Growth → Document
  | .value frames => ⟨breakValue true .unfinished .unfinished frames, false⟩
  | .firstItem frames => ⟨breakValue true .unfinished .unfinished (.array [] :: frames), false⟩
  | .afterItem items frames => ⟨breakItems .unfinished items frames, false⟩
  | .firstKey frames => ⟨breakKey (.cut .unfinished .unfinished) .unfinished [] frames, false⟩
  | .nextKey members frames =>
    ⟨breakKey (.cut .unfinished .unfinished) .unfinished members frames, false⟩
  | .colon members key frames =>
    ⟨breakValue true .unfinished .unfinished (.object members key :: frames), false⟩
  | .afterMember members frames => ⟨breakMembers .unfinished members frames, false⟩
  | .complete tree => ⟨tree, false⟩
  | .trailing tree => ⟨tree, true⟩
  | .stopped tree => ⟨tree, false⟩

/-- The document of a list of tokens. -/
def Document.ofTokens (tokens : List Token) : Document :=
  (tokens.foldl Growth.step (.value [])).finish

/-- The document of a text. -/
def Document.ofText (text : String) : Document := Document.ofTokens (tokens text.toList)

/-- The value of a shape that a text holds, or the first fault. -/
def readShape (s : Shape) (text : String) : Except Fault s.Content := do
  let document := Document.ofText text
  let value ← s.read .json document.tree
  if document.trailing then .error Fault.malformed else pure value

end CompactQuery.Json
