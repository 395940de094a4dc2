import CompactQuery.Schema.Fault
import CompactQuery.Schema.Shape

/-!
# Reading — from a tree to a value of a shape

A reader walks the tree in the order of the text and stops at the first thing that it cannot accept,
be it a defect of the text or a value that does not have its shape.

* **`Shape.read`** — the value of a shape that a tree holds, or the first fault.
* **`Slots.readItems`** — a record written as a sequence of its slots.
* **`Slots.readMember`**, **`readMembers`** — a record written as a map. A key that names no slot is
  skipped with its value; a key given twice is a fault as soon as it is met again.
* **`Format`** — the two formats differ in two places only: what a sequence may hold beyond the
  slots of a record, and how the form of output is written as a map.
-/

namespace CompactQuery

/-- The format of the text that a tree was made from. -/
inductive Format where
  | json
  | toml
deriving Repr, DecidableEq

namespace Fault

/-- A text that breaks the grammar. -/
def malformed : Fault := .defect .malformed

/-- Nothing if there is no defect. -/
def ofEnding : Option Defect → Except Fault Unit
  | none => .ok ()
  | some d => .error (.defect d)

/-- A defect as a fault. -/
def lift {α : Type} : Except Defect α → Except Fault α
  | .ok a => .ok a
  | .error d => .error (.defect d)

end Fault

namespace Tree

/-- The fault of a tree that holds something else than is wanted. -/
def unlike {α : Type} (expected : Expected) (tree : Tree) : Except Fault α :=
  match tree.found with
  | .ok found => .error (.mismatch (.wrongType found expected))
  | .error d => .error (.defect d)

/-- The text that a tree holds. -/
def readText : Tree → Except Fault String
  | .text used => Fault.lift used
  | tree => tree.unlike .text

/-- The truth value that a tree holds. -/
def readFlag : Tree → Except Fault Bool
  | .flag b => .ok b
  | tree => tree.unlike .flag

/-- The count that a tree holds. -/
def readCount : Tree → Except Fault UInt64
  | .number (.ok (.natural n)) => .ok n
  | .number (.ok (.negative i)) => .error (.mismatch (.negativeCount i))
  | tree => tree.unlike .count

/-- Passes over a tree whose value is not wanted. -/
def skip (tree : Tree) : Except Fault Unit := Fault.ofEnding tree.skipDefect

/-! ## The form of output -/

/-- The form that a word stands for. -/
def formOfWord (word : String) : Except Fault OutputForm :=
  match OutputForm.ofWord? word with
  | some form => .ok form
  | none => .error (.mismatch (.unknownForm word))

/-- The form that a key names. -/
def formOfKey (key : Key) : Except Fault OutputForm := do
  formOfWord (← Fault.lift key.read)

/-- A null value, or a fault. -/
def readUnit : Tree → Except Fault Unit
  | .null => .ok ()
  | tree => tree.unlike .unit

/-- The form in JSON: its word, or a map of the word to null and nothing else. A value of any other
kind breaks the grammar. -/
def readFormJson : Tree → Except Fault OutputForm
  | .text used => do formOfWord (← Fault.lift used)
  | .broken true used _ => .error (.defect used)
  | .object ((key, value) :: rest) ending => do
    let form ← formOfKey key
    readUnit value
    if rest.isEmpty then Fault.ofEnding ending else .error Fault.malformed
    pure form
  | .object [] (some d) => .error (.defect d)
  | _ => .error Fault.malformed

/-- What a message calls the value of a member that ought to be an empty table. -/
def tomlName : Tree → String
  | .text _ => "string"
  | .number (.ok (.float _)) => "float"
  | .number _ => "integer"
  | .flag _ => "boolean"
  | _ => "datetime"

/-- An empty table or array, or a fault. -/
def readEmpty : Tree → Except Fault Unit
  | .object [] _ => .ok ()
  | .array [] _ _ => .ok ()
  | .object .. => .error (.mismatch .notEmpty)
  | .array _ _ false => .error (.mismatch .notEmpty)
  | .array _ _ true => .error (.mismatch .notEmptyList)
  | tree => .error (.mismatch (.noTable tree.tomlName))

/-- The form in TOML: its word, or a table of the word to an empty table and nothing else. -/
def readFormToml : Tree → Except Fault OutputForm
  | .text used => do formOfWord (← Fault.lift used)
  | .object [] _ => .error (.mismatch .noMember)
  | .object [(key, value)] _ => do
    let form ← formOfKey key
    readEmpty value
    pure form
  | .object _ _ => .error (.mismatch .manyMembers)
  | _ => .error (.mismatch .noAlternative)

/-- The form of output that a tree holds. -/
def readForm (format : Format) (tree : Tree) : Except Fault OutputForm :=
  match format with
  | .json => tree.readFormJson
  | .toml => tree.readFormToml

/-! ## Lists and records -/

/-- All items by one reader, up to the first fault. -/
def readAll {α : Type} (read : Tree → Except Fault α) : List Tree → Except Fault (List α)
  | [] => .ok []
  | item :: rest => do
    let value ← read item
    let values ← readAll read rest
    pure (value :: values)

/-- All members into a draft. `put` stores the value of a key, or is `none` for a key that names no
slot; the value of such a key is skipped. -/
def readMembers {δ : Type} (put : String → Tree → δ → Option (Except Fault δ)) :
    List (Key × Tree) → δ → Except Fault δ
  | [], draft => .ok draft
  | (key, value) :: rest, draft => do
    let name ← Fault.lift key.read
    let draft ← match put name value draft with
      | some result => result
      | none => do
        value.skip
        pure draft
    readMembers put rest draft

end Tree

/-- The record of a draft whose text was a map. -/
def Slots.ofMap (slots : Slots) (draft : slots.Draft) : Except Fault slots.Content :=
  match slots.complete? draft with
  | .ok value => .ok value
  | .error key => .error (.mismatch (.missingKey key))

/-- The record of a draft whose text was a sequence of so many items. -/
def Slots.ofSequence (slots : Slots) (name : String) (length : Nat) (draft : slots.Draft) :
    Except Fault slots.Content :=
  match slots.complete? draft with
  | .ok value => .ok value
  | .error _ => .error (.mismatch (.tooShort length name slots.size))

/-- What a sequence may hold after the slots of a record: nothing in JSON, anything in TOML. -/
def Format.checkSurplus : Format → List Tree → Except Fault Unit
  | .json, _ :: _ => .error Fault.malformed
  | _, _ => .ok ()

mutual

/-- The value of a shape that a tree holds, or the first fault in the order of the text. -/
def Shape.read (format : Format) : (s : Shape) → Tree → Except Fault s.Content
  | .text, tree => tree.readText
  | .flag, tree => tree.readFlag
  | .count, tree => tree.readCount
  | .form, tree => tree.readForm format
  | .optional s, tree =>
    match tree with
    | .null => .ok none
    | tree => do
      let value ← s.read format tree
      pure (some value)
  | .list s, tree =>
    match tree with
    | .array items ending _ => do
      let values ← Tree.readAll (fun item => s.read format item) items
      Fault.ofEnding ending
      pure values
    | tree => tree.unlike .sequence
  | .record name slots, tree =>
    match tree with
    | .array items ending _ => do
      let (draft, surplus) ← slots.readItems format items
      format.checkSurplus surplus
      Fault.ofEnding ending
      slots.ofSequence name items.length draft
    | .object members ending => do
      let put := fun key value draft => slots.readMember format key value draft
      let draft ← Tree.readMembers put members slots.blank
      Fault.ofEnding ending
      slots.ofMap draft
    | .moment => slots.ofMap slots.blank
    | tree => tree.unlike (.record name)
termination_by structural s => s

/-- The first items as the slots in their order, with the items that are left. -/
def Slots.readItems (format : Format) :
    (slots : Slots) → List Tree → Except Fault (slots.Draft × List Tree)
  | .nil, items => .ok ((), items)
  | .cons _ _ rest, [] => .ok ((none, rest.blank), [])
  | .cons _ s rest, item :: items => do
    let value ← s.read format item
    let (values, surplus) ← rest.readItems format items
    pure ((some value, values), surplus)
termination_by structural slots => slots

/-- A member into the slot that its key names, or `none` if it names none. A slot that is filled
already is a fault, whatever the value. -/
def Slots.readMember (format : Format) :
    (slots : Slots) → String → Tree → slots.Draft → Option (Except Fault slots.Draft)
  | .nil, _, _, _ => none
  | .cons slot s rest, key, tree, (value, values) =>
    if slot = key then
      match value with
      | some _ => some (.error (.mismatch (.duplicateKey key)))
      | none => some ((s.read format tree).map fun value => (some value, values))
    else (rest.readMember format key tree values).map (·.map fun values => (value, values))
termination_by structural slots => slots

end

end CompactQuery
