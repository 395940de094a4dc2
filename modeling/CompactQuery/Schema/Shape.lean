import CompactQuery.Settings

/-!
# Shapes — what a text in JSON or TOML may hold

A shape says what a value looks like: a text, a number, a list of one shape, a record with named
slots. The ten kinds of value that the library reads are ten shapes (`Schema/Catalogue.lean`), and
readers and writers are functions of the shape, so each rule is written once.

* **`Shape`**, **`Slots`** — the shapes, and the slots of a record in their order.
* **`Shape.Content`** — the values of a shape: a `String`, a list, a tuple of the slots.
* **`Shape.absent`** — the value that stands for nothing, for the shapes that have one. A slot
  whose shape has one may be left out.
* **`Slots.Draft`** — a record that is being read: each slot filled or not yet.
-/

namespace CompactQuery

mutual

/-- What a value looks like. -/
inductive Shape where
  | text
  | flag
  /-- A natural number below 2^64. -/
  | count
  /-- One of the two forms of output, by its word. -/
  | form
  /-- A value or nothing. -/
  | optional (of : Shape)
  | list (of : Shape)
  /-- A record; the name is the one that messages use. -/
  | record (name : String) (slots : Slots)

/-- The slots of a record, in order, each with its key. -/
inductive Slots where
  | nil
  | cons (key : String) (shape : Shape) (rest : Slots)

end

mutual

/-- The values of a shape. -/
def Shape.Content : Shape → Type
  | .text => String
  | .flag => Bool
  | .count => UInt64
  | .form => OutputForm
  | .optional s => Option s.Content
  | .list s => List s.Content
  | .record _ slots => slots.Content

/-- The values of all slots. -/
def Slots.Content : Slots → Type
  | .nil => Unit
  | .cons _ s rest => s.Content × rest.Content

end

/-- A record that is being read: each slot has its value or none yet. -/
def Slots.Draft : Slots → Type
  | .nil => Unit
  | .cons _ s rest => Option s.Content × rest.Draft

/-- How many slots there are. -/
def Slots.size : Slots → Nat
  | .nil => 0
  | .cons _ _ rest => rest.size + 1

/-- A draft with nothing in it. -/
def Slots.blank : (slots : Slots) → slots.Draft
  | .nil => ()
  | .cons _ _ rest => (none, rest.blank)

mutual

/-- The value that stands for nothing. Texts and counts have none; a record has one if all its
slots do. -/
def Shape.absent : (s : Shape) → Option s.Content
  | .text => none
  | .flag => some false
  | .count => none
  | .form => some OutputForm.plain
  | .optional _ => some none
  | .list _ => some []
  | .record _ slots => slots.absent

/-- The record in which every slot is left out. -/
def Slots.absent : (slots : Slots) → Option slots.Content
  | .nil => some ()
  | .cons _ s rest =>
    match s.absent, rest.absent with
    | some value, some values => some (value, values)
    | _, _ => none

end

/-- The record that a draft amounts to, or the key of the first slot that may not be left out. -/
def Slots.complete? : (slots : Slots) → slots.Draft → Except String slots.Content
  | .nil, _ => .ok ()
  | .cons key s rest, (value, values) =>
    match value.or s.absent with
    | none => .error key
    | some value => (rest.complete? values).map fun values => (value, values)

end CompactQuery
