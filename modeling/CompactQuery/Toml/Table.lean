import CompactQuery.Tree.Basic

/-!
# TOML tables under construction

A document adds to tables that already exist, and what may be added depends on how a table came
about. No key is ever defined twice.

* **`Origin`** — how a table came about: written out under a header or as a value of its own,
  mentioned as the parent in a header, or implied by a dotted key.
* **`Entry`** — what a key stands for; **`Table`** — keys with their entries, in the order in which
  they were last put in place.
* **`Table.inside`**, **`Table.update`** — a change to the table at the end of a path, with tables
  made on the way.
* **`Table.define`** — a new key for a value.
* **`Entry.toTree`** — the finished table as a tree.
-/

namespace CompactQuery.Toml

/-- How a table came about. -/
inductive Origin where
  /-- It has a header, or is the whole document, or is written between braces. -/
  | written
  /-- A header names it as a parent of the table that it opens. -/
  | parent
  /-- A dotted key leads through it. -/
  | dotted
deriving Repr, DecidableEq

/-- What a key stands for. -/
inductive Entry where
  /-- A value, complete as it is. -/
  | value (tree : Tree)
  /-- A table that may grow. -/
  | table (origin : Origin) (entries : List (String × Entry))
  /-- Tables under one header in double brackets, the latest first. -/
  | repeated (tables : List (Origin × List (String × Entry)))
deriving Repr

/-- Keys with their entries. -/
structure Table where
  origin : Origin
  entries : List (String × Entry)
deriving Repr

namespace Table

/-- A table with nothing in it. -/
def empty (origin : Origin) : Table := ⟨origin, []⟩

/-- The entry of a key. -/
def find? (table : Table) (key : String) : Option Entry := table.entries.lookup key

/-- A new key, behind all others. -/
def append (table : Table) (key : String) (entry : Entry) : Table :=
  { table with entries := table.entries ++ [(key, entry)] }

/-- Another entry for a key that is there, in the same place. -/
def replace (table : Table) (key : String) (entry : Entry) : Table :=
  { table with
    entries := table.entries.map fun (k, e) => if k = key then (k, entry) else (k, e) }

/-- The table without a key. -/
def erase (table : Table) (key : String) : Table :=
  { table with entries := table.entries.filter (·.1 ≠ key) }

/-- The table as what a key stands for. -/
def toEntry (table : Table) : Entry := .table table.origin table.entries

/-- A change to the table at the end of a path, with what it yields, or `none` if the path or the
change is not allowed. Tables that the path needs are made on the way. A list of tables is entered
at its latest. A dotted key may not lead into a table that is written out. -/
def inside {α : Type} (viaDots : Bool) :
    List String → (Table → Option (α × Table)) → Table → Option (α × Table)
  | [], change, table => change table
  | key :: path, change, table =>
    match table.find? key with
    | none => do
      let made := empty (if viaDots then .dotted else .parent)
      let (a, child) ← inside viaDots path change made
      some (a, table.append key child.toEntry)
    | some (.value _) => none
    | some (.table origin entries) =>
      if viaDots ∧ origin = .written then none
      else do
        let (a, child) ← inside viaDots path change ⟨origin, entries⟩
        some (a, table.replace key child.toEntry)
    | some (.repeated []) => none
    | some (.repeated ((origin, entries) :: earlier)) => do
      let (a, latest) ← inside viaDots path change ⟨origin, entries⟩
      some (a, table.replace key (.repeated ((latest.origin, latest.entries) :: earlier)))

/-- A change that yields nothing but the changed table. -/
def update (viaDots : Bool) (path : List String) (change : Table → Option Table) (table : Table) :
    Option Table :=
  (inside viaDots path (fun target => (change target).map fun t => ((), t)) table).map (·.2)

/-- A new key for a value, at the end of a path of dotted parts. A key with dots has to end in a
table that dotted keys made, one without in any other. -/
def define (path : List String) (key : String) (tree : Tree) (table : Table) : Option Table :=
  update true path (fun target =>
    if (target.origin = .dotted) = path.isEmpty then none
    else if (target.find? key).isSome then none
    else some (target.append key (.value tree))) table

end Table

mutual

/-- The finished entry as a tree. -/
def Entry.toTree : Entry → Tree
  | .value tree => tree
  | .table _ entries => .object (Entry.toMembers entries) none
  | .repeated tables => .array (Entry.toItems tables).reverse none true

/-- The finished entries as members. -/
def Entry.toMembers : List (String × Entry) → List (Key × Tree)
  | [] => []
  | (key, entry) :: rest => (.name (.ok key), entry.toTree) :: Entry.toMembers rest

/-- The finished tables as items. -/
def Entry.toItems : List (Origin × List (String × Entry)) → List Tree
  | [] => []
  | (_, entries) :: rest => .object (Entry.toMembers entries) none :: Entry.toItems rest

end

/-- The finished table as a tree. -/
def Table.toTree (table : Table) : Tree := table.toEntry.toTree

end CompactQuery.Toml
