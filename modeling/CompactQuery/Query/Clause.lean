/-!
# Clauses — the parts of a query, each with its token in the compact form

A clause is kept as it was given; its `token` is the text it contributes to a segment. A part that
is optional counts as absent when it is empty (`given`), so an empty label, connector or direction
leaves no trace in a token.

* **`Field`** — `name` or `name:label`.
* **`Condition`** — `left|op|right`, after `connector|` if there is one. Joins and filters share it:
  a join relates two columns, a filter relates a column to a value.
* **`Join`** — the table and its conditions, with `||` between any two.
* **`SortKey`** — `field`, or `field:dir` for any direction at all.
* **`Limit`** — `count`, or `count:offset` for an offset other than zero.

Nothing is escaped: a part that holds one of the separators is written as it is.
-/

namespace CompactQuery

/-- An optional text, where the empty text counts as not given. -/
def given (text : Option String) : Option String := text.filter (· ≠ "")

/-- Between a name and its label, a field and its direction mark, a count and its offset. -/
def pairSeparator : String := ":"

/-- Between the parts of a condition. -/
def partSeparator : String := "|"

/-- Between the table and the conditions of a join, and between the conditions of a filter. -/
def conditionSeparator : String := "||"

/-- What stands for the direction of a sort key, whichever it is. -/
def directionMark : String := "dir"

/-- A column to select, perhaps under another name. -/
structure Field where
  name : String
  /-- The name it gets in the result. -/
  label : Option String := none
deriving Repr, DecidableEq

/-- The name, and the label after a colon if there is one. -/
def Field.token (field : Field) : String :=
  match given field.label with
  | some label => field.name ++ pairSeparator ++ label
  | none => field.name

/-- A comparison of two operands. The connector says how it is linked to the condition before it. -/
structure Condition where
  left : String
  op : String
  right : String
  connector : Option String := none
deriving Repr, DecidableEq

/-- The condition, linked by the given connector instead of the one it had. -/
def Condition.linkedBy (condition : Condition) (connector : String) : Condition :=
  { condition with connector := some connector }

/-- The operands around the operator, after the connector if there is one. -/
def Condition.token (condition : Condition) : String :=
  let comparison :=
    condition.left ++ partSeparator ++ condition.op ++ partSeparator ++ condition.right
  match given condition.connector with
  | some connector => connector ++ partSeparator ++ comparison
  | none => comparison

/-- A joined table with the conditions it is joined on, in the order given. Whether a condition has
a connector is not checked. -/
@[ext]
structure Join where
  table : String
  conditions : List Condition := []
deriving Repr, DecidableEq

/-- The table and its conditions, all between double bars. -/
def Join.token (join : Join) : String :=
  conditionSeparator.intercalate (join.table :: join.conditions.map Condition.token)

/-- A column to sort by. -/
structure SortKey where
  field : String
  direction : Option String := none
deriving Repr, DecidableEq

/-- The column, marked if it has a direction. The direction itself is not part of the token. -/
def SortKey.token (key : SortKey) : String :=
  match given key.direction with
  | some _ => key.field ++ pairSeparator ++ directionMark
  | none => key.field

/-- How many rows, and after how many others. -/
structure Limit where
  count : UInt64
  offset : Option UInt64 := none
deriving Repr, DecidableEq

/-- A number in decimal digits, none of them a leading zero. -/
def decimal (n : UInt64) : String := Nat.repr n.toNat

/-- The count, and the offset after a colon unless it is absent or zero. -/
def Limit.token (limit : Limit) : String :=
  match limit.offset.filter (· ≠ 0) with
  | some offset => decimal limit.count ++ pairSeparator ++ decimal offset
  | none => decimal limit.count

end CompactQuery
