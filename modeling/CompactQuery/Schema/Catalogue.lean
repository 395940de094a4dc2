import CompactQuery.Query.Basic
import CompactQuery.Schema.Shape

/-!
# The shapes of the library's values

Each kind of value that a text in JSON or TOML can hold is `Shaped`: it has a shape, and it is the
same thing as the values of that shape, seen by name instead of by place. The keys are part of the
formats.
-/

namespace CompactQuery

/-- Mapping back what was mapped changes nothing. -/
theorem map_map_cancel {α β : Type} {f : α → β} {g : β → α} (h : ∀ a, g (f a) = a) (l : List α) :
    List.map g (List.map f l) = l := by
  rw [List.map_map, show g ∘ f = id from funext h, List.map_id]

/-- A type whose values are the values of a shape. -/
class Shaped (α : Type) where
  shape : Shape
  ofContent : shape.Content → α
  toContent : α → shape.Content
  ofContent_toContent : ∀ a, ofContent (toContent a) = a

namespace Field

/-- A field as a record. -/
def shape : Shape :=
  .record "Field" (.cons "name" .text (.cons "alias" (.optional .text) .nil))

/-- A field from the slots of its record. -/
def ofContent : shape.Content → Field
  | (name, label, ()) => { name, label }

/-- The slots of a field's record. -/
def toContent (field : Field) : shape.Content := (field.name, field.label, ())

instance : Shaped Field := ⟨shape, ofContent, toContent, fun _ => rfl⟩

end Field

namespace Condition

/-- A condition from the slots of its record, whichever keys they have. -/
def ofSlots : String × String × String × Option String × Unit → Condition
  | (left, op, right, connector, ()) => { left, op, right, connector }

/-- The slots of a condition's record. -/
def toSlots (condition : Condition) : String × String × String × Option String × Unit :=
  (condition.left, condition.op, condition.right, condition.connector, ())

/-- A condition of a join, as a record. -/
def joinShape : Shape :=
  .record "JoinCondition"
    (.cons "left" .text (.cons "op" .text (.cons "right" .text
      (.cons "connector" (.optional .text) .nil))))

/-- A condition of a filter, as a record. -/
def filterShape : Shape :=
  .record "WhereCondition"
    (.cons "field" .text (.cons "op" .text (.cons "value" .text
      (.cons "connector" (.optional .text) .nil))))

end Condition

/-- A condition as it stands in a join. -/
structure JoinCondition where
  condition : Condition
deriving Repr, DecidableEq

/-- A condition as it stands in a filter. -/
structure FilterCondition where
  condition : Condition
deriving Repr, DecidableEq

instance : Shaped JoinCondition :=
  ⟨Condition.joinShape, fun slots => ⟨.ofSlots slots⟩, fun c => c.condition.toSlots, fun _ => rfl⟩

instance : Shaped FilterCondition :=
  ⟨Condition.filterShape, fun slots => ⟨.ofSlots slots⟩, fun c => c.condition.toSlots, fun _ => rfl⟩

namespace Join

/-- A join as a record. -/
def shape : Shape :=
  .record "Join" (.cons "table" .text (.cons "on" (.list Condition.joinShape) .nil))

/-- A join from the slots of its record. -/
def ofContent : shape.Content → Join
  | (table, conditions, ()) => { table, conditions := List.map Condition.ofSlots conditions }

/-- The slots of a join's record. -/
def toContent (join : Join) : shape.Content :=
  (join.table, List.map Condition.toSlots join.conditions, ())

theorem ofContent_toContent (join : Join) : ofContent join.toContent = join :=
  Join.ext rfl (map_map_cancel (fun _ => rfl) _)

instance : Shaped Join := ⟨shape, ofContent, toContent, ofContent_toContent⟩

end Join

namespace SortKey

/-- A sort key as a record. -/
def shape : Shape :=
  .record "OrderBy" (.cons "field" .text (.cons "direction" (.optional .text) .nil))

/-- A sort key from the slots of its record. -/
def ofContent : shape.Content → SortKey
  | (field, direction, ()) => { field, direction }

/-- The slots of a sort key's record. -/
def toContent (key : SortKey) : shape.Content := (key.field, key.direction, ())

instance : Shaped SortKey := ⟨shape, ofContent, toContent, fun _ => rfl⟩

end SortKey

namespace Limit

/-- A limit as a record. -/
def shape : Shape :=
  .record "Limit" (.cons "count" .count (.cons "offset" (.optional .count) .nil))

/-- A limit from the slots of its record. -/
def ofContent : shape.Content → Limit
  | (count, offset, ()) => { count, offset }

/-- The slots of a limit's record. -/
def toContent (limit : Limit) : shape.Content := (limit.count, limit.offset, ())

instance : Shaped Limit := ⟨shape, ofContent, toContent, fun _ => rfl⟩

end Limit

namespace Query

/-- A query as a record. -/
def shape : Shape :=
  .record "Query"
    (.cons "table" .text (.cons "fields" (.list Field.shape) (.cons "joins" (.list Join.shape)
      (.cons "where" (.list Condition.filterShape) (.cons "order" (.list SortKey.shape)
        (.cons "limit" (.optional Limit.shape) (.cons "group" (.list .text) .nil)))))))

/-- A query from the slots of its record. -/
def ofContent : shape.Content → Query
  | (table, fields, joins, conditions, order, limit, groups, ()) =>
    { table
      fields := List.map Field.ofContent fields
      joins := List.map Join.ofContent joins
      conditions := List.map Condition.ofSlots conditions
      order := List.map SortKey.ofContent order
      limit := Option.map Limit.ofContent limit
      groups }

/-- The slots of a query's record. -/
def toContent (query : Query) : shape.Content :=
  (query.table, List.map Field.toContent query.fields, List.map Join.toContent query.joins,
    List.map Condition.toSlots query.conditions, List.map SortKey.toContent query.order,
    Option.map Limit.toContent query.limit, query.groups, ())

theorem ofContent_toContent (query : Query) : ofContent query.toContent = query :=
  Query.ext rfl (map_map_cancel (fun _ => rfl) _) (map_map_cancel Join.ofContent_toContent _)
    (map_map_cancel (fun _ => rfl) _) (map_map_cancel (fun _ => rfl) _)
    (by cases query with | mk _ _ _ _ _ limit _ => cases limit <;> rfl) rfl

instance : Shaped Query := ⟨shape, ofContent, toContent, ofContent_toContent⟩

end Query

instance : Shaped OutputForm := ⟨.form, id, id, fun _ => rfl⟩

namespace OutputSettings

/-- The settings for the output, as a record. -/
def shape : Shape :=
  .record "OutputConfig" (.cons "url_safe" .flag (.cons "format" .form .nil))

/-- The settings for the output from the slots of their record. -/
def ofContent : shape.Content → OutputSettings
  | (urlSafe, form, ()) => { urlSafe, form }

/-- The slots of the record of the settings for the output. -/
def toContent (settings : OutputSettings) : shape.Content :=
  (settings.urlSafe, settings.form, ())

instance : Shaped OutputSettings := ⟨shape, ofContent, toContent, fun _ => rfl⟩

end OutputSettings

namespace Settings

/-- Settings as a record. -/
def shape : Shape := .record "Config" (.cons "output" OutputSettings.shape .nil)

/-- Settings from the slots of their record. -/
def ofContent : shape.Content → Settings
  | (output, ()) => { output := .ofContent output }

/-- The slots of the record of settings. -/
def toContent (settings : Settings) : shape.Content := (settings.output.toContent, ())

instance : Shaped Settings := ⟨shape, ofContent, toContent, fun _ => rfl⟩

end Settings

end CompactQuery
