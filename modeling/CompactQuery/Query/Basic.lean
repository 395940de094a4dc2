import CompactQuery.Query.Clause
import CompactQuery.Query.Event

/-!
# Queries — a table with its clauses, and the steps that build one

A query starts as a bare table and grows by steps, one clause each. All steps but one always
succeed. The exception is a condition of the filter: the first has to come without a connector and
every later one with a connector, and a step that breaks this rule leaves the query as it was.

* **`Query`** — the clauses, each kind in the order given.
* **`Query.select`**, **`join`**, **`restrict?`**, **`sortBy`**, **`limitTo`**, **`groupBy`** — the
  steps as functions; **`Step`** — the same as data; **`Query.extend?`** — from the one to the
  other.
* **`Query.perform`** — a step that is skipped if it fails; **`Query.performAll`** — a run of them.
* **`Query.report`** — the one event that a step reports, done or refused.
* **`Query.steps`**, **`Query.replay?`**, **`Query.replayEvents`** — a query given all at once,
  taken through the steps it amounts to.

Empty labels, directions and filter connectors are stored as absent. The connectors of a join are
neither checked nor changed.
-/

namespace CompactQuery

/-- A breach of the rule on the connectors of a filter. -/
inductive ChainFault where
  /-- The first condition has a connector. -/
  | unexpectedConnector (connector : String)
  /-- The condition at this place, not the first, has none. -/
  | missingConnector (index : Nat)
deriving Repr, DecidableEq

/-- The breach in words. -/
def ChainFault.message : ChainFault → String
  | .unexpectedConnector connector =>
    "No connector is allowed on the first where condition (got '" ++ connector ++ "')"
  | .missingConnector index => "Connector is required on where condition #" ++ Nat.repr index

/-- The event that reports the breach. -/
def ChainFault.event : ChainFault → Event
  | .unexpectedConnector connector => .connectorRejected connector
  | .missingConnector index => .connectorMissed index

/-- A table with its clauses. -/
@[ext]
structure Query where
  table : String
  fields : List Field := []
  joins : List Join := []
  /-- The filter. -/
  conditions : List Condition := []
  order : List SortKey := []
  limit : Option Limit := none
  groups : List String := []
deriving Repr, DecidableEq

namespace Query

/-! ## Steps as functions -/

/-- A bare table. -/
def ofTable (table : String) : Query := { table }

/-- Adds a column to select. A column may be selected more than once. -/
def select (query : Query) (name : String) (label : Option String) : Query :=
  { query with fields := query.fields ++ [{ name, label := given label }] }

/-- Adds a joined table. -/
def join (query : Query) (table : String) (conditions : List Condition) : Query :=
  { query with joins := query.joins ++ [{ table, conditions }] }

/-- Adds a condition to the filter, if its connector fits its place. -/
def restrict? (query : Query) (left op right : String) (connector : Option String) :
    Except ChainFault Query :=
  match query.conditions, given connector with
  | [], some connector => .error (.unexpectedConnector connector)
  | first :: rest, none => .error (.missingConnector (first :: rest).length)
  | conditions, connector =>
    .ok { query with conditions := conditions ++ [{ left, op, right, connector }] }

/-- Adds a column to sort by. -/
def sortBy (query : Query) (field : String) (direction : Option String) : Query :=
  { query with order := query.order ++ [{ field, direction := given direction }] }

/-- Sets the limit, in place of an earlier one. -/
def limitTo (query : Query) (count : UInt64) (offset : Option UInt64) : Query :=
  { query with limit := some { count, offset } }

/-- Adds a column to group by. -/
def groupBy (query : Query) (field : String) : Query :=
  { query with groups := query.groups ++ [field] }

end Query

/-! ## Steps as data -/

/-- One clause to add to a query. -/
inductive Step where
  | select (name : String) (label : Option String)
  | join (table : String) (conditions : List Condition)
  | restrict (left op right : String) (connector : Option String)
  | sortBy (field : String) (direction : Option String)
  | limitTo (count : UInt64) (offset : Option UInt64)
  | groupBy (field : String)
deriving Repr, DecidableEq

/-- The event that reports a step as done. -/
def Step.event : Step → Event
  | .select name label => .fieldAdded (Field.token { name, label := given label })
  | .join table conditions => .joinAdded (Join.token { table, conditions })
  | .restrict left op right connector =>
    .conditionAdded (Condition.token { left, op, right, connector := given connector })
  | .sortBy field direction => .sortKeyAdded (SortKey.token { field, direction := given direction })
  | .limitTo count offset => .limitSet (Limit.token { count, offset })
  | .groupBy field => .groupAdded field

namespace Query

/-- The query after a step, or why the step is refused. -/
def extend? (query : Query) : Step → Except ChainFault Query
  | .select name label => .ok (query.select name label)
  | .join table conditions => .ok (query.join table conditions)
  | .restrict left op right connector => query.restrict? left op right connector
  | .sortBy field direction => .ok (query.sortBy field direction)
  | .limitTo count offset => .ok (query.limitTo count offset)
  | .groupBy field => .ok (query.groupBy field)

/-- The query after a step, unchanged if the step is refused. -/
def perform (query : Query) (step : Step) : Query :=
  match query.extend? step with
  | .ok after => after
  | .error _ => query

/-- The query after a run of steps, each refused one skipped. -/
def performAll (query : Query) (steps : List Step) : Query := steps.foldl perform query

/-- The event that a step reports, done or refused. -/
def report (query : Query) (step : Step) : Event :=
  match query.extend? step with
  | .ok _ => step.event
  | .error fault => fault.event

/-- The events of a run of steps, one each. -/
def reportAll : Query → List Step → List Event
  | _, [] => []
  | query, step :: steps => query.report step :: (query.perform step).reportAll steps

/-! ## A query given all at once -/

/-- The query after a run of steps, or why the first refused one is refused. -/
def extendAll? : Query → List Step → Except ChainFault Query
  | query, [] => .ok query
  | query, step :: steps =>
    match query.extend? step with
    | .ok after => after.extendAll? steps
    | .error fault => .error fault

/-- The events of a run of steps that ends with the first refused one. -/
def extendAllEvents : Query → List Step → List Event
  | _, [] => []
  | query, step :: steps =>
    match query.extend? step with
    | .ok after => step.event :: after.extendAllEvents steps
    | .error fault => [fault.event]

/-- The steps that a query given all at once amounts to: fields, joins, conditions, sort keys, the
limit, groups. -/
def steps (query : Query) : List Step :=
  query.fields.map (fun f => .select f.name f.label)
    ++ query.joins.map (fun j => .join j.table j.conditions)
    ++ query.conditions.map (fun c => .restrict c.left c.op c.right c.connector)
    ++ query.order.map (fun k => .sortBy k.field k.direction)
    ++ query.limit.toList.map (fun l => .limitTo l.count l.offset)
    ++ query.groups.map .groupBy

/-- The query as its steps build it on the bare table. -/
def replay? (query : Query) : Except ChainFault Query :=
  (ofTable query.table).extendAll? query.steps

/-- The events that building the query reports. -/
def replayEvents (query : Query) : List Event := (ofTable query.table).extendAllEvents query.steps

end Query

end CompactQuery
