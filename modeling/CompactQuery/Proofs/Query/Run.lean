import CompactQuery.Proofs.Query.Chain
import CompactQuery.Proofs.Query.Token
import Mathlib.Data.List.Induction

/-!
# Run — the query that a run of steps builds, read off the run

A step touches one kind of clause: it adds a clause at the end, sets the limit, or offers a
condition to the filter (`perform_eq`). So the query that any run builds on a bare table can be
read off the run itself, kind by kind, without following the states in between
(`performAll_ofTable`). What is claimed of runs is proved from this.

* **`Step.field?`**, …, **`Step.group?`** — the clause that a step contributes to its kind.
* **`Query.ofSteps`** — the query that a run amounts to.
* **`Query.Reachable`** — built from a bare table by some run.
* **`Query.stored`** — a query as the steps that describe it store it (`ofSteps_steps`).
* **`Query.Lawful`** — the rule on the connectors of the filter, and no optional text stored as the
  empty text. It holds of the reachable queries and of no others (`reachable_iff_lawful`).
-/

namespace CompactQuery

/-! ## What a step contributes

To each kind of clause a step contributes one clause or none. Optional texts pass through `given`
here, as they do when a step is performed. -/

namespace Step

def field? : Step → Option Field
  | .select name label => some { name, label := given label }
  | _ => none

def join? : Step → Option Join
  | .join table conditions => some { table, conditions }
  | _ => none

/-- The condition that a step offers to the filter, an empty connector read as none. -/
def condition? : Step → Option Condition
  | .restrict left op right connector => some { left, op, right, connector := given connector }
  | _ => none

def sortKey? : Step → Option SortKey
  | .sortBy field direction => some { field, direction := given direction }
  | _ => none

def limit? : Step → Option Limit
  | .limitTo count offset => some { count, offset }
  | _ => none

def group? : Step → Option String
  | .groupBy field => some field
  | _ => none

end Step

namespace Query

/-- **What one step does**, whichever it is: each kind of clause takes up what the step contributes
to it, and a kind the step contributes nothing to stays as it is. -/
theorem perform_eq (query : Query) (step : Step) :
    query.perform step =
      { table := query.table
        fields := query.fields ++ step.field?.toList
        joins := query.joins ++ step.join?.toList
        conditions := step.condition?.toList.foldl extendChain query.conditions
        order := query.order ++ step.sortKey?.toList
        limit := step.limit?.or query.limit
        groups := query.groups ++ step.group?.toList } := by
  cases step with
  | restrict left op right connector =>
      rw [perform_restrict]
      simp [Step.field?, Step.join?, Step.condition?, Step.sortKey?, Step.limit?, Step.group?]
  | select | join | sortBy | limitTo | groupBy =>
      simp [perform, extend?, select, join, sortBy, limitTo, groupBy, Step.field?, Step.join?,
        Step.condition?, Step.sortKey?, Step.limit?, Step.group?]

/-! ## What a run amounts to -/

/-- The query that a run of steps on a bare table amounts to. -/
def ofSteps (table : String) (run : List Step) : Query :=
  { table
    fields := run.filterMap Step.field?
    joins := run.filterMap Step.join?
    conditions := linked (run.filterMap Step.condition?)
    order := run.filterMap Step.sortKey?
    limit := (run.filterMap Step.limit?).getLast?
    groups := run.filterMap Step.group? }

theorem performAll_append (query : Query) (run more : List Step) :
    query.performAll (run ++ more) = (query.performAll run).performAll more :=
  List.foldl_append

theorem performAll_snoc (query : Query) (run : List Step) (step : Step) :
    query.performAll (run ++ [step]) = (query.performAll run).perform step := by
  rw [performAll_append]; rfl

/-- What a run amounts to grows by what its last step contributes. -/
theorem ofSteps_snoc (table : String) (run : List Step) (step : Step) :
    ofSteps table (run ++ [step]) = (ofSteps table run).perform step := by
  have hlast {α : Type} (f : Step → Option α) :
      (run ++ [step]).filterMap f = run.filterMap f ++ (f step).toList := by
    rw [List.filterMap_append]
    cases h : f step <;> simp [h]
  have hlimit (limits : List Limit) :
      (limits ++ step.limit?.toList).getLast? = step.limit?.or limits.getLast? := by
    cases step.limit? <;> simp
  rw [perform_eq]
  -- the filter takes the offer up where the chain of the run so far leaves off
  simp only [ofSteps, hlast, hlimit, linked_append]

/-- **The query that a run builds is what the run amounts to.** Induction on the run from its end,
one step at a time. -/
theorem performAll_ofTable (table : String) (run : List Step) :
    (ofTable table).performAll run = ofSteps table run := by
  induction run using List.reverseRecOn with
  | nil => rfl
  | append_singleton run step ih => rw [performAll_snoc, ih, ofSteps_snoc]

/-! ## Reachable queries -/

/-- A run of steps on a bare table builds the query. -/
def Reachable (query : Query) : Prop :=
  ∃ table run, (ofTable table).performAll run = query

/-- What the steps see to in every query they build. -/
structure Lawful (query : Query) : Prop where
  /-- The first condition of the filter has no connector. -/
  first_bare : ∀ c ∈ query.conditions.head?, c.connector = none
  /-- Every later condition has one that is not empty. -/
  later_joined : ∀ c ∈ query.conditions.tail, ∃ k, k ≠ "" ∧ c.connector = some k
  connectors_given : ∀ c ∈ query.conditions, c.connector ≠ some ""
  labels_given : ∀ f ∈ query.fields, f.label ≠ some ""
  directions_given : ∀ k ∈ query.order, k.direction ≠ some ""

/-- What a run amounts to is lawful: the filter is a chain, and every optional text went through
`given`. -/
theorem lawful_ofSteps (table : String) (run : List Step) : (ofSteps table run).Lawful := by
  have hgiven : ∀ c ∈ (ofSteps table run).conditions, c.connector ≠ some "" := by
    intro c hc
    -- every condition of the chain was offered, and its connector is what was given
    obtain ⟨step, _, hstep⟩ := List.mem_filterMap.mp (mem_of_mem_linked hc)
    cases step <;> simp only [Step.condition?, Option.some.injEq, reduceCtorEq] at hstep
    subst hstep
    exact given_ne_empty _
  refine ⟨fun c hc => connector_head_linked hc, ?_, hgiven, ?_, ?_⟩
  · intro c hc
    obtain ⟨k, hk⟩ := Option.isSome_iff_exists.mp (connector_tail_linked hc)
    refine ⟨k, ?_, hk⟩
    rintro rfl
    exact hgiven c (List.mem_of_mem_tail hc) hk
  · intro f hf
    obtain ⟨step, _, hstep⟩ := List.mem_filterMap.mp hf
    cases step <;> simp only [Step.field?, Option.some.injEq, reduceCtorEq] at hstep
    subst hstep
    exact given_ne_empty _
  · intro k hk
    obtain ⟨step, _, hstep⟩ := List.mem_filterMap.mp hk
    cases step <;> simp only [Step.sortKey?, Option.some.injEq, reduceCtorEq] at hstep
    subst hstep
    exact given_ne_empty _

theorem Reachable.lawful {query : Query} (h : query.Reachable) : query.Lawful := by
  obtain ⟨table, run, rfl⟩ := h
  rw [performAll_ofTable]
  exact lawful_ofSteps table run

/-! ## The steps of a query

A query given all at once amounts to steps, and these to the query as steps store it. -/

end Query

/-- The field with an empty label read as none. -/
def Field.stored (field : Field) : Field := { field with label := given field.label }

/-- The sort key with an empty direction read as none. -/
def SortKey.stored (key : SortKey) : SortKey := { key with direction := given key.direction }

namespace Query

/-- The query with its empty labels, filter connectors and directions read as none. -/
def stored (query : Query) : Query :=
  { query with
    fields := query.fields.map Field.stored
    conditions := query.conditions.map Condition.normal
    order := query.order.map SortKey.stored }

theorem filterMap_condition?_steps (query : Query) :
    query.steps.filterMap Step.condition? = query.stored.conditions := by
  simp [steps, stored, List.filterMap_append, List.filterMap_map, Function.comp_def,
    Step.condition?, Condition.normal]

/-- The steps of a query amount to the query as they store it, the filter cut down to a chain. -/
theorem ofSteps_steps (query : Query) :
    ofSteps query.table query.steps
      = { query.stored with conditions := linked query.stored.conditions } := by
  have hlimit : query.limit.toList.getLast? = query.limit := by cases query.limit <;> rfl
  rw [ofSteps, filterMap_condition?_steps]
  simpa [stored, steps, List.filterMap_append, List.filterMap_map, Function.comp_def, Step.field?,
    Step.join?, Step.sortKey?, Step.limit?, Step.group?, Field.stored, SortKey.stored] using hlimit

/-- No label, filter connector or direction is the empty text. -/
structure AllGiven (query : Query) : Prop where
  labels : ∀ f ∈ query.fields, f.label ≠ some ""
  connectors : ∀ c ∈ query.conditions, c.connector ≠ some ""
  directions : ∀ k ∈ query.order, k.direction ≠ some ""

/-- Storing changes nothing where no optional text is empty. -/
theorem AllGiven.stored_eq {query : Query} (h : query.AllGiven) : query.stored = query := by
  have hfields : query.fields.map Field.stored = query.fields.map id :=
    List.map_congr_left fun f hf => by rw [Field.stored, given_of_ne_empty (h.labels f hf), id]
  have hconditions : query.conditions.map Condition.normal = query.conditions.map id :=
    List.map_congr_left fun c hc => by
      rw [Condition.normal, given_of_ne_empty (h.connectors c hc), id]
  have horder : query.order.map SortKey.stored = query.order.map id :=
    List.map_congr_left fun k hk => by
      rw [SortKey.stored, given_of_ne_empty (h.directions k hk), id]
  rw [stored, hfields, hconditions, horder, List.map_id, List.map_id, List.map_id]

theorem Lawful.allGiven {query : Query} (h : query.Lawful) : query.AllGiven :=
  ⟨h.labels_given, h.connectors_given, h.directions_given⟩

/-- The steps that a lawful query amounts to amount to the query. -/
theorem Lawful.ofSteps_steps {query : Query} (hlawful : query.Lawful) :
    ofSteps query.table query.steps = query := by
  have hlinked : linked query.conditions = query.conditions := by
    refine linked_eq_self hlawful.first_bare fun c hc => ?_
    obtain ⟨k, _, hk⟩ := hlawful.later_joined c hc
    rw [hk, Option.isSome_some]
  -- storing changes nothing, and the filter is a chain already
  rw [Query.ofSteps_steps, hlawful.allGiven.stored_eq, hlinked]

/-- **Some run builds a query just if the query is lawful**: its own steps do. -/
theorem reachable_iff_lawful {query : Query} : query.Reachable ↔ query.Lawful := by
  constructor
  · exact Reachable.lawful
  · intro hlawful
    exact ⟨query.table, query.steps, by rw [performAll_ofTable, hlawful.ofSteps_steps]⟩

end Query

end CompactQuery
