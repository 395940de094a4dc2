import CompactQuery.Proofs.Query.Run
import CompactQuery.Query.Segment

/-!
# Call order — only the order within one kind of clause counts

A caller builds a query by steps and may look at the compact form in between. How the calls for the
different kinds of clause are interleaved leaves no trace: not in the query at the end, and not in
the answers to the offers of conditions, refused ones included.

* **`Call`**, **`Reply`** — what a caller asks, and what it is told.
* **`Query.afterAll`**, **`Query.repliesTo`** — the query after a run of calls, and the replies to
  the calls for one kind of clause.
* **`stepsOf`** — the steps of a run of calls that add to one segment, in their order.
* **`offerReplies`** — the replies to a list of offers, computed from a chain alone.
* **`afterAll_ofTable`**, **`repliesTo_filter`** — query and replies in terms of `stepsOf`: what the
  order across kinds cannot change.
-/

namespace CompactQuery

/-! ## Calls and replies -/

/-- What a caller asks of a query: a step, or its compact form. -/
inductive Call where
  | perform (step : Step)
  | render (urlSafe : Bool)
deriving Repr, DecidableEq

/-- What the caller is told. -/
inductive Reply where
  | done
  | refused (fault : ChainFault)
  | rendered (text : String)
deriving Repr, DecidableEq

/-- The segment that a step adds to. -/
def Step.kind : Step → SegmentKind
  | .select .. => .fields
  | .join .. => .join
  | .restrict .. => .filter
  | .sortBy .. => .order
  | .limitTo .. => .limit
  | .groupBy .. => .groups

/-- The step that a call asks for, if it asks for one. -/
def Call.step? : Call → Option Step
  | .perform step => some step
  | .render _ => none

def Call.kind? (call : Call) : Option SegmentKind := call.step?.map Step.kind

namespace Query

/-- The query after a call. Looking at the compact form changes nothing. -/
def after (query : Query) : Call → Query
  | .perform step => query.perform step
  | .render _ => query

def reply (query : Query) : Call → Reply
  | .perform step =>
    match query.extend? step with
    | .ok _ => .done
    | .error fault => .refused fault
  | .render urlSafe => .rendered (query.render urlSafe)

def afterAll (query : Query) (calls : List Call) : Query := calls.foldl after query

/-- The replies to those calls of a run that add to one segment, in the order of the calls. -/
def repliesTo (kind : SegmentKind) : Query → List Call → List Reply
  | _, [] => []
  | query, call :: calls =>
    if call.kind? = some kind then query.reply call :: repliesTo kind (query.after call) calls
    else repliesTo kind (query.after call) calls

end Query

/-- The steps of a run of calls that add to one segment, in their order. -/
def stepsOf (kind : SegmentKind) (calls : List Call) : List Step :=
  (calls.filterMap Call.step?).filter (fun step => step.kind = kind)

/-! ## The query after a run of calls -/

namespace Query

theorem afterAll_eq_performAll (query : Query) (calls : List Call) :
    query.afterAll calls = query.performAll (calls.filterMap Call.step?) := by
  induction calls generalizing query with
  | nil => rfl
  | cons call calls ih =>
      cases call with
      | perform step => exact ih (query.perform step)
      | render urlSafe => exact ih query

/-- What a run contributes to one kind of clause is contributed by the steps of that kind. -/
theorem filterMap_eq_of_stepsOf {α : Type} (kind : SegmentKind) {f : Step → Option α}
    (hkind : ∀ step : Step, step.kind ≠ kind → f step = none) (calls : List Call) :
    (calls.filterMap Call.step?).filterMap f = (stepsOf kind calls).filterMap f := by
  rw [stepsOf, List.filterMap_filter]
  congr 1
  funext step
  by_cases h : step.kind = kind
  · simp [h]
  · simp [h, hkind step h]

/-- The last limit that a run of steps sets is the one that its last step of the kind sets. -/
theorem getLast?_filterMap_limit? (run : List Step) :
    (run.filterMap Step.limit?).getLast?
      = (run.filter (fun step => step.kind = .limit)).getLast?.bind Step.limit? := by
  induction run using List.reverseRecOn with
  | nil => rfl
  | append_singleton run step ih =>
      rw [List.filterMap_append, List.filter_append]
      -- only a limit is kept on either side
      cases step <;> simp [Step.kind, Step.limit?, ih]

/-- **The query after a run of calls on a bare table, kind by kind.** Each kind of clause is
determined by the steps of that kind alone, and the limit by the last one. -/
theorem afterAll_ofTable (table : String) (calls : List Call) :
    (ofTable table).afterAll calls =
      { table
        fields := (stepsOf .fields calls).filterMap Step.field?
        joins := (stepsOf .join calls).filterMap Step.join?
        conditions := linked ((stepsOf .filter calls).filterMap Step.condition?)
        order := (stepsOf .order calls).filterMap Step.sortKey?
        limit := (stepsOf .limit calls).getLast?.bind Step.limit?
        groups := (stepsOf .groups calls).filterMap Step.group? } := by
  rw [afterAll_eq_performAll, performAll_ofTable, ofSteps, getLast?_filterMap_limit?,
    filterMap_eq_of_stepsOf .fields, filterMap_eq_of_stepsOf .join, filterMap_eq_of_stepsOf .filter,
    filterMap_eq_of_stepsOf .order, filterMap_eq_of_stepsOf .groups]
  · rfl
  -- a step of another kind contributes nothing to this one
  all_goals
    intro step hstep
    cases step <;> simp [Step.kind, Step.field?, Step.join?, Step.condition?, Step.sortKey?,
      Step.group?] at hstep ⊢

end Query

/-! ## The replies to the offers -/

/-- The reply to an offer behind a chain. -/
def offerReply (chain : List Condition) (condition : Condition) : Reply :=
  match connectorFault? chain condition.connector with
  | none => .done
  | some fault => .refused fault

/-- The replies to offers that are made one after the other, the first behind the given chain. -/
def offerReplies : List Condition → List Condition → List Reply
  | _, [] => []
  | chain, condition :: offers =>
    offerReply chain condition :: offerReplies (extendChain chain condition) offers

namespace Query

/-- A call that is no offer leaves the filter as it was. -/
theorem conditions_after_of_kind_ne {query : Query} {call : Call}
    (h : call.kind? ≠ some .filter) : (query.after call).conditions = query.conditions := by
  cases call with
  | render urlSafe => rfl
  | perform step =>
      rw [after, perform_eq]
      cases step <;> first | rfl | exact absurd rfl h

/-- An offer is answered as the chain at hand demands. -/
theorem reply_restrict (query : Query) (left op right : String) (connector : Option String) :
    query.reply (.perform (.restrict left op right connector))
      = offerReply query.conditions { left, op, right, connector := given connector } := by
  cases h : connectorFault? query.conditions (given connector) with
  | none => simp [reply, offerReply, extend?_restrict_of_fits h, h]
  | some fault => simp [reply, offerReply, extend?_restrict_of_fault h, h]

/-- **The replies to the offers of a run depend on the offers alone.** Induction on the run: an
offer extends the chain, and any other call leaves it. -/
theorem repliesTo_filter (query : Query) (calls : List Call) :
    query.repliesTo .filter calls
      = offerReplies query.conditions ((stepsOf .filter calls).filterMap Step.condition?) := by
  induction calls generalizing query with
  | nil => rfl
  | cons call calls ih =>
      by_cases hkind : call.kind? = some .filter
      · -- only an offer is of this kind
        obtain ⟨left, op, right, connector, rfl⟩ :
            ∃ left op right connector, call = .perform (.restrict left op right connector) := by
          cases call with
          | render urlSafe => simp [Call.kind?, Call.step?] at hkind
          | perform step => cases step <;> simp [Call.kind?, Call.step?, Step.kind] at hkind ⊢
        rw [repliesTo, if_pos hkind, ih, reply_restrict, after, perform_restrict]
        rfl
      · have hoffers : stepsOf .filter (call :: calls) = stepsOf .filter calls := by
          cases call with
          | render urlSafe => rfl
          | perform step =>
              have hstep : step.kind ≠ .filter := fun h => hkind (by simp [Call.kind?, Call.step?, h])
              simp [stepsOf, Call.step?, hstep]
        rw [repliesTo, if_neg hkind, ih, conditions_after_of_kind_ne hkind, hoffers]

/-! ## Two runs with the same steps of each kind -/

/-- **The order of calls across kinds of clause leaves no trace.** Two runs of calls on the same
bare table, with looks at the compact form anywhere in between, that have the same steps of each
kind in the same order, of the limits only the same last one, build the same query, and the offers
of conditions are answered alike one by one. -/
theorem afterAll_congr_of_stepsOf (table : String) (calls others : List Call)
    (hsteps : ∀ kind, kind ≠ .limit → stepsOf kind calls = stepsOf kind others)
    (hlimit : (stepsOf .limit calls).getLast? = (stepsOf .limit others).getLast?) :
    let query := (ofTable table).afterAll calls
    let other := (ofTable table).afterAll others
    query = other ∧
      query.segments = other.segments ∧
      query.compact = other.compact ∧
      query.urlForm = other.urlForm ∧
      (∀ urlSafe, query.render urlSafe = other.render urlSafe) ∧
      ∀ k : Nat, ((ofTable table).repliesTo .filter calls)[k]?
        = ((ofTable table).repliesTo .filter others)[k]? := by
  intro query other
  have hquery : query = other := by
    simp only [query, other, afterAll_ofTable, hlimit, hsteps .fields (by decide),
      hsteps .join (by decide), hsteps .filter (by decide), hsteps .order (by decide),
      hsteps .groups (by decide)]
  have hreplies : (ofTable table).repliesTo .filter calls
      = (ofTable table).repliesTo .filter others := by
    rw [repliesTo_filter, repliesTo_filter, hsteps .filter (by decide)]
  refine ⟨hquery, ?_, ?_, ?_, ?_, ?_⟩
  · rw [hquery]
  · rw [hquery]
  · rw [hquery]
  · intro urlSafe; rw [hquery]
  · intro k; rw [hreplies]

/-- Calls in a mixed order: an offer refused before the one that is taken up, one refused behind it,
a limit that is replaced, and a look at the compact form. -/
def mixedCalls : List Call :=
  [.perform (.restrict "a" "=" "1" (some "and")), .render false, .perform (.groupBy "g"),
    .perform (.restrict "a" "=" "1" none), .perform (.limitTo 9 none),
    .perform (.restrict "b" "=" "2" (some "")), .perform (.limitTo 5 (some 2)),
    .perform (.select "f" (some "F"))]

/-- The same calls with the clauses in the order of the compact form. -/
def orderedCalls : List Call :=
  [.perform (.select "f" (some "F")), .perform (.restrict "a" "=" "1" (some "and")),
    .perform (.restrict "a" "=" "1" none), .render true, .perform (.restrict "b" "=" "2" (some "")),
    .perform (.limitTo 5 (some 2)), .perform (.groupBy "g")]

/-- Both runs build the same query, and answer the second offer alike. -/
theorem afterAll_mixedCalls :
    (∀ kind, kind ≠ .limit → stepsOf kind mixedCalls = stepsOf kind orderedCalls) ∧
      (stepsOf .limit mixedCalls).getLast? = (stepsOf .limit orderedCalls).getLast? ∧
      (ofTable "t").afterAll mixedCalls = (ofTable "t").afterAll orderedCalls ∧
      ((ofTable "t").repliesTo .filter mixedCalls)[1]?
        = ((ofTable "t").repliesTo .filter orderedCalls)[1]? := by
  have hsteps : ∀ kind, kind ≠ .limit → stepsOf kind mixedCalls = stepsOf kind orderedCalls := by
    intro kind h
    cases kind <;> first | rfl | exact absurd rfl h
  have hlimit : (stepsOf .limit mixedCalls).getLast? = (stepsOf .limit orderedCalls).getLast? := rfl
  have hall := afterAll_congr_of_stepsOf "t" mixedCalls orderedCalls hsteps hlimit
  exact ⟨hsteps, hlimit, hall.1, hall.2.2.2.2.2 1⟩

end Query

end CompactQuery
