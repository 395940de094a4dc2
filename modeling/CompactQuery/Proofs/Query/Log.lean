import CompactQuery.Proofs.Query.Growth
import CompactQuery.Proofs.Query.Replay

/-!
# Log — the segments of a query read back from the events of its steps

Every step reports one event, whether it is done or refused, and the event of a step that is done
shows the token of its clause under a message of its own for each kind. So a log keeps up with the
query: it shows the tokens of all clauses, those of each kind in their order, and the last limit
that it shows is the one in force. With the name of the table, which no record shows, that is all
that the segments are made of.

* **`valuesUnder`** — the values that a log shows under a message; **`Segment.ofLog`** — the
  segments that a log tells of.
* **`Query.LoggedBy`** — the log shows the clauses of the query. One step keeps it
  (`LoggedBy.perform`), so a run does (`LoggedBy.performAll`), and the segments are read off it
  (`LoggedBy.segments_eq_ofLog`).
* **`Query.additions`** — the events of a description that is replayed without a refusal.
* **`Query.log_keeps_up`** — what the log of a run and the log of a replay tell.
-/

namespace CompactQuery

/-! ## Reading a log -/

/-- The message of the events that add to the segments of a kind. -/
def SegmentKind.notice? : SegmentKind → Option String
  | .table => none
  | .join => some "add join"
  | .fields => some "add field"
  | .filter => some "add where"
  | .order => some "add order"
  | .limit => some "set limit"
  | .groups => some "add group"

/-- The values that a log shows under a message, in the order of the log. -/
def valuesUnder (message : String) (log : List LogRecord) : List String :=
  (log.filter (·.message = message)).flatMap (·.values.map Prod.snd)

/-- The segments that a log tells of, behind the table. -/
def Segment.ofLog (table : String) (log : List LogRecord) : List Segment :=
  [⟨.table, table⟩]
    ++ (valuesUnder "add join" log).map (Segment.mk .join)
    ++ Segment.ofItems .fields itemSeparator (valuesUnder "add field" log)
    ++ Segment.ofItems .filter conditionSeparator (valuesUnder "add where" log)
    ++ (valuesUnder "add order" log).map (Segment.mk .order)
    ++ (valuesUnder "set limit" log).getLast?.toList.map (Segment.mk .limit)
    ++ Segment.ofItems .groups itemSeparator (valuesUnder "add group" log)

/-- The record of a step on a query: a trace of the clause if the step is done, and the breach for
debugging if it is refused, which only an offer to the filter can be. -/
def LogRecord.Reports (record : LogRecord) (query : Query) (step : Step) : Prop :=
  record.source = collecting ∧
    match query.extend? step with
    | .ok _ => record.level = .trace ∧ step.kind.notice? = some record.message ∧
        record.values.map Prod.snd = [step.token]
    | .error fault => record.level = .debug ∧ step.kind = .filter ∧ record = fault.event.record

theorem valuesUnder_append (message : String) (log more : List LogRecord) :
    valuesUnder message (log ++ more) = valuesUnder message log ++ valuesUnder message more := by
  unfold valuesUnder
  rw [List.filter_append, List.flatMap_append]

theorem Event.values_ne_nil {event : Event} {kind : SegmentKind}
    (h : kind.notice? = some event.record.message) : event.record.values ≠ [] := by
  cases event <;> cases kind <;> simp [SegmentKind.notice?, record] at h ⊢

/-- Something is shown under the message of a kind just if there is an event with that message. -/
theorem valuesUnder_ne_nil_iff {kind : SegmentKind} {message : String} {events : List Event}
    (h : kind.notice? = some message) :
    valuesUnder message (events.map Event.record) ≠ [] ↔
      ∃ record ∈ events.map Event.record, record.message = message := by
  induction events with
  | nil => simp [valuesUnder]
  | cons event events ih =>
      have hone : valuesUnder message [event.record] ≠ [] ↔ event.record.message = message := by
        by_cases hmessage : event.record.message = message
        · subst hmessage
          simp [valuesUnder, Event.values_ne_nil h]
        · simp [valuesUnder, hmessage]
      have hcons : valuesUnder message (event.record :: events.map Event.record)
          = valuesUnder message [event.record] ++ valuesUnder message (events.map Event.record) :=
        valuesUnder_append message [event.record] _
      rw [List.map_cons, List.exists_mem_cons_iff, ← hone, ← ih, hcons, ne_eq,
        List.append_eq_nil_iff, Classical.not_and_iff_not_or_not]

/-! ## What the events of a step show

The event of a step that is done is a trace of its clause, under the message of its kind. The event
of a breach is for debugging, under a message of its own. -/

theorem Step.record_event (step : Step) :
    step.event.record.source = LogRecord.collecting ∧ step.event.record.level = .trace ∧
      step.kind.notice? = some step.event.record.message ∧
      step.event.record.values.map Prod.snd = [step.token] := by
  cases step <;> exact ⟨rfl, rfl, rfl, rfl⟩

theorem ChainFault.record_event (fault : ChainFault) :
    fault.event.record.source = LogRecord.collecting ∧ fault.event.record.level = .debug := by
  cases fault <;> exact ⟨rfl, rfl⟩

/-- What a step that is done shows, message by message. -/
theorem valuesUnder_step (step : Step) :
    valuesUnder "add join" [step.event.record] = step.join?.toList.map Join.token ∧
    valuesUnder "add field" [step.event.record] = step.field?.toList.map Field.token ∧
    valuesUnder "add where" [step.event.record] = step.condition?.toList.map Condition.token ∧
    valuesUnder "add order" [step.event.record] = step.sortKey?.toList.map SortKey.token ∧
    valuesUnder "set limit" [step.event.record] = step.limit?.toList.map Limit.token ∧
    valuesUnder "add group" [step.event.record] = step.group?.toList := by
  cases step <;> exact ⟨rfl, rfl, rfl, rfl, rfl, rfl⟩

/-- A breach shows nothing under the messages for clauses. -/
theorem valuesUnder_fault (fault : ChainFault) {kind : SegmentKind} {message : String}
    (h : kind.notice? = some message) : valuesUnder message [fault.event.record] = [] := by
  cases fault <;> cases kind <;> simp [SegmentKind.notice?] at h <;> subst h <;> rfl

/-! ## The log keeps up -/

namespace Query

/-- The log shows the clauses of the query, those of each kind in their order, and the limit as the
last one. -/
structure LoggedBy (query : Query) (log : List LogRecord) : Prop where
  joins : valuesUnder "add join" log = query.joins.map Join.token
  fields : valuesUnder "add field" log = query.fields.map Field.token
  conditions : valuesUnder "add where" log = query.conditions.map Condition.token
  order : valuesUnder "add order" log = query.order.map SortKey.token
  limit : (valuesUnder "set limit" log).getLast? = query.limit.map Limit.token
  groups : valuesUnder "add group" log = query.groups

theorem perform_of_done {query after : Query} {step : Step} (h : query.extend? step = .ok after) :
    query.perform step = after := by
  rw [perform, h]

theorem report_of_done {query after : Query} {step : Step} (h : query.extend? step = .ok after) :
    query.report step = step.event := by
  rw [report, h]

theorem report_of_refused {query : Query} {step : Step} {fault : ChainFault}
    (h : query.extend? step = .error fault) : query.report step = fault.event := by
  rw [report, h]

theorem loggedBy_ofTable (table : String) : (ofTable table).LoggedBy [] :=
  ⟨rfl, rfl, rfl, rfl, rfl, rfl⟩

section

variable {query : Query} {log : List LogRecord}

/-- A step and its record keep the log up with the query: what the record shows is the clause that
the query takes up, and nothing if the step is refused. -/
theorem LoggedBy.perform (h : query.LoggedBy log) (step : Step) :
    (query.perform step).LoggedBy (log ++ [(query.report step).record]) := by
  cases hextend : query.extend? step with
  | ok after =>
      obtain ⟨hjoin, hfield, hcondition, hkey, hlimit, hgroup⟩ := valuesUnder_step step
      rw [report_of_done hextend, perform_of_done hextend, eq_of_extend? hextend]
      refine ⟨?_, ?_, ?_, ?_, ?_, ?_⟩
      · rw [valuesUnder_append, h.joins, hjoin, List.map_append]
      · rw [valuesUnder_append, h.fields, hfield, List.map_append]
      · rw [valuesUnder_append, h.conditions, hcondition, List.map_append]
      · rw [valuesUnder_append, h.order, hkey, List.map_append]
      · -- a limit that is set is the last one shown, and otherwise the one before stays the last
        rw [valuesUnder_append, List.getLast?_append, h.limit, hlimit]
        cases step.limit? <;> rfl
      · rw [valuesUnder_append, h.groups, hgroup]
  | error fault =>
      have hsame : ∀ (kind : SegmentKind) (message : String), kind.notice? = some message →
          valuesUnder message (log ++ [fault.event.record]) = valuesUnder message log := by
        intro kind message hmessage
        rw [valuesUnder_append, valuesUnder_fault fault hmessage, List.append_nil]
      rw [report_of_refused hextend, perform_of_refused hextend]
      refine ⟨(hsame .join _ rfl).trans h.joins, (hsame .fields _ rfl).trans h.fields,
        (hsame .filter _ rfl).trans h.conditions, (hsame .order _ rfl).trans h.order, ?_,
        (hsame .groups _ rfl).trans h.groups⟩
      rw [hsame .limit _ rfl, h.limit]

/-- A run keeps the log up. Induction on the run, with the state and the log so far open. -/
theorem LoggedBy.performAll (h : query.LoggedBy log) (run : List Step) :
    (query.performAll run).LoggedBy (log ++ (query.reportAll run).map Event.record) := by
  induction run generalizing query log with
  | nil =>
      show query.LoggedBy (log ++ [])
      rwa [List.append_nil]
  | cons step run ih =>
      have hrest := ih (h.perform step)
      rw [List.append_assoc, List.singleton_append] at hrest
      exact hrest

theorem LoggedBy.segments_eq_ofLog (h : query.LoggedBy log) :
    query.segments = Segment.ofLog query.table log := by
  have hlimit : query.limit.toList.map (fun limit => (⟨.limit, limit.token⟩ : Segment))
      = (query.limit.map Limit.token).toList.map (Segment.mk .limit) := by
    cases query.limit <;> rfl
  unfold segments Segment.ofLog
  rw [h.joins, h.fields, h.conditions, h.order, h.limit, h.groups, List.map_map, List.map_map,
    hlimit]
  rfl

/-- A kind has no body just if the log shows nothing under its message. -/
theorem LoggedBy.bodies_eq_nil_iff (h : query.LoggedBy log) {kind : SegmentKind} {message : String}
    (hmessage : kind.notice? = some message) :
    query.bodies kind = [] ↔ valuesUnder message log = [] := by
  cases kind with
  | table => exact nomatch hmessage
  | join => cases hmessage; rw [h.joins]; rfl
  | fields => cases hmessage; rw [h.fields]; exact joinedItems_eq_nil
  | filter => cases hmessage; rw [h.conditions]; exact joinedItems_eq_nil
  | order => cases hmessage; rw [h.order]; rfl
  | limit =>
      cases hmessage
      have hnone : valuesUnder "set limit" log = [] ↔ query.limit.map Limit.token = none := by
        rw [← h.limit, List.getLast?_eq_none_iff]
      rw [hnone]
      cases hlimit : query.limit <;> simp [bodies, hlimit]
  | groups => cases hmessage; rw [h.groups]; exact joinedItems_eq_nil

theorem exists_kind_iff (kind : SegmentKind) :
    (∃ segment ∈ query.segments, segment.kind = kind) ↔ query.bodies kind ≠ [] := by
  rw [bodies_eq, ne_eq, List.map_eq_nil_iff, List.filter_eq_nil_iff]
  simp

end

/-! ## One event for each step -/

theorem length_reportAll (query : Query) (run : List Step) :
    (query.reportAll run).length = run.length := by
  induction run generalizing query with
  | nil => rfl
  | cons step run ih => exact congrArg (· + 1) (ih (query.perform step))

theorem reportAll_append (query : Query) (run more : List Step) :
    query.reportAll (run ++ more)
      = query.reportAll run ++ (query.performAll run).reportAll more := by
  induction run generalizing query with
  | nil => rfl
  | cons step run ih => exact congrArg (query.report step :: ·) (ih (query.perform step))

theorem getElem?_reportAll (query : Query) (before : List Step) (step : Step) (after : List Step) :
    (query.reportAll (before ++ step :: after))[before.length]?
      = some ((query.performAll before).report step) := by
  rw [reportAll_append, ← length_reportAll query before, List.getElem?_append_right (Nat.le_refl _),
    Nat.sub_self]
  rfl

/-- Only an offer to the filter is ever refused. -/
theorem kind_of_refused {query : Query} {step : Step} {fault : ChainFault}
    (h : query.extend? step = .error fault) : step.kind = .filter := by
  cases step with
  | restrict => rfl
  | select | join | sortBy | limitTo | groupBy => exact nomatch h

theorem reports_report (query : Query) (step : Step) :
    (query.report step).record.Reports query step := by
  unfold LogRecord.Reports
  cases hextend : query.extend? step with
  | ok after =>
      rw [report_of_done hextend]
      exact step.record_event
  | error fault =>
      obtain ⟨hsource, hlevel⟩ := fault.record_event
      rw [report_of_refused hextend]
      exact ⟨hsource, hlevel, kind_of_refused hextend, rfl⟩

/-! ## The events of a replay -/

/-- The events of a description whose steps are all done. -/
def additions (query : Query) : List Event :=
  query.fields.map (fun field => .fieldAdded field.token)
    ++ query.joins.map (fun join => .joinAdded join.token)
    ++ query.conditions.map (fun condition => .conditionAdded condition.token)
    ++ query.order.map (fun key => .sortKeyAdded key.token)
    ++ query.limit.toList.map (fun limit => .limitSet limit.token)
    ++ query.groups.map .groupAdded

/-- The steps report the clauses as they were given: an empty text leaves no trace in a token,
stored or not. -/
theorem additions_eq (query : Query) : query.additions = query.steps.map Step.event := by
  have hfields : (fun field : Field => Event.fieldAdded field.token)
      = Step.event ∘ fun field => .select field.name field.label :=
    funext fun field => congrArg Event.fieldAdded field.token_stored.symm
  have hconditions : (fun condition : Condition => Event.conditionAdded condition.token)
      = Step.event ∘ fun c => .restrict c.left c.op c.right c.connector :=
    funext fun condition => congrArg Event.conditionAdded condition.token_normal.symm
  have horder : (fun key : SortKey => Event.sortKeyAdded key.token)
      = Step.event ∘ fun key => .sortBy key.field key.direction :=
    funext fun key => congrArg Event.sortKeyAdded key.token_stored.symm
  unfold additions steps
  rw [hfields, hconditions, horder]
  simp only [List.map_append, List.map_map]
  rfl

section

variable {query after : Query} {run : List Step}

/-- A run that is not stopped performs all its steps and reports each as done. -/
theorem reportAll_of_extendAll? (h : query.extendAll? run = .ok after) :
    query.performAll run = after ∧ query.reportAll run = run.map Step.event := by
  induction run generalizing query with
  | nil =>
      cases h
      exact ⟨rfl, rfl⟩
  | cons step run ih =>
      cases hextend : query.extend? step with
      | error fault =>
          rw [extendAll?, hextend] at h
          cases h
      | ok next =>
          rw [extendAll?, hextend] at h
          obtain ⟨hall, hevents⟩ := ih h
          refine ⟨?_, ?_⟩
          · show (query.perform step).performAll run = after
            rw [perform_of_done hextend, hall]
          · rw [reportAll, perform_of_done hextend, report_of_done hextend, hevents, List.map_cons]

/-- What is reported before a run can be stopped. -/
theorem extendAllEvents_append (h : query.extendAll? run = .ok after) (more : List Step) :
    query.extendAllEvents (run ++ more) = run.map Step.event ++ after.extendAllEvents more := by
  induction run generalizing query with
  | nil =>
      cases h
      rfl
  | cons step run ih =>
      cases hextend : query.extend? step with
      | error fault =>
          rw [extendAll?, hextend] at h
          cases h
      | ok next =>
          rw [extendAll?, hextend] at h
          rw [List.cons_append, extendAllEvents, hextend]
          exact congrArg (step.event :: ·) (ih h)

end

/-- A replay that succeeds reports every clause, kind after kind. -/
theorem replayEvents_of_ok {query built : Query} (h : query.replay? = .ok built) :
    query.replayEvents = query.additions ∧ built.LoggedBy (query.additions.map Event.record) := by
  obtain ⟨hbuilt, hevents⟩ := reportAll_of_extendAll? h
  have hlogged := (loggedBy_ofTable query.table).performAll query.steps
  rw [List.nil_append, hbuilt, hevents, ← additions_eq] at hlogged
  refine ⟨?_, hlogged⟩
  have happend := extendAllEvents_append h []
  rw [List.append_nil] at happend
  rw [replayEvents, happend, extendAllEvents, List.append_nil, additions_eq]

/-- The part of a description that a replay takes up before it comes to a condition: fields, joins
and the conditions before that one. -/
def upTo (query : Query) (before : List Condition) : Query :=
  { table := query.table, fields := query.fields, joins := query.joins, conditions := before }

/-- A replay that fails reports the clauses up to the first condition that does not fit, and the
breach of this one at the end. -/
theorem replayEvents_of_error {query : Query} {fault : ChainFault}
    (h : query.replay? = .error fault) :
    ∃ before condition after, query.conditions = before ++ condition :: after ∧
      WellLinked before ∧ connectorFault? before (given condition.connector) = some fault ∧
      query.replayEvents = (query.upTo before).additions ++ [fault.event] := by
  obtain ⟨before, condition, after, hconditions, hbefore, hfault⟩ := exists_of_replay?_eq_error h
  refine ⟨before, condition, after, hconditions, hbefore, hfault, ?_⟩
  have htaken : (query.upTo before).replay? = .ok (query.upTo before).stored :=
    replay?_eq_ok_iff.mpr ⟨hbefore, rfl⟩
  have hsteps : ∃ rest, query.steps = (query.upTo before).steps
      ++ .restrict condition.left condition.op condition.right condition.connector :: rest := by
    unfold steps
    rw [hconditions]
    simp [upTo]
  obtain ⟨rest, hsteps⟩ := hsteps
  -- the condition meets the stored ones, of which there are as many
  have hrefused : (query.upTo before).stored.extend?
      (.restrict condition.left condition.op condition.right condition.connector)
        = .error fault := by
    refine extend?_restrict_of_fault ?_
    show connectorFault? (before.map Condition.normal) (given condition.connector) = some fault
    rw [connectorFault?_map, hfault]
  rw [replayEvents, hsteps]
  refine (extendAllEvents_append htaken _).trans ?_
  rw [extendAllEvents, hrefused, additions_eq]

/-- **The log keeps up with the query.** In a run of steps on a bare table every step reports one
event, at its place in the log: a trace of its clause if it is done and the breach for debugging if
it is refused. The segments of the query are those that the log tells of, and a kind has one just if
the log has its message. In a replay the clauses are reported kind after kind; the log tells of what
is built, and if the replay fails it ends with the breach of the first condition that does not
fit. -/
theorem log_keeps_up :
    (∀ (table : String) (run : List Step),
      let log := ((ofTable table).reportAll run).map Event.record
      let built := (ofTable table).performAll run
      log.length = run.length ∧
      (∀ before step after, run = before ++ step :: after →
        ∃ record, log[before.length]? = some record ∧
          record.Reports ((ofTable table).performAll before) step) ∧
      built.segments = Segment.ofLog table log ∧
      ∀ kind message, SegmentKind.notice? kind = some message →
        ((∃ segment ∈ built.segments, segment.kind = kind) ↔
          ∃ record ∈ log, record.message = message)) ∧
    ∀ query : Query,
      match query.replay? with
      | .ok built => query.replayEvents = query.additions ∧
          built.segments = Segment.ofLog query.table (query.replayEvents.map Event.record)
      | .error fault =>
          ∃ before condition after, query.conditions = before ++ condition :: after ∧
            WellLinked before ∧ connectorFault? before (given condition.connector) = some fault ∧
            query.replayEvents = (query.upTo before).additions ++ [fault.event] ∧
            fault.event.record.level = .debug := by
  refine ⟨fun table run => ?_, fun query => ?_⟩
  · intro log built
    have hlogged : built.LoggedBy log := (loggedBy_ofTable table).performAll run
    have htable : built.table = table := by
      show ((ofTable table).performAll run).table = table
      rw [performAll_ofTable, ofSteps]
    refine ⟨?_, ?_, ?_, ?_⟩
    · show (((ofTable table).reportAll run).map Event.record).length = run.length
      rw [List.length_map, length_reportAll]
    · rintro before step after hrun
      refine ⟨_, ?_, reports_report _ step⟩
      show (((ofTable table).reportAll run).map Event.record)[before.length]? = _
      rw [hrun, List.getElem?_map, getElem?_reportAll]
      rfl
    · rw [hlogged.segments_eq_ofLog, htable]
    · intro kind message hmessage
      rw [exists_kind_iff, ne_eq, hlogged.bodies_eq_nil_iff hmessage, ← ne_eq,
        valuesUnder_ne_nil_iff hmessage]
  · cases hreplay : query.replay? with
    | ok built =>
        obtain ⟨hevents, hlogged⟩ := replayEvents_of_ok hreplay
        have htable : built.table = query.table := by
          rw [(replay?_eq_ok_iff.mp hreplay).2]
          rfl
        refine ⟨hevents, ?_⟩
        rw [hevents, hlogged.segments_eq_ofLog, htable]
    | error fault =>
        obtain ⟨before, condition, after, hconditions, hbefore, hfault, hevents⟩ :=
          replayEvents_of_error hreplay
        exact ⟨before, condition, after, hconditions, hbefore, hfault, hevents,
          fault.record_event.2⟩

/-- A run with an offer that is refused and a limit that is replaced. -/
def loggedRun : List Step :=
  [.select "a" (some "x"), .restrict "a" "=" "1" none, .restrict "b" "=" "2" none,
    .limitTo 5 none, .restrict "c" "=" "3" (some "or"), .limitTo 7 (some 2)]

/-- The third record of its log is for debugging, and the log tells of four segments. -/
theorem log_keeps_up_loggedRun :
    let log := ((ofTable "t").reportAll loggedRun).map Event.record
    let built := (ofTable "t").performAll loggedRun
    (∃ record, log[2]? = some record ∧ record.Reports ((ofTable "t").performAll (loggedRun.take 2))
      (.restrict "b" "=" "2" none)) ∧
    log.map LogRecord.level = [.trace, .trace, .debug, .trace, .trace, .trace] ∧
    built.segments = Segment.ofLog "t" log ∧
    Segment.ofLog "t" log =
      [⟨.table, "t"⟩, ⟨.fields, "a:x"⟩, ⟨.filter, "a|=|1||or|c|=|3"⟩, ⟨.limit, "7:2"⟩] ∧
    ((∃ segment ∈ built.segments, segment.kind = .limit) ↔
      ∃ record ∈ log, record.message = "set limit") ∧
    (∃ record ∈ log, record.message = "set limit") ∧
    (¬ ∃ segment ∈ built.segments, segment.kind = .groups) := by
  intro log built
  obtain ⟨_, hreports, hsegments, hkinds⟩ := log_keeps_up.1 "t" loggedRun
  refine ⟨hreports (loggedRun.take 2) _ (loggedRun.drop 3) rfl, by decide, hsegments, by decide,
    hkinds .limit _ rfl, by decide, ?_⟩
  rw [hkinds .groups _ rfl]
  decide

end Query

end CompactQuery
