import CompactQuery.Proofs.Query.Run
import CompactQuery.Query.Segment

/-!
# Replay — a query given all at once, built clause by clause

A query that is given all at once need not be one that steps can build: optional texts may be empty,
and its filter may have any connectors. Replaying it stores empty texts as absent and stops at the
first condition whose connector does not fit its place. Tokens read an empty text as absent as well,
so what a replayed query renders is what the clauses render as they were given.

* **`refusal?`** — the breach at which a list of offers stops, behind a chain.
* **`Query.extendAll?_eq`** — a run that stops at the first refused step, in terms of the offers in
  it. Induction on the run: a step that offers nothing succeeds and leaves the chain.
* **`WellLinked`** — the connectors fit their places, empty ones read as absent.
* **`Query.segments_spelled`** — the segments of a query, each with its tokens.
* **`Query.replay?_eq`** — what a replay gives: the query as steps store it, or the first breach.
* **`Query.replay?_exact`** — when a replay succeeds, what it builds, and where it stops otherwise.
-/

namespace CompactQuery

/-! ## Offers up to the first refused one -/

/-- The breach of the first offer that does not continue the chain before it. -/
def refusal? : List Condition → List Condition → Option ChainFault
  | _, [] => none
  | chain, condition :: offers =>
    (connectorFault? chain (given condition.connector)).or (refusal? (chain ++ [condition]) offers)

namespace Query

/-- A step that offers no condition succeeds and leaves the filter. -/
theorem extend?_of_no_offer (query : Query) {step : Step} (h : step.condition? = none) :
    query.extend? step = .ok (query.perform step) ∧
      (query.perform step).conditions = query.conditions := by
  cases step with
  | restrict left op right connector => simp [Step.condition?] at h
  | select | join | sortBy | limitTo | groupBy => exact ⟨rfl, rfl⟩

/-- **A run stops at the first offer that is refused**, with the breach that it is, and otherwise
all its steps are performed. -/
theorem extendAll?_eq (query : Query) (run : List Step) :
    query.extendAll? run =
      match refusal? query.conditions (run.filterMap Step.condition?) with
      | none => .ok (query.performAll run)
      | some fault => .error fault := by
  induction run generalizing query with
  | nil => rfl
  | cons step run ih =>
      have hperform : query.performAll (step :: run) = (query.perform step).performAll run := rfl
      cases hoffer : step.condition? with
      | none =>
          obtain ⟨hextend, hchain⟩ := extend?_of_no_offer query hoffer
          rw [extendAll?, hextend, List.filterMap_cons_none hoffer, hperform]
          simp only
          rw [ih, hchain]
      | some condition =>
          cases step with
          | select | join | sortBy | limitTo | groupBy => simp [Step.condition?] at hoffer
          | restrict left op right connector =>
              simp only [Step.condition?, Option.some.injEq] at hoffer
              subst hoffer
              have hoffers : (Step.restrict left op right connector :: run).filterMap Step.condition?
                  = ⟨left, op, right, given connector⟩ :: run.filterMap Step.condition? := rfl
              rw [hoffers, refusal?, given_given, hperform, extendAll?]
              cases hfault : connectorFault? query.conditions (given connector) with
              | none =>
                  rw [extend?_restrict_of_fits hfault, perform_restrict, extendChain_of_fits hfault]
                  simp only [ih, Option.none_or]
              | some fault =>
                  rw [extend?_restrict_of_fault hfault]
                  rfl

end Query

/-! ## Connectors that fit their places -/

/-- The first condition has no connector or the empty one, and every later one has a connector that
is not empty. -/
structure WellLinked (conditions : List Condition) : Prop where
  first : ∀ c ∈ conditions.head?, c.connector = none ∨ c.connector = some ""
  later : ∀ c ∈ conditions.tail, ∃ k, k ≠ "" ∧ c.connector = some k

theorem given_eq_none_iff {text : Option String} :
    given text = none ↔ text = none ∨ text = some "" := by
  cases text with
  | none => simp [given]
  | some t => by_cases h : t = "" <;> simp [given, h]

theorem given_ne_none_iff {text : Option String} :
    given text ≠ none ↔ ∃ t, t ≠ "" ∧ text = some t := by
  rw [Option.ne_none_iff_exists']
  simp only [given_eq_some_iff, and_comm]

/-- The same with `given`, which reads an empty connector as none. -/
theorem wellLinked_iff {conditions : List Condition} :
    WellLinked conditions ↔ (∀ c ∈ conditions.head?, given c.connector = none) ∧
      ∀ c ∈ conditions.tail, given c.connector ≠ none := by
  simp only [given_eq_none_iff, given_ne_none_iff]
  exact ⟨fun h => ⟨h.first, h.later⟩, fun h => ⟨h.1, h.2⟩⟩

theorem wellLinked_nil : WellLinked [] := ⟨by simp, by simp⟩

theorem wellLinked_map_normal {conditions : List Condition} :
    WellLinked (conditions.map Condition.normal) ↔ WellLinked conditions := by
  rw [wellLinked_iff, wellLinked_iff]
  cases conditions <;> simp [Condition.normal]

/-- With their connectors read by `given`, well-linked conditions are a chain. -/
theorem WellLinked.linked_map_normal {conditions : List Condition} (h : WellLinked conditions) :
    linked (conditions.map Condition.normal) = conditions.map Condition.normal := by
  obtain ⟨hfirst, hlater⟩ := wellLinked_iff.mp h
  cases conditions with
  | nil => rfl
  | cons first rest =>
      refine linked_eq_self ?_ ?_
      · simpa [Condition.normal] using hfirst
      · simpa [Condition.normal, Option.isSome_iff_ne_none] using hlater

/-- One more condition behind well-linked ones has to continue their chain. -/
theorem wellLinked_snoc {conditions : List Condition} {condition : Condition} :
    WellLinked (conditions ++ [condition]) ↔
      WellLinked conditions ∧ connectorFault? conditions (given condition.connector) = none := by
  rw [wellLinked_iff, wellLinked_iff]
  cases conditions with
  | nil => cases h : given condition.connector <;> simp [connectorFault?, h]
  | cons first rest =>
      -- the new condition is a later one
      have hfits : connectorFault? (first :: rest) (given condition.connector) = none ↔
          given condition.connector ≠ none := by
        cases given condition.connector <;> simp [connectorFault?]
      rw [hfits]
      simp only [List.cons_append, List.head?_cons, List.tail_cons, List.forall_mem_append,
        List.forall_mem_singleton, and_assoc]

theorem WellLinked.of_append {conditions more : List Condition}
    (h : WellLinked (conditions ++ more)) : WellLinked conditions := by
  induction more using List.reverseRecOn with
  | nil => simpa using h
  | append_singleton more condition ih =>
      rw [← List.append_assoc] at h
      exact ih (wellLinked_snoc.mp h).1

/-- **Nothing is refused just if all connectors fit.** -/
theorem refusal?_eq_none_iff {chain offers : List Condition} (hchain : WellLinked chain) :
    refusal? chain offers = none ↔ WellLinked (chain ++ offers) := by
  induction offers generalizing chain with
  | nil => simpa [refusal?] using hchain
  | cons condition offers ih =>
      have hassoc : chain ++ condition :: offers = (chain ++ [condition]) ++ offers := by simp
      rw [refusal?, Option.or_eq_none_iff, hassoc]
      constructor
      · rintro ⟨hfits, hrest⟩
        exact (ih (wellLinked_snoc.mpr ⟨hchain, hfits⟩)).mp hrest
      · intro h
        have hsnoc := h.of_append
        exact ⟨(wellLinked_snoc.mp hsnoc).2, (ih hsnoc).mpr h⟩

/-- **What is refused is the first offer that does not fit.** -/
theorem exists_of_refusal? {chain offers : List Condition} {fault : ChainFault}
    (hchain : WellLinked chain) (h : refusal? chain offers = some fault) :
    ∃ before condition after, offers = before ++ condition :: after ∧
      WellLinked (chain ++ before) ∧
      connectorFault? (chain ++ before) (given condition.connector) = some fault := by
  induction offers generalizing chain with
  | nil => simp [refusal?] at h
  | cons condition offers ih =>
      rw [refusal?] at h
      cases hfault : connectorFault? chain (given condition.connector) with
      | some found =>
          rw [hfault, Option.some_or, Option.some.injEq] at h
          subst h
          exact ⟨[], condition, offers, rfl, by simpa using hchain, by simpa using hfault⟩
      | none =>
          rw [hfault, Option.none_or] at h
          obtain ⟨before, next, after, rfl, hbefore, hnext⟩ :=
            ih (wellLinked_snoc.mpr ⟨hchain, hfault⟩) h
          rw [List.append_assoc, List.singleton_append] at hbefore hnext
          exact ⟨condition :: before, next, after, rfl, hbefore, hnext⟩

/-! ## Replaying a query -/

@[simp] theorem Field.token_stored (field : Field) : field.stored.token = field.token := by
  simp [token, stored]

@[simp] theorem SortKey.token_stored (key : SortKey) : key.stored.token = key.token := by
  simp [token, stored]

namespace Query

/-- **Storing changes no segment**: the tokens read empty texts as absent on their own. -/
theorem segments_stored (query : Query) : query.stored.segments = query.segments := by
  simp [segments, stored, Function.comp_def]

theorem ofItems_map {α : Type} (kind : SegmentKind) (separator : String) (token : α → String)
    (items : List α) :
    Segment.ofItems kind separator (items.map token) =
      if items = [] then [] else [⟨kind, separator.intercalate (items.map token)⟩] := by
  cases items <;> rfl

/-- The segments are the tokens of the clauses: one for each join, sort key and limit, and all
fields, conditions and groups between separators. -/
theorem segments_spelled (query : Query) :
    query.segments =
      [⟨.table, query.table⟩]
        ++ query.joins.map (fun join => ⟨.join, join.token⟩)
        ++ (if query.fields = [] then []
            else [⟨.fields, ",".intercalate (query.fields.map Field.token)⟩])
        ++ (if query.conditions = [] then []
            else [⟨.filter, "||".intercalate (query.conditions.map Condition.token)⟩])
        ++ query.order.map (fun key => ⟨.order, key.token⟩)
        ++ query.limit.elim [] (fun limit => [⟨.limit, limit.token⟩])
        ++ (if query.groups = [] then [] else [⟨.groups, ",".intercalate query.groups⟩]) := by
  have hgroups := ofItems_map .groups itemSeparator id query.groups
  rw [List.map_id] at hgroups
  rw [segments, ofItems_map, ofItems_map, hgroups]
  cases query.limit <;> rfl

theorem Lawful.wellLinked {query : Query} (h : query.Lawful) : WellLinked query.conditions :=
  ⟨fun c hc => Or.inl (h.first_bare c hc), h.later_joined⟩

/-- What a replay gives, in terms of the conditions as they are stored. -/
theorem replay?_eq (query : Query) :
    query.replay? =
      match refusal? [] query.stored.conditions with
      | none => .ok query.stored
      | some fault => .error fault := by
  have hrun := extendAll?_eq (ofTable query.table) query.steps
  rw [filterMap_condition?_steps, performAll_ofTable, ofSteps_steps] at hrun
  rw [replay?, hrun]
  cases hrefusal : refusal? [] query.stored.conditions with
  | some fault => simp only [ofTable, hrefusal]
  | none =>
      -- nothing is refused, so the stored conditions are a chain
      have hwell := (refusal?_eq_none_iff wellLinked_nil).mp hrefusal
      have hlinked : linked query.stored.conditions = query.stored.conditions :=
        (wellLinked_map_normal.mp hwell).linked_map_normal
      simp only [ofTable, hrefusal, hlinked]

theorem replay?_eq_ok_iff {query built : Query} :
    query.replay? = .ok built ↔ WellLinked query.conditions ∧ built = query.stored := by
  have hnone : refusal? [] query.stored.conditions = none ↔ WellLinked query.conditions :=
    (refusal?_eq_none_iff wellLinked_nil).trans wellLinked_map_normal
  rw [replay?_eq, ← hnone]
  cases refusal? [] query.stored.conditions <;> simp [eq_comm]

/-- A query that steps can build is its own replay. -/
theorem Reachable.replay?_eq_ok {query : Query} (h : query.Reachable) :
    query.replay? = .ok query :=
  replay?_eq_ok_iff.mpr ⟨h.lawful.wellLinked, h.lawful.allGiven.stored_eq.symm⟩

/-- A replay that fails stops at the first condition that does not fit. -/
theorem exists_of_replay?_eq_error {query : Query} {fault : ChainFault}
    (h : query.replay? = .error fault) :
    ∃ before condition after, query.conditions = before ++ condition :: after ∧
      WellLinked before ∧ connectorFault? before (given condition.connector) = some fault := by
  have hrefusal : refusal? [] query.stored.conditions = some fault := by
    rw [replay?_eq] at h
    cases hfound : refusal? [] query.stored.conditions <;> simp_all
  obtain ⟨taken, offer, later, hsplit, htaken, hoffer⟩ :=
    exists_of_refusal? wellLinked_nil hrefusal
  -- the offers are the conditions with their connectors read by `given`
  obtain ⟨before, others, hconditions, rfl, hothers⟩ := List.map_eq_append_iff.mp hsplit
  obtain ⟨condition, after, rfl, rfl, rfl⟩ := List.map_eq_cons_iff.mp hothers
  refine ⟨before, condition, after, hconditions, wellLinked_map_normal.mp htaken, ?_⟩
  have hnormal : given condition.normal.connector = given condition.connector := given_given _
  rwa [List.nil_append, hnormal, connectorFault?_map] at hoffer

/-- **A replay is exact.** It succeeds just if the connectors of the filter fit their places. Then it
builds the query as it was given, but for empty texts stored as absent, with the segments that the
given clauses have; without such texts, and so for every query that steps can build, it builds the
query itself. Otherwise it stops at the first condition that does not fit: with the connector of
that condition if it is the first of all, with its place if it is a later one. -/
theorem replay?_exact (query : Query) :
    ((∃ built, query.replay? = .ok built) ↔ WellLinked query.conditions) ∧
    (∀ built, query.replay? = .ok built →
      built = query.stored ∧ built.segments = query.segments ∧
      built.segments =
        [⟨.table, query.table⟩]
          ++ query.joins.map (fun join => ⟨.join, join.token⟩)
          ++ (if query.fields = [] then []
              else [⟨.fields, ",".intercalate (query.fields.map Field.token)⟩])
          ++ (if query.conditions = [] then []
              else [⟨.filter, "||".intercalate (query.conditions.map Condition.token)⟩])
          ++ query.order.map (fun key => ⟨.order, key.token⟩)
          ++ query.limit.elim [] (fun limit => [⟨.limit, limit.token⟩])
          ++ (if query.groups = [] then [] else [⟨.groups, ",".intercalate query.groups⟩])) ∧
    (WellLinked query.conditions → query.AllGiven → query.replay? = .ok query) ∧
    (query.Reachable → query.replay? = .ok query) ∧
    (∀ fault, query.replay? = .error fault →
      ∃ before condition after, query.conditions = before ++ condition :: after ∧
        WellLinked before ∧
        ((before = [] ∧
            ∃ k, k ≠ "" ∧ condition.connector = some k ∧ fault = .unexpectedConnector k) ∨
          (before ≠ [] ∧ (condition.connector = none ∨ condition.connector = some "") ∧
            fault = .missingConnector before.length))) := by
  refine ⟨?_, ?_, ?_, ?_, ?_⟩
  · simp only [replay?_eq_ok_iff, exists_and_left, exists_eq, and_true]
  · intro built h
    rw [(replay?_eq_ok_iff.mp h).2]
    exact ⟨rfl, query.segments_stored, query.segments_stored.trans query.segments_spelled⟩
  · intro hwell hgiven
    exact replay?_eq_ok_iff.mpr ⟨hwell, hgiven.stored_eq.symm⟩
  · exact Reachable.replay?_eq_ok
  · intro fault h
    obtain ⟨before, condition, after, hconditions, hbefore, hfault⟩ :=
      exists_of_replay?_eq_error h
    refine ⟨before, condition, after, hconditions, hbefore, ?_⟩
    rcases connectorFault?_eq_some_iff.mp hfault with ⟨hnil, k, hk, rfl⟩ | ⟨hne, hnone, rfl⟩
    · obtain ⟨hconnector, hk⟩ := given_eq_some_iff.mp hk
      exact Or.inl ⟨hnil, k, hk, hconnector, rfl⟩
    · exact Or.inr ⟨hne, given_eq_none_iff.mp hnone, rfl⟩

/-- A description with an empty label, an empty direction, an empty connector in its join and one at
the head of its filter. -/
def described : Query :=
  { table := "t"
    fields := [{ name := "a", label := some "" }]
    joins := [{ table := "u", conditions := [⟨"x", "=", "y", some ""⟩] }]
    conditions := [⟨"a", "=", "1", some ""⟩, ⟨"b", "=", "2", some "or"⟩]
    order := [{ field := "a", direction := some "" }]
    limit := some { count := 3, offset := some 0 } }

/-- The same with a third condition whose connector is empty. -/
def misdescribed : Query :=
  { described with conditions := described.conditions ++ [⟨"c", "=", "3", some ""⟩] }

/-- The one is built without the empty texts outside its join, the other stops at its third
condition. -/
theorem replay?_described :
    described.replay? = .ok described.stored ∧
      described.stored.segments =
        [⟨.table, "t"⟩, ⟨.join, "u||x|=|y"⟩, ⟨.fields, "a"⟩, ⟨.filter, "a|=|1||or|b|=|2"⟩,
          ⟨.order, "a"⟩, ⟨.limit, "3"⟩] ∧
      described.stored.segments = described.segments ∧ described.stored ≠ described ∧
      misdescribed.replay? = .error (.missingConnector 2) ∧ ¬ WellLinked misdescribed.conditions := by
  have hok : described.replay? = .ok described.stored := by decide
  have herror : misdescribed.replay? = .error (.missingConnector 2) := by decide
  obtain ⟨_, hsegments, hspelled⟩ := (replay?_exact described).2.1 _ hok
  refine ⟨hok, hspelled.trans (by decide), hsegments, by decide, herror, fun hwell => ?_⟩
  obtain ⟨built, hbuilt⟩ := (replay?_exact misdescribed).1.mpr hwell
  rw [herror] at hbuilt
  exact nomatch hbuilt

end Query

end CompactQuery
