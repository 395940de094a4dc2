import CompactQuery.Proofs.Query.CallOrder
import CompactQuery.Proofs.Query.SegmentOrder

/-!
# Growth — what one step changes in the segments

A step contributes one clause, and the segments of the query change in one place only: where the
segments of that kind stand. Joins and sort keys get a segment of their own, behind those that are
there. Fields, conditions and groups share a segment, which is made for the first and goes on with
every later one behind a separator. A limit takes the place of an earlier one.

* **`Step.token`** — the text of the clause that a step contributes.
* **`Segment.Grows`** — the one change to a list of segments; **`SegmentKind.grown?`** — the body of
  a segment that takes a token up.
* **`Query.eq_of_extend?`** — what a step does that is not refused.
* **`Query.segments_around`** — the segments around the place of a kind. A step that changes the
  bodies of no other kind leaves both sides as they are, so the bodies of its own kind are all that
  is left to compare (`grows_of_appended`, `grows_of_rewritten`).
* **`Query.grows_extend?`** — the change that each step makes.
-/

namespace CompactQuery

/-! ## What a step is about -/

/-- The text of the clause that a step contributes. -/
def Step.token : Step → String
  | .select name label => Field.token { name, label := given label }
  | .join table conditions => Join.token { table, conditions }
  | .restrict left op right connector =>
    Condition.token { left, op, right, connector := given connector }
  | .sortBy field direction => SortKey.token { field, direction := given direction }
  | .limitTo count offset => Limit.token { count, offset }
  | .groupBy field => field

/-- The body of a segment that takes up one more token, for a kind with one segment at most. -/
def SegmentKind.grown? (body token : String) : SegmentKind → Option String
  | .table => none
  | .join => none
  | .fields => some (body ++ "," ++ token)
  | .filter => some (body ++ "||" ++ token)
  | .order => none
  | .limit => some token
  | .groups => some (body ++ "," ++ token)

/-- One change to a list of segments, at the place of a kind: behind all that may stand before a
segment of this kind, and before all segments of later kinds. -/
inductive Segment.Grows (kind : SegmentKind) (token : String) (old new : List Segment) : Prop where
  /-- A segment more. -/
  | inserted (ahead behind : List Segment)
      (hold : old = ahead ++ behind)
      (hnew : new = ahead ++ ⟨kind, token⟩ :: behind)
      (hahead : ∀ segment ∈ ahead, segment.kind.Precedes kind)
      (hbehind : ∀ segment ∈ behind, kind.place < segment.kind.place)
  /-- Another body for the only segment of the kind. -/
  | rewritten (ahead behind : List Segment) (body grown : String)
      (hgrown : kind.grown? body token = some grown)
      (hold : old = ahead ++ ⟨kind, body⟩ :: behind)
      (hnew : new = ahead ++ ⟨kind, grown⟩ :: behind)
      (hahead : ∀ segment ∈ ahead, segment.kind.place < kind.place)
      (hbehind : ∀ segment ∈ behind, kind.place < segment.kind.place)

namespace Query

/-! ## What a step does that is not refused -/

/-- A step that is not refused adds its clause, to the filter as well. -/
theorem eq_of_extend? {query after : Query} {step : Step} (h : query.extend? step = .ok after) :
    after =
      { table := query.table
        fields := query.fields ++ step.field?.toList
        joins := query.joins ++ step.join?.toList
        conditions := query.conditions ++ step.condition?.toList
        order := query.order ++ step.sortKey?.toList
        limit := step.limit?.or query.limit
        groups := query.groups ++ step.group?.toList } := by
  have hconditions : step.condition?.toList.foldl extendChain query.conditions
      = query.conditions ++ step.condition?.toList := by
    cases step with
    | restrict left op right connector =>
        cases hfault : connectorFault? query.conditions (given connector) with
        | none => exact extendChain_of_fits hfault
        | some fault =>
            rw [extend?_restrict_of_fault hfault] at h
            exact nomatch h
    | select | join | sortBy | limitTo | groupBy => simp [Step.condition?]
  have hafter : after = query.perform step := by rw [perform, h]
  rw [hafter, perform_eq, hconditions]

/-- The bodies of the other kinds stay as they are. -/
theorem bodies_extend?_of_ne {query after : Query} {step : Step}
    (h : query.extend? step = .ok after) {kind : SegmentKind} (hkind : kind ≠ step.kind) :
    after.bodies kind = query.bodies kind := by
  rw [eq_of_extend? h]
  cases step <;> cases kind <;>
    simp [bodies, Step.kind, Step.field?, Step.join?, Step.condition?, Step.sortKey?, Step.limit?,
      Step.group?] at hkind ⊢

/-! ## The place of a kind -/

/-- The segments of these kinds. -/
def segmentsOf (query : Query) (kinds : List SegmentKind) : List Segment :=
  kinds.flatMap (fun kind => (query.bodies kind).map (Segment.mk kind))

theorem kind_mem_of_mem_segmentsOf {query : Query} {kinds : List SegmentKind} {segment : Segment}
    (h : segment ∈ query.segmentsOf kinds) : segment.kind ∈ kinds := by
  obtain ⟨kind, hkind, hsegment⟩ := List.mem_flatMap.mp h
  obtain ⟨body, _, rfl⟩ := List.mem_map.mp hsegment
  exact hkind

theorem segmentsOf_congr {query after : Query} {kinds : List SegmentKind}
    (h : ∀ kind ∈ kinds, after.bodies kind = query.bodies kind) :
    after.segmentsOf kinds = query.segmentsOf kinds := by
  refine List.flatMap_congr fun kind hkind => ?_
  rw [h kind hkind]

end Query

namespace SegmentKind

/-- The kinds that stand before a kind. -/
def ahead (kind : SegmentKind) : List SegmentKind := all.filter (·.place < kind.place)

/-- The kinds that stand behind a kind. -/
def behind (kind : SegmentKind) : List SegmentKind := all.filter (kind.place < ·.place)

theorem all_around (kind : SegmentKind) : all = kind.ahead ++ kind :: kind.behind := by
  cases kind <;> rfl

theorem place_lt_of_mem_ahead {kind other : SegmentKind} (h : other ∈ kind.ahead) :
    other.place < kind.place :=
  of_decide_eq_true (List.mem_filter.mp h).2

theorem place_lt_of_mem_behind {kind other : SegmentKind} (h : other ∈ kind.behind) :
    kind.place < other.place :=
  of_decide_eq_true (List.mem_filter.mp h).2

end SegmentKind

namespace Query

/-- The segments around the place of a kind. -/
theorem segments_around (query : Query) (kind : SegmentKind) :
    query.segments = query.segmentsOf kind.ahead ++ (query.bodies kind).map (Segment.mk kind)
      ++ query.segmentsOf kind.behind := by
  have hall : query.segments = query.segmentsOf SegmentKind.all := query.segments_eq
  rw [hall, kind.all_around]
  simp [segmentsOf]

section

variable {query after : Query} {kind : SegmentKind}

/-- Around the place of the one kind whose bodies differ, the segments are the same. -/
theorem segments_around_of_congr (h : ∀ other ≠ kind, after.bodies other = query.bodies other) :
    after.segments = query.segmentsOf kind.ahead ++ (after.bodies kind).map (Segment.mk kind)
      ++ query.segmentsOf kind.behind := by
  have hahead : after.segmentsOf kind.ahead = query.segmentsOf kind.ahead := by
    refine segmentsOf_congr fun other hother => h other ?_
    rintro rfl
    exact Nat.lt_irrefl _ (SegmentKind.place_lt_of_mem_ahead hother)
  have hbehind : after.segmentsOf kind.behind = query.segmentsOf kind.behind := by
    refine segmentsOf_congr fun other hother => h other ?_
    rintro rfl
    exact Nat.lt_irrefl _ (SegmentKind.place_lt_of_mem_behind hother)
  rw [after.segments_around kind, hahead, hbehind]

theorem place_lt_of_mem_ahead {segment : Segment} (h : segment ∈ query.segmentsOf kind.ahead) :
    segment.kind.place < kind.place :=
  SegmentKind.place_lt_of_mem_ahead (kind_mem_of_mem_segmentsOf h)

theorem place_lt_of_mem_behind {segment : Segment} (h : segment ∈ query.segmentsOf kind.behind) :
    kind.place < segment.kind.place :=
  SegmentKind.place_lt_of_mem_behind (kind_mem_of_mem_segmentsOf h)

/-- A body more is a segment more, if its kind has none yet or may have many. -/
theorem grows_of_appended {token : String}
    (h : ∀ other ≠ kind, after.bodies other = query.bodies other)
    (hbodies : after.bodies kind = query.bodies kind ++ [token])
    (hkind : query.bodies kind = [] ∨ kind = .join ∨ kind = .order) :
    Segment.Grows kind token query.segments after.segments := by
  refine .inserted (query.segmentsOf kind.ahead ++ (query.bodies kind).map (Segment.mk kind))
    (query.segmentsOf kind.behind) (query.segments_around kind) ?_ ?_
    fun segment => place_lt_of_mem_behind
  · rw [segments_around_of_congr h, hbodies]
    simp
  · intro segment hsegment
    rcases List.mem_append.mp hsegment with hahead | hown
    · exact Or.inl (place_lt_of_mem_ahead hahead)
    · -- a segment of the kind itself, so there may be many
      obtain ⟨body, hbody, rfl⟩ := List.mem_map.mp hown
      rcases hkind with hnil | hmany
      · rw [hnil] at hbody
        exact absurd hbody List.not_mem_nil
      · exact Or.inr ⟨rfl, hmany⟩

/-- Another body in place of the only one is a segment rewritten. -/
theorem grows_of_rewritten {token body grown : String}
    (h : ∀ other ≠ kind, after.bodies other = query.bodies other)
    (hold : query.bodies kind = [body]) (hnew : after.bodies kind = [grown])
    (hgrown : kind.grown? body token = some grown) :
    Segment.Grows kind token query.segments after.segments := by
  refine .rewritten (query.segmentsOf kind.ahead) (query.segmentsOf kind.behind) body grown hgrown
    ?_ ?_ (fun segment => place_lt_of_mem_ahead) fun segment => place_lt_of_mem_behind
  · rw [query.segments_around kind, hold]
    simp
  · rw [segments_around_of_congr h, hnew]
    simp

/-- A token behind others in the only segment of its kind: the first makes the segment, and any
later one goes on with its body. -/
theorem grows_of_joined {token separator : String} {tokens : List String}
    (h : ∀ other ≠ kind, after.bodies other = query.bodies other)
    (hold : query.bodies kind = joinedItems separator tokens)
    (hnew : after.bodies kind = joinedItems separator (tokens ++ [token]))
    (hgrown : ∀ body, kind.grown? body token = some (body ++ separator ++ token)) :
    Segment.Grows kind token query.segments after.segments := by
  by_cases htokens : tokens = []
  · subst htokens
    refine grows_of_appended h ?_ (Or.inl hold)
    rw [hnew, hold]
    simp [joinedItems]
  · have hbody : separator.intercalate (tokens ++ [token])
        = separator.intercalate tokens ++ separator ++ token := by
      rw [String.intercalate_append_of_ne_nil htokens (List.cons_ne_nil _ _),
        String.intercalate_singleton]
    have hone : query.bodies kind = [separator.intercalate tokens] := by
      rw [hold, joinedItems_of_ne_nil htokens]
    refine grows_of_rewritten h hone ?_ (hgrown _)
    rw [hnew, joinedItems_of_ne_nil (by simp), hbody]

end

/-! ## Every step -/

/-- **A step that is not refused makes one change to the segments.** The bodies of its own kind are
compared, one kind after the other. -/
theorem grows_extend? {query after : Query} {step : Step} (h : query.extend? step = .ok after) :
    Segment.Grows step.kind step.token query.segments after.segments := by
  have hother : ∀ other ≠ step.kind, after.bodies other = query.bodies other :=
    fun other => bodies_extend?_of_ne h
  have hafter := eq_of_extend? h
  cases step with
  | select name label =>
      have hold : query.bodies .fields
          = joinedItems itemSeparator (query.fields.map Field.token) := rfl
      refine grows_of_joined hother hold ?_ fun _ => rfl
      rw [hafter]
      simp [bodies, Step.kind, Step.token, Step.field?]
  | restrict left op right connector =>
      have hold : query.bodies .filter
          = joinedItems conditionSeparator (query.conditions.map Condition.token) := rfl
      refine grows_of_joined hother hold ?_ fun _ => rfl
      rw [hafter]
      simp [bodies, Step.kind, Step.token, Step.condition?]
  | groupBy field =>
      have hold : query.bodies .groups = joinedItems itemSeparator query.groups := rfl
      refine grows_of_joined hother hold ?_ fun _ => rfl
      rw [hafter]
      simp [bodies, Step.kind, Step.token, Step.group?]
  | join table conditions =>
      refine grows_of_appended hother ?_ (Or.inr (Or.inl rfl))
      rw [hafter]
      simp [bodies, Step.kind, Step.token, Step.join?]
  | sortBy field direction =>
      refine grows_of_appended hother ?_ (Or.inr (Or.inr rfl))
      rw [hafter]
      simp [bodies, Step.kind, Step.token, Step.sortKey?]
  | limitTo count offset =>
      have hnew : after.bodies .limit = [Limit.token { count, offset }] := by
        rw [hafter]
        simp [bodies, Step.limit?]
      cases hlimit : query.limit with
      | none =>
          have hold : query.bodies .limit = [] := by simp [bodies, hlimit]
          refine grows_of_appended hother ?_ (Or.inl hold)
          rw [Step.kind, hnew, hold]
          rfl
      | some limit =>
          have hold : query.bodies .limit = [limit.token] := by simp [bodies, hlimit]
          exact grows_of_rewritten hother hold hnew rfl

/-- The kinds of the segments: one table, as many joins and sort keys as there are, and of every
other kind one segment if there is anything to put into it. -/
theorem kinds_segments (query : Query) :
    query.segments.map Segment.kind
      = [.table] ++ List.replicate query.joins.length .join
        ++ List.replicate (min 1 query.fields.length) .fields
        ++ List.replicate (min 1 query.conditions.length) .filter
        ++ List.replicate query.order.length .order
        ++ List.replicate query.limit.toList.length .limit
        ++ List.replicate (min 1 query.groups.length) .groups := by
  have hitems (kind : SegmentKind) (separator : String) (items : List String) :
      (Segment.ofItems kind separator items).map Segment.kind
        = List.replicate (min 1 items.length) kind := by
    cases items with
    | nil => rfl
    | cons item items => simp [Segment.ofItems]
  simp [segments, hitems, Function.comp_def, List.map_const']

/-- **Every step changes the segments in one place.** The segments of a query stand in one order,
with one for every join and every sort key and at most one of each other kind but the table. A step
that is done inserts a segment at the place of its kind or rewrites the only one there, and all
others stay what and where they are; a step that is refused, which only an offer to the filter can
be, changes none. -/
theorem segments_grow (query : Query) :
    query.segments.map Segment.kind
      = [.table] ++ List.replicate query.joins.length .join
        ++ List.replicate (min 1 query.fields.length) .fields
        ++ List.replicate (min 1 query.conditions.length) .filter
        ++ List.replicate query.order.length .order
        ++ List.replicate query.limit.toList.length .limit
        ++ List.replicate (min 1 query.groups.length) .groups ∧
    ∀ step : Step,
      match query.extend? step with
      | .ok after => query.perform step = after ∧
          Segment.Grows step.kind step.token query.segments after.segments
      | .error _ => step.kind = .filter ∧ (query.perform step).segments = query.segments := by
  refine ⟨query.kinds_segments, fun step => ?_⟩
  cases h : query.extend? step with
  | ok after => exact ⟨by rw [perform, h], grows_extend? h⟩
  | error fault =>
      refine ⟨?_, by rw [perform_of_refused h]⟩
      cases step with
      | restrict => rfl
      | select | join | sortBy | limitTo | groupBy => simp [extend?] at h

end Query

end CompactQuery
