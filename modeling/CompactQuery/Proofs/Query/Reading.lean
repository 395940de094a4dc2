import CompactQuery.Proofs.Query.Clean

/-!
# Reading — what the compact form of a query says about the query

Of clean queries that steps can build, the compact form says all that it is meant to say, with one
exception.

* **`Query.FieldsAsGroups`** — the exception: nothing but table and joins on both sides, and the
  fields of the one read the same as the groups of the other.
* **`Query.segments_eq_or_swapped`** — tildes give the texts of the segments, and these the
  segments, but for a last one that may be fields or groups.
* **`Query.compact_eq_iff`** — clean queries that steps can build have the same compact form if they
  are of the same form or the exception holds, and in no other case.
-/

namespace CompactQuery

namespace Query

variable {query other : Query}

/-! ## The exception -/

/-- The one query has fields and no groups, the other groups and no fields, the groups are the
tokens of the fields, and neither has anything else behind the joins, in which they agree. -/
structure FieldsAsGroups (query other : Query) : Prop where
  table : query.table = other.table
  joins : query.joins.map Join.normal = other.joins.map Join.normal
  conditions : query.conditions = [] ∧ other.conditions = []
  order : query.order = [] ∧ other.order = []
  limit : query.limit = none ∧ other.limit = none
  lone : query.groups = [] ∧ other.fields = []
  tokens : query.fields.map Field.token = other.groups

/-- The bodies of one kind, where the last segment is known. -/
theorem bodies_of_segments_snoc {front : List Segment} {last : Segment}
    (h : query.segments = front ++ [last]) (kind : SegmentKind) :
    query.bodies kind
      = (front.filter (fun segment => segment.kind = kind)).map Segment.body
        ++ if last.kind = kind then [last.body] else [] := by
  rw [bodies_eq, h, List.filter_append, List.map_append]
  by_cases hkind : last.kind = kind <;> simp [hkind]

/-- **What swapped segments have in them**: before the last one stand the table and the joins, so of
the other kinds there is only the last, fields here and groups there. -/
theorem bodies_of_swapped (h : Segment.Swapped query.segments other.segments) :
    (∀ kind, kind = .table ∨ kind = .join → query.bodies kind = other.bodies kind) ∧
      ∃ body, ∀ kind, kind ≠ .table → kind ≠ .join →
        query.bodies kind = (if SegmentKind.fields = kind then [body] else []) ∧
          other.bodies kind = (if SegmentKind.groups = kind then [body] else []) := by
  obtain ⟨front, body, hquery, hother⟩ := h
  have hfront : ∀ segment ∈ front, segment.kind = .table ∨ segment.kind = .join := by
    intro segment hsegment
    have hpairwise := query.segments_pairwise
    rw [hquery, List.pairwise_append] at hpairwise
    exact SegmentKind.precedes_fields (hpairwise.2.2 segment hsegment _ (List.mem_singleton_self _))
  have hnone : ∀ kind, kind ≠ .table → kind ≠ .join →
      front.filter (fun segment => segment.kind = kind) = [] := by
    intro kind htable hjoin
    rw [List.filter_eq_nil_iff]
    intro segment hsegment
    rcases hfront segment hsegment with hk | hk <;> simp [hk, htable.symm, hjoin.symm]
  refine ⟨?_, body, ?_⟩
  · intro kind hkind
    rw [bodies_of_segments_snoc hquery, bodies_of_segments_snoc hother]
    -- the last segments are of neither kind
    rcases hkind with rfl | rfl <;> rfl
  · intro kind htable hjoin
    rw [bodies_of_segments_snoc hquery, bodies_of_segments_snoc hother, hnone kind htable hjoin]
    exact ⟨rfl, rfl⟩

/-- Segments that are swapped come from fields and groups with nothing but joins before them. -/
theorem fieldsAsGroups_of_swapped (hclean : query.Clean) (hclean' : other.Clean)
    (h : Segment.Swapped query.segments other.segments) : FieldsAsGroups query other := by
  obtain ⟨hsame, body, hbodies⟩ := bodies_of_swapped h
  have htable : query.bodies .table = other.bodies .table := hsame .table (Or.inl rfl)
  have hjoins : query.bodies .join = other.bodies .join := hsame .join (Or.inr rfl)
  obtain ⟨hfields, hfields'⟩ := hbodies .fields (by decide) (by decide)
  obtain ⟨hfilter, hfilter'⟩ := hbodies .filter (by decide) (by decide)
  obtain ⟨horder, horder'⟩ := hbodies .order (by decide) (by decide)
  obtain ⟨hlimit, hlimit'⟩ := hbodies .limit (by decide) (by decide)
  obtain ⟨hgroups, hgroups'⟩ := hbodies .groups (by decide) (by decide)
  -- a kind without bodies has no clauses
  have hconditions : ∀ {q : Query}, q.bodies .filter = [] → q.conditions = [] :=
    fun h => List.map_eq_nil_iff.mp (joinedItems_eq_nil.mp h)
  have hlimits : ∀ {q : Query}, q.bodies .limit = [] → q.limit = none :=
    fun h => by simpa [bodies] using h
  exact
    { table := (List.cons.inj htable).1
      joins := joins_normal_eq hclean hclean' hjoins
      conditions := ⟨hconditions hfilter, hconditions hfilter'⟩
      order := ⟨List.map_eq_nil_iff.mp horder, List.map_eq_nil_iff.mp horder'⟩
      limit := ⟨hlimits hlimit, hlimits hlimit'⟩
      lone := ⟨joinedItems_eq_nil.mp hgroups,
        List.map_eq_nil_iff.mp (joinedItems_eq_nil.mp hfields')⟩
      tokens := joinedItems_inj (c := ',') rfl hclean.comma_token hclean'.comma_group
        (hfields.trans hgroups'.symm) }

/-! ## Queries with the same compact form -/

theorem join_bodies_eq (h : query.joins.map Join.normal = other.joins.map Join.normal) :
    query.bodies .join = other.bodies .join :=
  map_eq_map_of_map_eq_map
    (fun join _ join' _ heq => by rw [← join.token_normal, heq, join'.token_normal]) h

theorem SameForm.segments_eq (h : SameForm query other) : query.segments = other.segments := by
  have horder : query.order.map SortKey.token = other.order.map SortKey.token :=
    map_eq_map_of_map_eq_map
      (fun key _ key' _ heq => by rw [← key.token_normal, heq, key'.token_normal]) h.order
  have hlimit : query.limit.map Limit.token = other.limit.map Limit.token := by
    have htoken : Limit.token = Limit.token ∘ Limit.normal := funext fun l => l.token_normal.symm
    rw [htoken, ← Option.map_map, ← Option.map_map, h.limit]
  have hbodies : ∀ kind, query.bodies kind = other.bodies kind := by
    intro kind
    cases kind with
    | table => exact congrArg (fun table => [table]) h.table
    | join => exact join_bodies_eq h.joins
    | fields => rw [bodies, bodies, h.fields]
    | filter => rw [bodies, bodies, h.conditions]
    | order => exact horder
    | limit => rw [bodies, bodies, ← Option.toList_map, ← Option.toList_map, hlimit]
    | groups => rw [bodies, bodies, h.groups]
  rw [Query.segments_eq, Query.segments_eq]
  simp only [hbodies]

/-- In the exception the segments have the same texts, since fields and groups share a sigil. -/
theorem FieldsAsGroups.texts_eq (h : FieldsAsGroups query other) :
    query.segments.map Segment.text = other.segments.map Segment.text := by
  have hfields : query.bodies .fields = other.bodies .groups :=
    congrArg (joinedItems itemSeparator) h.tokens
  have hsigil : Segment.text ∘ Segment.mk .fields = Segment.text ∘ Segment.mk .groups := rfl
  have hempty : query.bodies .filter = [] ∧ query.bodies .order = [] ∧ query.bodies .limit = [] ∧
      query.bodies .groups = [] := by
    simp [bodies, h.conditions.1, h.order.1, h.limit.1, h.lone.1]
  have hempty' : other.bodies .fields = [] ∧ other.bodies .filter = [] ∧
      other.bodies .order = [] ∧ other.bodies .limit = [] := by
    simp [bodies, h.conditions.2, h.order.2, h.limit.2, h.lone.2]
  obtain ⟨hfilter, horder, hlimit, hgroups⟩ := hempty
  obtain ⟨hfields', hfilter', horder', hlimit'⟩ := hempty'
  have htable : query.bodies .table = other.bodies .table := congrArg (fun table => [table]) h.table
  -- table and joins agree, and of the rest only one segment is left on each side
  simp [Query.segments_eq, SegmentKind.all, hfilter, horder, hlimit, hgroups, hfields', hfilter',
    horder', hlimit', htable, join_bodies_eq h.joins, hfields, hsigil]

theorem FieldsAsGroups.compact_eq (h : FieldsAsGroups query other) :
    query.compact = other.compact := by
  rw [compact, compact, h.texts_eq]

/-- The texts of the segments of clean queries are read off the compact form, tilde by tilde. -/
theorem texts_eq_of_compact_eq (hclean : query.Clean) (hclean' : other.Clean)
    (h : query.compact = other.compact) :
    query.segments.map Segment.text = other.segments.map Segment.text :=
  intercalate_inj (c := '~') rfl (by simp [segments]) (by simp [segments]) hclean.tilde_text
    hclean'.tilde_text h

/-- **The compact form of a clean query determines the segments**, but for a last one that may be
fields or groups. -/
theorem segments_eq_or_swapped (hclean : query.Clean) (hclean' : other.Clean)
    (h : query.compact = other.compact) :
    query.segments = other.segments ∨ Segment.Swapped query.segments other.segments ∨
      Segment.Swapped other.segments query.segments :=
  eq_or_swapped_of_texts query.segments_pairwise other.segments_pairwise
    (texts_eq_of_compact_eq hclean hclean' h)

/-- **What the compact form tells of a query**: clean queries that steps can build have the same
compact form just if they are of the same form, or one has fields that read as the groups of the
other. -/
theorem compact_eq_iff (hreach : query.Reachable) (hreach' : other.Reachable)
    (hclean : query.Clean) (hclean' : other.Clean) :
    query.compact = other.compact ↔
      SameForm query other ∨ FieldsAsGroups query other ∨ FieldsAsGroups other query := by
  constructor
  · intro h
    rcases segments_eq_or_swapped hclean hclean' h with heq | hswapped | hswapped
    · exact Or.inl (sameForm_of_segments_eq hclean hclean' hreach.lawful hreach'.lawful heq)
    · exact Or.inr (Or.inl (fieldsAsGroups_of_swapped hclean hclean' hswapped))
    · exact Or.inr (Or.inr (fieldsAsGroups_of_swapped hclean' hclean hswapped))
  · rintro (hsame | hexcept | hexcept)
    · rw [compact, compact, hsame.segments_eq]
    · exact hexcept.compact_eq
    · exact hexcept.compact_eq.symm

/-- Two fields behind a join, one of them under another name. -/
def listed : Query :=
  (ofTable "t").performAll
    [.join "u" [{ left := "a", op := "", right := "b" }], .select "a" (some "b"), .select "c" none]

/-- Two groups behind that join, named like the tokens of those fields. -/
def grouped : Query :=
  (ofTable "t").performAll
    [.groupBy "a:b", .join "u" [{ left := "a", op := "", right := "b", connector := some "" }],
      .groupBy "c"]

/-- The exception at work: the two queries can be built, are clean, and look the same. -/
theorem listed_looks_grouped :
    listed.Reachable ∧ grouped.Reachable ∧ listed.Clean ∧ grouped.Clean ∧
      listed.compact = grouped.compact ∧ listed.compact = "@t~+u||a||b~[a:b,c" := by
  have hreach : listed.Reachable := ⟨_, _, rfl⟩
  have hreach' : grouped.Reachable := ⟨_, _, rfl⟩
  have hclean : listed.Clean := by decide
  have hclean' : grouped.Clean := by decide
  have hexcept : FieldsAsGroups listed grouped := by constructor <;> decide
  exact ⟨hreach, hreach', hclean, hclean',
    (compact_eq_iff hreach hreach' hclean hclean').mpr (Or.inr (Or.inl hexcept)), by decide⟩

end Query

end CompactQuery
