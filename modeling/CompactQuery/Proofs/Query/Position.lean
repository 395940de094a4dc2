import CompactQuery.Proofs.Query.Reading

/-!
# Position — when the place of a segment tells fields from groups

Fields and groups share a sigil, and a reader has to tell them apart by position: the groups are
last. That is of no help where the fields are last as well, with nothing between the joins and them.

* **`Query.kinds`** — the kinds of the segments, place by place.
* **`Query.Plain`** — no stored text holds a separator.
* **`Query.LoneList`** — one list of names stands behind the joins, and nothing else does.
* **`Query.swapLists`** — the query with its fields as groups and its groups as fields. Of a lone
  list it makes another query with the same compact form (`LoneList.compact_swapLists`).
* **`Query.kinds_told_iff`** — the compact form of a plain query tells its kinds unless it has a
  lone list.
-/

namespace CompactQuery

namespace Query

variable {query other : Query}

/-! ## Kinds and separators -/

/-- The kinds of the segments, in the order of the compact form. -/
def kinds (query : Query) : List SegmentKind := query.segments.map Segment.kind

/-- Every text that the query stores. -/
def storedTexts (query : Query) : List String :=
  query.shownTexts ++ query.order.filterMap SortKey.direction

/-- The characters that stand between parts of the compact form. -/
def separators : List Char := ['~', '|', ',', ':']

/-- No stored text holds a separator. -/
def Plain (query : Query) : Prop := ∀ text ∈ query.storedTexts, ∀ c ∈ separators, c ∉ text.toList

instance : DecidablePred Plain := fun query =>
  decidable_of_iff (∀ text ∈ query.storedTexts, separators.all (fun c => c ∉ text.toList) = true)
    (by simp only [Plain, List.all_eq_true, decide_eq_true_eq])

/-- Whatever separator matters for a text, a plain query has none of it there. -/
theorem Plain.clean (hplain : query.Plain) : query.Clean := by
  have hfree : ∀ c ∈ separators, ∀ text ∈ query.shownTexts, c ∉ text.toList :=
    fun c hc text htext => hplain text (List.mem_append_left _ htext) c hc
  constructor
  · exact hfree '~' (by decide)
  · intro text htext
    apply hfree '|' (by decide)
    grind [shownTexts]
  · intro text htext
    apply hfree ',' (by decide)
    grind [shownTexts]
  · intro text htext
    apply hfree ':' (by decide)
    grind [shownTexts, Field.texts]

theorem mem_kinds_iff {kind : SegmentKind} : kind ∈ query.kinds ↔ query.bodies kind ≠ [] := by
  rw [bodies_eq, kinds, ne_eq, List.map_eq_nil_iff, List.filter_eq_nil_iff]
  simp

theorem fields_mem_kinds : SegmentKind.fields ∈ query.kinds ↔ query.fields ≠ [] := by
  simp [mem_kinds_iff, bodies]

theorem groups_mem_kinds : SegmentKind.groups ∈ query.kinds ↔ query.groups ≠ [] := by
  simp [mem_kinds_iff, bodies]

/-! ## Lone lists -/

/-- Behind the joins stand bare names, all as fields or all as groups, and nothing else. -/
def LoneList (query : Query) : Prop :=
  query.conditions = [] ∧ query.order = [] ∧ query.limit = none ∧
    ((query.fields ≠ [] ∧ query.groups = [] ∧ ∀ field ∈ query.fields, field.label = none) ∨
      (query.fields = [] ∧ query.groups ≠ []))

instance : DecidablePred LoneList := fun query =>
  inferInstanceAs (Decidable (query.conditions = [] ∧ query.order = [] ∧ query.limit = none ∧
    ((query.fields ≠ [] ∧ query.groups = [] ∧ ∀ field ∈ query.fields, field.label = none) ∨
      (query.fields = [] ∧ query.groups ≠ []))))

/-- The query with the names of its fields as groups and its groups as fields. -/
def swapLists (query : Query) : Query :=
  { query with
    fields := query.groups.map fun name => { name }
    groups := query.fields.map Field.name }

/-- Bare names are lawful fields. -/
theorem Lawful.swapLists (hlawful : query.Lawful) : query.swapLists.Lawful := by
  refine ⟨hlawful.first_bare, hlawful.later_joined, hlawful.connectors_given, ?_,
    hlawful.directions_given⟩
  intro field hfield
  obtain ⟨name, _, rfl⟩ := List.mem_map.mp hfield
  exact fun h => nomatch h

/-- Swapping the lists stores no new text. -/
theorem Plain.swapLists (hplain : query.Plain) : query.swapLists.Plain := by
  intro text htext
  apply hplain
  rcases List.mem_append.mp htext with hshown | hdirection
  · apply List.mem_append_left
    rw [mem_shownTexts] at hshown ⊢
    -- the texts of fields turn up among the groups and the other way round
    rcases hshown with htable | ⟨field, hfield, hmem⟩ | hjoin | hcondition | hkey | hgroup
    · exact Or.inl htable
    · obtain ⟨name, hname, rfl⟩ := List.mem_map.mp hfield
      rw [List.mem_singleton.mp hmem]
      exact Or.inr (Or.inr (Or.inr (Or.inr (Or.inr hname))))
    · exact Or.inr (Or.inr (Or.inl hjoin))
    · exact Or.inr (Or.inr (Or.inr (Or.inl hcondition)))
    · exact Or.inr (Or.inr (Or.inr (Or.inr (Or.inl hkey))))
    · obtain ⟨field, hfield, rfl⟩ := List.mem_map.mp hgroup
      exact Or.inr (Or.inl ⟨field, hfield, List.mem_cons_self⟩)
  · exact List.mem_append_right _ hdirection

theorem token_of_label_eq_none {field : Field} (h : field.label = none) :
    field.token = field.name := by
  rw [Field.token, h]
  rfl

/-- **A lone list looks the same swapped**, as fields and as groups. -/
theorem LoneList.compact_swapLists (hlone : query.LoneList) :
    query.compact = query.swapLists.compact := by
  obtain ⟨hconditions, horder, hlimit, ⟨_, hgroups, hlabels⟩ | ⟨hfields, _⟩⟩ := hlone
  · have hexcept : FieldsAsGroups query query.swapLists :=
      { table := rfl
        joins := rfl
        conditions := ⟨hconditions, hconditions⟩
        order := ⟨horder, horder⟩
        limit := ⟨hlimit, hlimit⟩
        lone := ⟨hgroups, by rw [swapLists, hgroups, List.map_nil]⟩
        tokens := List.map_congr_left fun field hfield =>
          token_of_label_eq_none (hlabels field hfield) }
    exact hexcept.compact_eq
  · have hexcept : FieldsAsGroups query.swapLists query :=
      { table := rfl
        joins := rfl
        conditions := ⟨hconditions, hconditions⟩
        order := ⟨horder, horder⟩
        limit := ⟨hlimit, hlimit⟩
        lone := ⟨by rw [swapLists, hfields, List.map_nil], hfields⟩
        tokens := by
          rw [swapLists, List.map_map]
          exact (List.map_congr_left fun _ _ => token_of_label_eq_none rfl).trans (List.map_id _) }
    exact hexcept.compact_eq.symm

theorem LoneList.kinds_swapLists (hlone : query.LoneList) : query.kinds ≠ query.swapLists.kinds := by
  intro hkinds
  have hiff : query.fields ≠ [] ↔ query.groups ≠ [] := by
    rw [← fields_mem_kinds, hkinds, fields_mem_kinds, swapLists, ne_eq, List.map_eq_nil_iff]
  obtain ⟨_, _, _, ⟨hfields, hgroups, _⟩ | ⟨hfields, hgroups⟩⟩ := hlone
  · exact hiff.mp hfields hgroups
  · exact hiff.mpr hgroups hfields

/-- Fields that read as groups without colons have no labels, so they are a lone list. -/
theorem FieldsAsGroups.loneList (h : FieldsAsGroups query other) (hlawful : query.Lawful)
    (hplain : other.Plain) (hfields : query.fields ≠ []) : query.LoneList := by
  refine ⟨h.conditions.1, h.order.1, h.limit.1, Or.inl ⟨hfields, h.lone.1, ?_⟩⟩
  intro field hfield
  have hgroup : field.token ∈ other.groups := h.tokens ▸ List.mem_map_of_mem hfield
  have hcolon : ':' ∉ field.token.toList := by
    refine hplain _ (List.mem_append_left _ ?_) ':' (by decide)
    grind [shownTexts]
  -- a label would put a colon into the token
  cases hlabel : field.label with
  | none => rfl
  | some label =>
      have hgiven : given field.label = some label := by
        rw [given_of_ne_empty (hlawful.labels_given field hfield), hlabel]
      rw [Field.token, hgiven] at hcolon
      simp [pairSeparator] at hcolon

/-- Groups that read as fields are a lone list. -/
theorem FieldsAsGroups.loneList_right (h : FieldsAsGroups query other)
    (hgroups : other.groups ≠ []) : other.LoneList :=
  ⟨h.conditions.2, h.order.2, h.limit.2, Or.inr ⟨h.lone.2, hgroups⟩⟩

/-! ## When position tells -/

/-- **Position tells fields from groups just if there is more than a lone list**: a plain query that
steps can build has the kinds of every other such query with the same compact form, unless it has a
lone list. -/
theorem kinds_told_iff (hreach : query.Reachable) (hplain : query.Plain) :
    (∀ other : Query, other.Reachable → other.Plain → query.compact = other.compact →
      query.kinds = other.kinds) ↔ ¬ query.LoneList := by
  constructor
  · intro htold hlone
    -- the swapped query is the one that is mistaken for it
    have hreach' : query.swapLists.Reachable := reachable_iff_lawful.mpr hreach.lawful.swapLists
    exact hlone.kinds_swapLists
      (htold query.swapLists hreach' hplain.swapLists hlone.compact_swapLists)
  · intro hmore other hreach' hplain' hcompact
    rcases segments_eq_or_swapped hplain.clean hplain'.clean hcompact with heq | hswapped | hswapped
    · rw [kinds, kinds, heq]
    · have hexcept := fieldsAsGroups_of_swapped hplain.clean hplain'.clean hswapped
      obtain ⟨front, body, hsegments, _⟩ := hswapped
      have hfields : query.fields ≠ [] := by
        rw [← fields_mem_kinds, kinds, hsegments]
        simp
      exact absurd (hexcept.loneList hreach.lawful hplain' hfields) hmore
    · have hexcept := fieldsAsGroups_of_swapped hplain'.clean hplain.clean hswapped
      obtain ⟨front, body, _, hsegments⟩ := hswapped
      have hgroups : query.groups ≠ [] := by
        rw [← groups_mem_kinds, kinds, hsegments]
        simp
      exact absurd (hexcept.loneList_right hgroups) hmore

def limitedField : Query := (ofTable "t").performAll [.select "a" none, .limitTo 10 none]

/-- The limit settles that the segment before it is the fields. -/
theorem kinds_told_limitedField :
    limitedField.Reachable ∧ limitedField.Plain ∧
      ∀ other : Query, other.Reachable → other.Plain → limitedField.compact = other.compact →
        limitedField.kinds = other.kinds := by
  have hreach : limitedField.Reachable := ⟨_, _, rfl⟩
  have hplain : limitedField.Plain := by decide
  have hmore : ¬ limitedField.LoneList := fun ⟨_, _, hlimit, _⟩ => nomatch hlimit
  exact ⟨hreach, hplain, (kinds_told_iff hreach hplain).mpr hmore⟩

/-- One field, and nothing else. -/
def oneField : Query := (ofTable "t").performAll [.select "a" none]

/-- One group of that name, and nothing else. -/
def oneGroup : Query := (ofTable "t").performAll [.groupBy "a"]

/-- **Position does not always tell**: one segment is the fields of one query and the groups of
another. -/
theorem oneField_looks_oneGroup :
    oneField.Reachable ∧ oneGroup.Reachable ∧ oneField.Plain ∧ oneGroup.Plain ∧
      oneField.compact = "@t~[a" ∧ oneGroup.compact = "@t~[a" ∧
      oneField.kinds = [.table, .fields] ∧ oneGroup.kinds = [.table, .groups] := by
  have hplain : oneField.Plain := by decide
  have hplain' : oneGroup.Plain := by decide
  exact ⟨⟨_, _, rfl⟩, ⟨_, _, rfl⟩, hplain, hplain', by decide, by decide, rfl, rfl⟩

end Query

end CompactQuery
