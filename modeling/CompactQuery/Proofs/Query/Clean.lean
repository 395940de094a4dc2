import CompactQuery.Proofs.Query.Grouping
import CompactQuery.Proofs.Query.Run
import CompactQuery.Proofs.Query.SegmentOrder

/-!
# Clean queries — what their segments say about them

Nothing is escaped in the compact form, so it can only be read if no stored text holds a separator
that would be taken for one. Of a query of that sort, built by steps, the segments say all but what
the tokens leave out.

* **`Query.Clean`** — no text holds a separator that would be taken for one.
* **`Query.SameForm`** — two queries agree in all that segments are meant to show.
* **`Query.sameForm_of_segments_eq`** — clean queries with the same segments do: the segments of one
  kind give the tokens of the clauses, and these the clauses.
* **`Query.occurrences_segments`** — a character that segments are not written with, such as the
  tilde, is in those of any query as often as in its texts; **`Query.notMem_text`** — if it is in no
  text, it is in no segment.
-/

namespace CompactQuery

/-! ## Clean queries -/

namespace Query

/-- The stored texts that show in the compact form: all but the directions of the sort keys. -/
def shownTexts (query : Query) : List String :=
  query.table :: (query.fields.flatMap Field.texts ++ query.joins.flatMap Join.texts
    ++ query.conditions.flatMap Condition.texts ++ query.order.map SortKey.field ++ query.groups)

/-- No text holds a separator that would be taken for one where the text stands. -/
structure Clean (query : Query) : Prop where
  tilde : ∀ text ∈ query.shownTexts, '~' ∉ text.toList
  bar : ∀ text ∈ query.joins.flatMap Join.texts ++ query.conditions.flatMap Condition.texts,
    '|' ∉ text.toList
  comma : ∀ text ∈ query.fields.flatMap Field.texts ++ query.groups, ',' ∉ text.toList
  colon : ∀ text ∈ query.fields.map Field.name ++ query.order.map SortKey.field, ':' ∉ text.toList

instance : DecidablePred Clean := fun query =>
  decidable_of_iff
    ((∀ text ∈ query.shownTexts, '~' ∉ text.toList) ∧
      (∀ text ∈ query.joins.flatMap Join.texts ++ query.conditions.flatMap Condition.texts,
        '|' ∉ text.toList) ∧
      (∀ text ∈ query.fields.flatMap Field.texts ++ query.groups, ',' ∉ text.toList) ∧
      (∀ text ∈ query.fields.map Field.name ++ query.order.map SortKey.field,
        ':' ∉ text.toList))
    ⟨fun ⟨tilde, bar, comma, colon⟩ => ⟨tilde, bar, comma, colon⟩,
      fun ⟨tilde, bar, comma, colon⟩ => ⟨tilde, bar, comma, colon⟩⟩

/-- What is asked of each clause of a clean query. -/
theorem clean_iff {query : Query} :
    query.Clean ↔
      '~' ∉ query.table.toList ∧
      (∀ field ∈ query.fields, ':' ∉ field.name.toList ∧
        ∀ text ∈ field.texts, ∀ c ∈ ['~', ','], c ∉ text.toList) ∧
      (∀ join ∈ query.joins, ∀ text ∈ join.texts, ∀ c ∈ ['~', '|'], c ∉ text.toList) ∧
      (∀ condition ∈ query.conditions, ∀ text ∈ condition.texts, ∀ c ∈ ['~', '|'],
        c ∉ text.toList) ∧
      (∀ key ∈ query.order, ∀ c ∈ ['~', ':'], c ∉ key.field.toList) ∧
      ∀ group ∈ query.groups, ∀ c ∈ ['~', ','], c ∉ group.toList := by
  constructor
  · rintro ⟨htilde, hbar, hcomma, hcolon⟩
    simp only [shownTexts, List.forall_mem_cons, List.forall_mem_append, List.forall_mem_flatMap,
      List.forall_mem_map] at htilde hbar hcomma hcolon
    grind
  · intro h
    constructor
    · simp only [shownTexts, List.forall_mem_cons, List.forall_mem_append, List.forall_mem_flatMap,
        List.forall_mem_map]
      grind
    all_goals
      simp only [List.forall_mem_append, List.forall_mem_flatMap, List.forall_mem_map]
      grind

/-! ## What can be told apart -/

/-- The queries agree but for what the compact form leaves out: empty connectors in joins, which
direction a sort key has, and an offset of zero. -/
structure SameForm (query other : Query) : Prop where
  table : query.table = other.table
  fields : query.fields = other.fields
  joins : query.joins.map Join.normal = other.joins.map Join.normal
  conditions : query.conditions = other.conditions
  order : query.order.map SortKey.normal = other.order.map SortKey.normal
  limit : query.limit.map Limit.normal = other.limit.map Limit.normal
  groups : query.groups = other.groups

end Query

/-! ## From segments to clauses

The bodies of one kind are split at the separator of that kind, and then every token is read. A field
or a condition is read as it is, since a lawful query stores it in normal form. -/

/-- If equal images under one function have equal images under another, so have lists. -/
theorem map_eq_map_of_map_eq_map {α β γ : Type} {f : α → β} {g : α → γ} {items others : List α}
    (hfg : ∀ item ∈ items, ∀ other ∈ others, f item = f other → g item = g other)
    (h : items.map f = others.map f) : items.map g = others.map g := by
  induction items generalizing others with
  | nil =>
      rw [List.map_nil] at h
      rw [List.map_eq_nil_iff.mp h.symm, List.map_nil]
  | cons item items ih =>
      cases others with
      | nil => simp at h
      | cons other others =>
          rw [List.map_cons, List.map_cons, List.cons.injEq] at h
          rw [List.map_cons, List.map_cons,
            hfg item List.mem_cons_self other List.mem_cons_self h.1,
            ih (fun i hi o ho => hfg i (List.mem_cons_of_mem _ hi) o (List.mem_cons_of_mem _ ho)) h.2]

/-- Joined items determine the items, none included, if the separator occurs in none of them. -/
theorem joinedItems_inj {c : Char} {separator : String} (hc : separator.toList = [c])
    {items others : List String} (hitems : ∀ item ∈ items, c ∉ item.toList)
    (hothers : ∀ item ∈ others, c ∉ item.toList)
    (h : joinedItems separator items = joinedItems separator others) : items = others := by
  by_cases hnil : items = []
  · rw [hnil] at h ⊢
    exact (joinedItems_eq_nil.mp h.symm).symm
  · by_cases hnil' : others = []
    · rw [hnil'] at h
      exact absurd (joinedItems_eq_nil.mp h) hnil
    · rw [joinedItems_of_ne_nil hnil, joinedItems_of_ne_nil hnil', List.cons.injEq] at h
      exact intercalate_inj hc hnil hnil' hitems hothers h.1

namespace Query

variable {query other : Query}

theorem Clean.comma_token (hclean : query.Clean) :
    ∀ token ∈ query.fields.map Field.token, ',' ∉ token.toList := by
  intro token htoken
  obtain ⟨field, hfield, rfl⟩ := List.mem_map.mp htoken
  apply Field.notMem_token (by decide)
  intro text htext
  exact hclean.comma text
    (List.mem_append_left _ (List.mem_flatMap.mpr ⟨field, hfield, htext⟩))

theorem Clean.comma_group (hclean : query.Clean) : ∀ group ∈ query.groups, ',' ∉ group.toList :=
  fun group hgroup => hclean.comma group (List.mem_append_right _ hgroup)

theorem Clean.bar_join (hclean : query.Clean) {join : Join} (hjoin : join ∈ query.joins) :
    ∀ text ∈ join.texts, '|' ∉ text.toList :=
  fun text htext =>
    hclean.bar text (List.mem_append_left _ (List.mem_flatMap.mpr ⟨join, hjoin, htext⟩))

theorem Clean.bar_conditions (hclean : query.Clean) :
    ∀ text ∈ query.conditions.flatMap Condition.texts, '|' ∉ text.toList :=
  fun text htext => hclean.bar text (List.mem_append_right _ htext)

theorem joins_normal_eq (hclean : query.Clean) (hclean' : other.Clean)
    (h : query.bodies .join = other.bodies .join) :
    query.joins.map Join.normal = other.joins.map Join.normal :=
  map_eq_map_of_map_eq_map
    (fun _ hj _ hj' => Join.token_inj (hclean.bar_join hj) (hclean'.bar_join hj')) h

theorem fields_eq (hclean : query.Clean) (hclean' : other.Clean) (hlawful : query.Lawful)
    (hlawful' : other.Lawful) (h : query.bodies .fields = other.bodies .fields) :
    query.fields = other.fields := by
  have htokens : query.fields.map Field.token = other.fields.map Field.token :=
    joinedItems_inj (c := ',') rfl hclean.comma_token hclean'.comma_token h
  have hcolon : ∀ {q : Query}, q.Clean → ∀ field ∈ q.fields, ':' ∉ field.name.toList :=
    fun hq field hfield => hq.colon _ (List.mem_append_left _ (List.mem_map_of_mem hfield))
  have hmap : query.fields.map id = other.fields.map id := by
    refine map_eq_map_of_map_eq_map ?_ htokens
    intro field hfield field' hfield' htoken
    exact Field.token_inj (hcolon hclean field hfield) (hcolon hclean' field' hfield')
      (hlawful.labels_given field hfield) (hlawful'.labels_given field' hfield') htoken
  rwa [List.map_id, List.map_id] at hmap

/-- The conditions of a lawful query are in normal form. -/
theorem Lawful.conditions_normal (hlawful : query.Lawful) :
    query.conditions.map Condition.normal = query.conditions := by
  have hmap : query.conditions.map Condition.normal = query.conditions.map id := by
    apply List.map_congr_left
    intro condition hcondition
    rw [Condition.normal, given_of_ne_empty (hlawful.connectors_given condition hcondition)]
    rfl
  rwa [List.map_id] at hmap

theorem conditions_normal_eq (hclean : query.Clean) (hclean' : other.Clean)
    (h : query.bodies .filter = other.bodies .filter) :
    query.conditions.map Condition.normal = other.conditions.map Condition.normal := by
  have hfree := hclean.bar_conditions
  have hfree' := hclean'.bar_conditions
  simp only [bodies] at h
  -- the filter of the one is empty just if that of the other is
  cases hconditions : query.conditions with
  | nil =>
      rw [hconditions, List.map_nil] at h
      rw [List.map_eq_nil_iff.mp (joinedItems_eq_nil.mp h.symm)]
  | cons first rest =>
      cases hconditions' : other.conditions with
      | nil => simp [hconditions, hconditions', joinedItems] at h
      | cons first' rest' =>
          rw [hconditions] at h hfree
          rw [hconditions'] at h hfree'
          rw [joinedItems_of_ne_nil (by simp), joinedItems_of_ne_nil (by simp),
            List.cons.injEq] at h
          exact Condition.tokens_inj hfree hfree' h.1

theorem conditions_eq (hclean : query.Clean) (hclean' : other.Clean) (hlawful : query.Lawful)
    (hlawful' : other.Lawful) (h : query.bodies .filter = other.bodies .filter) :
    query.conditions = other.conditions := by
  rw [← hlawful.conditions_normal, ← hlawful'.conditions_normal]
  exact conditions_normal_eq hclean hclean' h

theorem order_normal_eq (hclean : query.Clean) (hclean' : other.Clean)
    (h : query.bodies .order = other.bodies .order) :
    query.order.map SortKey.normal = other.order.map SortKey.normal := by
  have hcolon : ∀ {q : Query}, q.Clean → ∀ key ∈ q.order, ':' ∉ key.field.toList :=
    fun hq key hkey => hq.colon _ (List.mem_append_right _ (List.mem_map_of_mem hkey))
  refine map_eq_map_of_map_eq_map ?_ h
  intro key hkey key' hkey'
  exact SortKey.token_inj (hcolon hclean key hkey) (hcolon hclean' key' hkey')

theorem limit_normal_eq (h : query.bodies .limit = other.bodies .limit) :
    query.limit.map Limit.normal = other.limit.map Limit.normal := by
  simp only [bodies] at h
  cases hlimit : query.limit with
  | none => cases hlimit' : other.limit <;> simp_all
  | some limit =>
      cases hlimit' : other.limit with
      | none => simp [hlimit, hlimit'] at h
      | some limit' =>
          simp only [hlimit, hlimit', Option.toList_some, List.map_cons, List.map_nil,
            List.cons.injEq, and_true] at h
          rw [Option.map_some, Option.map_some, Limit.token_inj h]

/-- **Segments determine clean queries that are lawful**, up to what the segments leave out. -/
theorem sameForm_of_segments_eq (hclean : query.Clean) (hclean' : other.Clean)
    (hlawful : query.Lawful) (hlawful' : other.Lawful) (h : query.segments = other.segments) :
    SameForm query other := by
  have hbodies : ∀ kind, query.bodies kind = other.bodies kind := by
    intro kind
    rw [bodies_eq, bodies_eq, h]
  exact
    { table := (List.cons.inj (hbodies .table)).1
      fields := fields_eq hclean hclean' hlawful hlawful' (hbodies .fields)
      joins := joins_normal_eq hclean hclean' (hbodies .join)
      conditions := conditions_eq hclean hclean' hlawful hlawful' (hbodies .filter)
      order := order_normal_eq hclean hclean' (hbodies .order)
      limit := limit_normal_eq (hbodies .limit)
      groups := joinedItems_inj (c := ',') rfl hclean.comma_group hclean'.comma_group
        (hbodies .groups) }

/-! ## Characters that show -/

/-- The texts of each kind of clause are shown. -/
theorem mem_shownTexts {text : String} (query : Query) :
    text ∈ query.shownTexts ↔
      text = query.table ∨ (∃ field ∈ query.fields, text ∈ field.texts) ∨
        (∃ join ∈ query.joins, text ∈ join.texts) ∨
        (∃ condition ∈ query.conditions, text ∈ condition.texts) ∨
        (∃ key ∈ query.order, key.field = text) ∨ text ∈ query.groups := by
  simp only [shownTexts, List.mem_cons, List.mem_append, List.mem_flatMap, List.mem_map, or_assoc]

/-- What segments are written with besides stored texts and digits: the sigils, the separators within
a segment and the mark of a direction. -/
def segmentMarks : List Char := "@+[?>-,|:dir".toList

section

variable {c : Char}

theorem count_text (hmark : c ∉ segmentMarks) (segment : Segment) :
    segment.text.toList.count c = segment.body.toList.count c := by
  have hmem : segment.kind.sigil ∈ segmentMarks := by cases segment.kind <;> decide
  have hsigil : segment.kind.sigil ≠ c := fun h => hmark (h ▸ hmem)
  simp [Segment.text, hsigil]

theorem occurrences_ofItems {separator : String} (h : c ∉ separator.toList) (kind : SegmentKind)
    (items : List String) :
    occurrences c ((Segment.ofItems kind separator items).map Segment.body)
      = occurrences c items := by
  unfold Segment.ofItems
  split
  · rfl
  · rw [List.map_singleton, occurrences_cons, count_intercalate_of_notMem h, occurrences_nil,
      Nat.add_zero]

/-- **A character that is no mark and no digit occurs in the segments as often as in the texts that
show.** -/
theorem occurrences_segments (hmark : c ∉ segmentMarks) (hdigit : c.isDigit = false)
    (query : Query) :
    occurrences c (query.segments.map Segment.text) = occurrences c query.shownTexts := by
  -- none of the separators within a segment is the character, and the mark of a direction lacks it
  have hfree {text : String} (h : text.toList ⊆ segmentMarks) : c ∉ text.toList :=
    fun hc => hmark (h hc)
  have hpair : c ∉ pairSeparator.toList := hfree (by decide)
  have hpart : c ∉ partSeparator.toList := hfree (by decide)
  have hcondition : c ∉ conditionSeparator.toList := hfree (by decide)
  have hitem : c ∉ itemSeparator.toList := hfree (by decide)
  have hdirection : c ∉ directionMark.toList := hfree (by decide)
  have hbodies : occurrences c (query.segments.map Segment.text)
      = occurrences c (query.segments.map Segment.body) :=
    occurrences_map_congr (count_text hmark) _
  -- kind by kind, the clauses have the occurrences of their texts
  have hjoins : occurrences c (query.joins.map Join.token)
      = occurrences c (query.joins.flatMap Join.texts) :=
    occurrences_map (Join.count_token hpart) _
  have hfields : occurrences c (query.fields.map Field.token)
      = occurrences c (query.fields.flatMap Field.texts) :=
    occurrences_map (Field.count_token hpair) _
  have hconditions : occurrences c (query.conditions.map Condition.token)
      = occurrences c (query.conditions.flatMap Condition.texts) :=
    occurrences_map (Condition.count_token hpart) _
  have horder : occurrences c (query.order.map SortKey.token)
      = occurrences c (query.order.map SortKey.field) :=
    occurrences_map_congr (SortKey.count_token hpair hdirection) _
  have hlimit : occurrences c (query.limit.toList.map Limit.token) = 0 := by
    rw [occurrences_eq_zero_iff, List.forall_mem_map]
    intro limit _
    rw [← List.count_eq_zero, limit.count_token hpair hdigit]
  rw [hbodies, segments, shownTexts]
  simp only [List.map_append, List.map_map, List.map_singleton, Function.comp_def,
    occurrences_append, occurrences_cons, occurrences_nil, hjoins, hfields, hconditions, horder,
    hlimit, occurrences_ofItems hitem, occurrences_ofItems hcondition]
  omega

/-- So a character that no stored text holds is in no segment either. -/
theorem notMem_text (hmark : c ∉ segmentMarks) (hdigit : c.isDigit = false)
    (h : ∀ text ∈ query.shownTexts, c ∉ text.toList) :
    ∀ text ∈ query.segments.map Segment.text, c ∉ text.toList := by
  rw [← occurrences_eq_zero_iff, occurrences_segments hmark hdigit, occurrences_eq_zero_iff]
  exact h

theorem notMem_body (hmark : c ∉ segmentMarks) (hdigit : c.isDigit = false)
    (h : ∀ text ∈ query.shownTexts, c ∉ text.toList) :
    ∀ segment ∈ query.segments, c ∉ segment.body.toList := by
  intro segment hsegment
  have htext := notMem_text hmark hdigit h segment.text (List.mem_map_of_mem hsegment)
  rw [← List.count_eq_zero, count_text hmark] at htext
  exact List.count_eq_zero.mp htext

theorem notMem_compact (hmark : c ∉ segmentMarks) (hdigit : c.isDigit = false)
    (hseparator : c ∉ segmentSeparator.toList)
    (h : ∀ text ∈ query.shownTexts, c ∉ text.toList) : c ∉ query.compact.toList := by
  rw [← List.count_eq_zero, compact, count_intercalate_of_notMem hseparator,
    occurrences_segments hmark hdigit, occurrences_eq_zero_iff]
  exact h

end

/-- No tilde occurs in a segment of a clean query. -/
theorem Clean.tilde_text (hclean : query.Clean) :
    ∀ text ∈ query.segments.map Segment.text, '~' ∉ text.toList :=
  notMem_text (by decide) (by decide) hclean.tilde

end Query

end CompactQuery
