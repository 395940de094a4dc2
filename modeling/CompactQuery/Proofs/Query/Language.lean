import CompactQuery.Proofs.Query.Grammar
import CompactQuery.Proofs.Query.Reading
import CompactQuery.Proofs.Query.Replay
import Mathlib.Data.Set.List

/-!
# Language — the compact forms are what the grammar derives, with chained filters

The grammar and the renderer meet in the clauses: a derivation lists the clauses of a query in the
form that their tokens show, and derives the text that this query renders.

* **`Derivation.compact_query`** — a derivation derives what its query renders.
* **`exists_derivation`** — every clean query that steps can build has a derivation.
* **`Derivation.chained_of_compact_eq`** — a derivation of such a compact form has a chained filter.
  Its own filter may have connectors anywhere, but equal texts have equal filters: this is where
  fragments of three and four parts must not regroup.
* **`compact_language`** — both inclusions.
-/

namespace CompactQuery

namespace Query

/-- The query with its clauses in the form that their tokens show. -/
def normal (query : Query) : Query :=
  { query with
    joins := query.joins.map Join.normal
    order := query.order.map SortKey.normal
    limit := query.limit.map Limit.normal }

theorem segments_normal (query : Query) : query.normal.segments = query.segments := by
  have hlimit : (query.limit.map Limit.normal).toList.map (fun limit => Segment.mk .limit limit.token)
      = query.limit.toList.map (fun limit => Segment.mk .limit limit.token) := by
    cases query.limit <;> simp
  simp [segments, normal, Function.comp_def, hlimit]

end Query

namespace Grammar

/-! ## The text of a derivation -/

theorem following_cons {α : Type} (separator : String) (text : α → String) (item : α)
    (items : List α) :
    following separator text (item :: items)
      = separator ++ text item ++ following separator text items := by
  simp only [following, List.map_cons, String.join_cons]

theorem following_append {α : Type} (separator : String) (text : α → String) (items more : List α) :
    following separator text (items ++ more)
      = following separator text items ++ following separator text more := by
  simp only [following, List.map_append, String.join_append]

/-- Segments of one kind, each behind a separator. -/
def ofKind (query : Query) (kind : SegmentKind) : String :=
  following (segmentSeparator ++ kind.sigil.toString) id (query.bodies kind)

theorem following_segments (kind : SegmentKind) (bodies : List String) :
    following segmentSeparator Segment.text (bodies.map (Segment.mk kind))
      = following (segmentSeparator ++ kind.sigil.toString) id bodies := by
  induction bodies with
  | nil => rfl
  | cons body bodies ih =>
      rw [List.map_cons, following_cons, following_cons, ih, Segment.text, id]
      simp only [String.append_assoc]

/-- With one more separator in front, the compact form is the segments of all kinds, each behind a
separator. -/
theorem separator_compact (query : Query) :
    segmentSeparator ++ query.compact
      = ofKind query .table ++ ofKind query .join ++ ofKind query .fields ++ ofKind query .filter
        ++ ofKind query .order ++ ofKind query .limit ++ ofKind query .groups := by
  have hsegments : segmentSeparator ++ query.compact
      = following segmentSeparator Segment.text query.segments := by
    have hne : query.segments.map Segment.text ≠ [] := by simp [Query.segments]
    have hid : following segmentSeparator Segment.text query.segments
        = following segmentSeparator id (query.segments.map Segment.text) :=
      (following_map segmentSeparator id Segment.text query.segments).symm
    obtain ⟨first, rest, htexts⟩ := List.exists_cons_of_ne_nil hne
    rw [hid, Query.compact, htexts, intercalate_cons, following_cons, String.append_assoc, id]
  rw [hsegments, Query.segments_eq, SegmentKind.all]
  simp only [List.flatMap_cons, List.flatMap_nil, List.append_nil, following_append,
    following_segments, ofKind, String.append_assoc]

/-- The one text of a list of items, or none. -/
theorem following_joinedItems {α : Type} (lead separator : String) (token : α → String)
    (items : Option (Listed α)) :
    following lead id (joinedItems separator ((itemsOf items).map token))
      = optional (fun listed => lead ++ listed.text separator token) items := by
  cases items with
  | none => rfl
  | some listed =>
      rw [itemsOf, Option.elim, List.map_cons, joinedItems_of_ne_nil (List.cons_ne_nil _ _),
        following_cons, id, intercalate_cons, following_map]
      exact String.append_empty

namespace Derivation

/-- **A derivation derives what its query renders**: kind by kind, the tokens of the clauses are the
texts of the productions. -/
theorem compact_query (d : Derivation) : d.query.compact = d.text := by
  have hjoins : ofKind d.query .join = following "~+" JoinSegment.text d.joins := by
    rw [ofKind, Query.bodies, query, following_map, following_map]
    simp only [JoinSegment.token_join]
    rfl
  have hfields : ofKind d.query .fields
      = optional (fun fields => "~[" ++ fields.text "," FieldToken.text) d.fields := by
    rw [ofKind, Query.bodies, query, List.map_map,
      ← funext FieldToken.token_field]
    exact following_joinedItems _ _ _ _
  have hfilter : ofKind d.query .filter
      = optional (fun filter => "~?" ++ filter.text "||" Fragment.text) d.filter := by
    rw [ofKind, Query.bodies, query, List.map_map, ← funext Fragment.token_condition]
    exact following_joinedItems _ _ _ _
  have horder : ofKind d.query .order = following "~>" OrderToken.text d.order := by
    rw [ofKind, Query.bodies, query, following_map, following_map]
    simp only [OrderToken.token_key]
    rfl
  have hlimit : ofKind d.query .limit = optional (fun limit => "~-" ++ limit.text) d.limit := by
    rw [ofKind, Query.bodies, query]
    cases d.limit with
    | none => rfl
    | some limit =>
        rw [Option.map_some, Option.toList_some, List.map_cons, limit.token_limit, following_cons]
        exact String.append_empty
  have hgroups : ofKind d.query .groups
      = optional (fun groups => "~[" ++ groups.text "," Terminal.text) d.groups := by
    rw [ofKind, Query.bodies, query]
    exact following_joinedItems _ _ _ _
  have htable : ofKind d.query .table = "~" ++ ("@" ++ d.table.text) := by
    rw [ofKind, Query.bodies, following_cons, ← String.append_assoc]
    exact String.append_empty
  have hcompact := separator_compact d.query
  rw [htable, hjoins, hfields, hfilter, horder, hlimit, hgroups] at hcompact
  -- both sides have the separator in front
  have htext : segmentSeparator ++ d.query.compact = segmentSeparator ++ d.text := by
    rw [hcompact, text]
    simp only [segmentSeparator, String.append_assoc]
  have hlist := congrArg String.toList htext
  rw [String.toList_append, String.toList_append, List.append_cancel_left_eq] at hlist
  exact String.toList_inj.mp hlist

end Derivation

/-! ## The query of a derivation

Terminals keep the separators out, so the query is clean. It is lawful if the filter is chained:
all optional texts are non-empty terminals. -/

theorem Fragment.free (fragment : Fragment) {c : Char} (hc : c ∈ ['~', '|']) :
    ∀ text ∈ fragment.condition.texts, c ∉ text.toList := by
  intro text htext
  rcases List.mem_append.mp htext with hconnector | hoperand
  · obtain ⟨connector, _, rfl⟩ := Option.map_eq_some_iff.mp (Option.mem_toList.mp hconnector)
    exact connector.free c hc
  · simp only [condition, List.mem_cons, List.not_mem_nil, or_false] at hoperand
    rcases hoperand with rfl | rfl | rfl
    · exact fragment.left.free c hc
    · exact fragment.op.free c hc
    · exact fragment.right.free c hc

theorem JoinSegment.free (join : JoinSegment) {c : Char} (hc : c ∈ ['~', '|']) :
    ∀ text ∈ join.join.texts, c ∉ text.toList := by
  intro text htext
  rcases List.mem_cons.mp htext with rfl | htext
  · exact join.table.free c hc
  · obtain ⟨_, hcondition, htext⟩ := List.mem_flatMap.mp htext
    obtain ⟨fragment, _, rfl⟩ := List.mem_map.mp hcondition
    exact fragment.free hc text htext

theorem FieldToken.free (token : FieldToken) {c : Char} (hc : c ∈ ['~', ',']) :
    ∀ text ∈ token.field.texts, c ∉ text.toList := by
  intro text htext
  rcases List.mem_cons.mp htext with rfl | hlabel
  · exact token.name.free c (by grind)
  · obtain ⟨label, _, rfl⟩ := Option.map_eq_some_iff.mp (Option.mem_toList.mp hlabel)
    exact label.free c hc

namespace Derivation

variable {d : Derivation}

theorem clean_query (d : Derivation) : d.query.Clean := by
  rw [Query.clean_iff]
  refine ⟨d.table.free '~' (by decide), ?_, ?_, ?_, ?_, ?_⟩
  · refine List.forall_mem_map.mpr fun token _ => ⟨token.name.free ':' (by decide), ?_⟩
    exact fun text htext c hc => token.free hc text htext
  · exact List.forall_mem_map.mpr fun join _ text htext c hc => join.free hc text htext
  · exact List.forall_mem_map.mpr fun fragment _ text htext c hc => fragment.free hc text htext
  · exact List.forall_mem_map.mpr fun token _ c hc => token.field.free c hc
  · exact List.forall_mem_map.mpr fun group _ c hc => group.free c hc

theorem mem_conditions {condition : Condition} (h : condition ∈ d.query.conditions) :
    ∃ fragment : Fragment, fragment.condition = condition := by
  obtain ⟨fragment, _, hfragment⟩ := List.mem_map.mp h
  exact ⟨fragment, hfragment⟩

/-- The rule on fragments is the one on the conditions they stand for. -/
theorem chained_iff_wellLinked : d.Chained ↔ WellLinked d.query.conditions := by
  have hnone : ∀ fragment : Fragment,
      given fragment.condition.connector = none ↔ fragment.connector = none := by
    intro fragment
    rw [Fragment.condition, Word.given_map_text, Option.map_eq_none_iff]
  rw [wellLinked_iff, Chained, query]
  cases d.filter with
  | none => simp [itemsOf]
  | some filter => simp [itemsOf, hnone]

theorem lawful_query (h : d.Chained) : d.query.Lawful := by
  have hwell := chained_iff_wellLinked.mp h
  have hconnectors : ∀ c ∈ d.query.conditions, c.connector ≠ some "" := by
    intro c hc
    obtain ⟨fragment, rfl⟩ := mem_conditions hc
    exact Word.map_text_ne_empty fragment.connector
  refine ⟨?_, hwell.later, hconnectors, ?_, ?_⟩
  · intro c hc
    exact (hwell.first c hc).resolve_right (hconnectors c (List.mem_of_mem_head? hc))
  · exact List.forall_mem_map.mpr fun token _ => Word.map_text_ne_empty token.label
  · refine List.forall_mem_map.mpr fun token _ => ?_
    cases h : token.directed <;> simp [OrderToken.key, h, directionMark]

end Derivation

/-! ## A derivation for every clean query -/

theorem exists_map_eq {α β : Type} {f : α → β} {items : List β}
    (h : ∀ item ∈ items, ∃ a, f a = item) : ∃ as : List α, as.map f = items := by
  have hrange : items ∈ Set.range (List.map f) := by
    rw [Set.range_list_map]
    exact h
  exact hrange

theorem exists_listed {α β : Type} {f : α → β} {items : List β}
    (h : ∀ item ∈ items, ∃ a, f a = item) :
    ∃ listed : Option (Listed α), (itemsOf listed).map f = items := by
  obtain ⟨as, rfl⟩ := exists_map_eq h
  cases as with
  | nil => exact ⟨none, rfl⟩
  | cons first rest => exact ⟨some ⟨first, rest⟩, rfl⟩

theorem exists_word (banned : List Char) {text : Option String} (hne : text ≠ some "")
    (hfree : ∀ t ∈ text, ∀ c ∈ banned, c ∉ t.toList) :
    ∃ word : Option (Word banned), (word.map fun w => w.text) = text := by
  cases text with
  | none => exact ⟨none, rfl⟩
  | some t => exact ⟨some ⟨⟨t, hfree t rfl⟩, fun h => hne (congrArg some h)⟩, rfl⟩

theorem exists_fieldToken {field : Field} (hname : ':' ∉ field.name.toList)
    (hfree : ∀ text ∈ field.texts, ∀ c ∈ ['~', ','], c ∉ text.toList)
    (hlabel : field.label ≠ some "") : ∃ token : FieldToken, token.field = field := by
  obtain ⟨word, hword⟩ := exists_word ['~', ','] hlabel fun label h =>
    hfree label (List.mem_cons_of_mem _ (Option.mem_toList.mpr h))
  have hfree' := hfree field.name List.mem_cons_self
  refine ⟨⟨⟨field.name, ?_⟩, word⟩, ?_⟩
  · grind
  · rw [FieldToken.field, hword]

theorem exists_fragment {condition : Condition}
    (hfree : ∀ text ∈ condition.texts, ∀ c ∈ ['~', '|'], c ∉ text.toList) :
    ∃ fragment : Fragment, fragment.condition = condition.normal := by
  obtain ⟨word, hword⟩ := exists_word ['~', '|'] (given_ne_empty condition.connector)
    fun k hk => hfree k (List.mem_append_left _
      (Option.mem_toList.mpr (given_eq_some_iff.mp hk).1))
  refine ⟨⟨word, ⟨condition.left, hfree _ ?_⟩, ⟨condition.op, hfree _ ?_⟩,
    ⟨condition.right, hfree _ ?_⟩⟩, ?_⟩
  · simp [Condition.texts]
  · simp [Condition.texts]
  · simp [Condition.texts]
  · rw [Fragment.condition, hword]
    rfl

theorem exists_joinSegment {join : Join}
    (hfree : ∀ text ∈ join.texts, ∀ c ∈ ['~', '|'], c ∉ text.toList) :
    ∃ segment : JoinSegment, segment.join = join.normal := by
  obtain ⟨fragments, hfragments⟩ :
      ∃ fragments : List Fragment,
        fragments.map Fragment.condition = join.conditions.map Condition.normal := by
    refine exists_map_eq (List.forall_mem_map.mpr fun condition hcondition => exists_fragment ?_)
    intro text htext
    exact hfree text (List.mem_cons_of_mem _ (List.mem_flatMap.mpr ⟨condition, hcondition, htext⟩))
  refine ⟨⟨⟨join.table, hfree _ List.mem_cons_self⟩, fragments⟩, ?_⟩
  rw [JoinSegment.join, hfragments]
  rfl

theorem exists_orderToken {key : SortKey} (hfree : ∀ c ∈ ['~', ':'], c ∉ key.field.toList) :
    ∃ token : OrderToken, token.key = key.normal := by
  refine ⟨⟨⟨key.field, hfree⟩, (given key.direction).isSome⟩, ?_⟩
  rw [OrderToken.key, SortKey.normal]
  cases given key.direction <;> rfl

theorem exists_count (n : UInt64) : ∃ count : Count, count.value = n ∧ count.text = decimal n := by
  have htext : (decimal n).toList = Nat.toDigits 10 n.toNat := Nat.toList_repr
  have hnumber : Digit.number 10 (decimal n).toList = n.toNat := by
    rw [htext, Digit.number_toDigits]
  refine ⟨⟨decimal n, ?_, ?_⟩, ?_, rfl⟩
  · rw [htext]
    exact Digit.canonical_toDigits _
  · rw [hnumber]
    exact n.toNat_lt
  · rw [Count.value, hnumber, UInt64.ofNat_toNat]

theorem exists_limitSegment (limit : Limit) :
    ∃ segment : LimitSegment, segment.limit = limit.normal := by
  obtain ⟨count, hcount, -⟩ := exists_count limit.count
  obtain ⟨offset, hoffset⟩ : ∃ offset : Option { offset : Count // offset.text ≠ "0" },
      (offset.map fun offset => offset.val.value) = limit.normal.offset := by
    cases h : limit.normal.offset with
    | none => exact ⟨none, rfl⟩
    | some n =>
        obtain ⟨count, hvalue, htext⟩ := exists_count n
        have hne : n ≠ 0 := by simpa using (Option.filter_eq_some_iff.mp h).2
        refine ⟨some ⟨count, ?_⟩, ?_⟩
        · rw [htext, show "0" = decimal 0 by decide]
          exact fun hzero => hne (decimal_inj hzero)
        · rw [Option.map_some, hvalue]
  refine ⟨⟨count, offset⟩, ?_⟩
  rw [LimitSegment.limit, hcount, hoffset]
  rfl

/-- **Every clean query that steps can build has a derivation**: of the clauses in the form that their
tokens show. -/
theorem exists_derivation {query : Query} (hreach : query.Reachable) (hclean : query.Clean) :
    ∃ d : Derivation, d.text = query.compact := by
  obtain ⟨htable, hfields, hjoins, hconditions, horder, hgroups⟩ := Query.clean_iff.mp hclean
  have hlawful := hreach.lawful
  obtain ⟨fields, hfields⟩ : ∃ fields, (itemsOf fields).map FieldToken.field = query.fields :=
    exists_listed fun field hfield => exists_fieldToken (hfields field hfield).1
      (hfields field hfield).2 (hlawful.labels_given field hfield)
  obtain ⟨filter, hfilter⟩ :
      ∃ filter, (itemsOf filter).map Fragment.condition = query.conditions := by
    rw [← hlawful.conditions_normal]
    exact exists_listed (List.forall_mem_map.mpr fun condition hcondition =>
      exists_fragment (hconditions condition hcondition))
  obtain ⟨groups, hgroups⟩ : ∃ groups : Option (Listed (Terminal ['~', ','])),
      (itemsOf groups).map Terminal.text = query.groups :=
    exists_listed fun group hgroup => ⟨⟨group, hgroups group hgroup⟩, rfl⟩
  -- joins, sort keys and the limit are derived in the form that their tokens show
  obtain ⟨joins, hjoins⟩ := exists_map_eq (List.forall_mem_map.mpr fun join hjoin =>
    exists_joinSegment (hjoins join hjoin))
  obtain ⟨order, horder⟩ := exists_map_eq (List.forall_mem_map.mpr fun key hkey =>
    exists_orderToken (horder key hkey))
  obtain ⟨limit, hlimit⟩ : ∃ limit : Option LimitSegment,
      limit.map LimitSegment.limit = query.limit.map Limit.normal := by
    cases query.limit with
    | none => exact ⟨none, rfl⟩
    | some limit =>
        obtain ⟨segment, hsegment⟩ := exists_limitSegment limit
        exact ⟨some segment, congrArg some hsegment⟩
  let d : Derivation :=
    { table := ⟨query.table, by simpa using htable⟩, joins, fields, filter, order, limit, groups }
  have hquery : d.query = query.normal :=
    Query.ext rfl hfields hjoins hfilter horder hlimit hgroups
  exact ⟨d, by rw [← d.compact_query, hquery, Query.compact, query.segments_normal, Query.compact]⟩

/-! ## The two inclusions -/

/-- **A derivation of the compact form of a clean query has a chained filter.** The two texts have
equal segments but for swapped lists of names, so they have equal filters, and these group their
atoms alike: the fragments of the derivation are the conditions of the query. -/
theorem Derivation.chained_of_compact_eq {d : Derivation} {query : Query}
    (hreach : query.Reachable) (hclean : query.Clean) (h : query.compact = d.text) :
    d.Chained := by
  have hfilter : query.bodies .filter = d.query.bodies .filter := by
    rw [← d.compact_query] at h
    rcases Query.segments_eq_or_swapped hclean d.clean_query h with heq | hswapped | hswapped
    · rw [Query.bodies_eq, Query.bodies_eq, heq]
    · obtain ⟨-, body, hbodies⟩ := Query.bodies_of_swapped hswapped
      obtain ⟨hleft, hright⟩ := hbodies .filter (by decide) (by decide)
      exact hleft.trans hright.symm
    · obtain ⟨-, body, hbodies⟩ := Query.bodies_of_swapped hswapped
      obtain ⟨hleft, hright⟩ := hbodies .filter (by decide) (by decide)
      exact hright.trans hleft.symm
  have hconditions := Query.conditions_normal_eq hclean d.clean_query hfilter
  rw [chained_iff_wellLinked, ← wellLinked_map_normal, ← hconditions, wellLinked_map_normal]
  exact hreach.lawful.wellLinked

/-- **The compact forms are the texts of the grammar with chained filters.** Every clean query that
steps can build renders a text that has a derivation; and a text that has a derivation is rendered
by such a query just if, in that derivation, the first fragment of the filter has no connector and
every later one has one. -/
theorem compact_language :
    (∀ query : Query, query.Reachable → query.Clean →
      ∃ d : Derivation, d.text = query.render false) ∧
    ∀ d : Derivation,
      (∃ query : Query, query.Reachable ∧ query.Clean ∧ query.render false = d.text) ↔
        d.Chained := by
  refine ⟨fun query hreach hclean => exists_derivation hreach hclean, fun d => ⟨?_, ?_⟩⟩
  · rintro ⟨query, hreach, hclean, h⟩
    exact Derivation.chained_of_compact_eq hreach hclean h
  · intro hchained
    have hreach : d.query.Reachable := Query.reachable_iff_lawful.mpr (Derivation.lawful_query hchained)
    exact ⟨d.query, hreach, d.clean_query, d.compact_query⟩

/-- A query with a label, a join, two linked conditions, and an offset of zero that is not shown. -/
def linkedQuery : Query :=
  (Query.ofTable "t").performAll
    [.select "a" (some "x"), .join "u" [⟨"k", "=", "l", none⟩], .restrict "a" "=" "1" none,
      .restrict "b" "=" "2" (some "or"), .sortBy "a" (some "desc"), .limitTo 10 (some 0)]

/-- A derivation whose first fragment has four parts and its second three. -/
def unchained : Derivation :=
  { table := ⟨"t", by simp⟩, joins := [], fields := none, order := [], limit := none, groups := none
    filter := some ⟨⟨some ⟨⟨"or", by simp⟩, by simp⟩, ⟨"a", by simp⟩, ⟨"=", by simp⟩, ⟨"1", by simp⟩⟩,
      [⟨none, ⟨"b", by simp⟩, ⟨"=", by simp⟩, ⟨"2", by simp⟩⟩]⟩ }

/-- The one text is derived; the other is the compact form of no clean query. -/
theorem compact_language_linkedQuery :
    linkedQuery.Reachable ∧ linkedQuery.Clean ∧
      linkedQuery.render false = "@t~+u||k|=|l~[a:x~?a|=|1||or|b|=|2~>a:dir~-10" ∧
      (∃ d : Derivation, d.text = "@t~+u||k|=|l~[a:x~?a|=|1||or|b|=|2~>a:dir~-10") ∧
      unchained.text = "@t~?or|a|=|1||b|=|2" ∧
      ¬ ∃ query : Query,
        query.Reachable ∧ query.Clean ∧ query.render false = "@t~?or|a|=|1||b|=|2" := by
  have hreach : linkedQuery.Reachable := ⟨_, _, rfl⟩
  have hclean : linkedQuery.Clean := by decide
  have hrender : linkedQuery.render false = "@t~+u||k|=|l~[a:x~?a|=|1||or|b|=|2~>a:dir~-10" := by
    decide
  have htext : unchained.text = "@t~?or|a|=|1||b|=|2" := by decide
  refine ⟨hreach, hclean, hrender, ?_, htext, ?_⟩
  · rw [← hrender]
    exact compact_language.1 linkedQuery hreach hclean
  · rw [← htext, compact_language.2 unchained]
    intro hchained
    exact nomatch (hchained _ rfl).1

end Grammar

end CompactQuery
