import CompactQuery.Query.Segment

/-!
# Segment order — what the texts of the segments show of their kinds

The segments of a query stand in one order: kind after kind, and of all kinds but joins and sort
keys at most one. So the texts of the segments, each led by its sigil, nearly show the kinds. Fields
and groups have the same sigil, and a segment with it is told by what stands around it, unless
nothing does.

* **`Query.bodies`** — the bodies of the segments of one kind; **`Query.segments_eq`** — the
  segments, kind by kind.
* **`SegmentKind.Precedes`** — which kind may stand before which; **`Query.segments_pairwise`** — it
  holds between any two segments of a query.
* **`Segment.Swapped`** — two lists of segments that differ in the last one only, which is fields in
  one and groups in the other.
* **`eq_or_swapped_of_texts`** — lists of segments in order with the same texts are the same, but
  for such a pair.
-/

namespace CompactQuery

/-! ## The segments kind by kind -/

/-- One text of all items, or none if there are no items. -/
def joinedItems (separator : String) : List String → List String
  | [] => []
  | items => [separator.intercalate items]

theorem ofItems_eq (kind : SegmentKind) (separator : String) (items : List String) :
    Segment.ofItems kind separator items = (joinedItems separator items).map (Segment.mk kind) := by
  cases items <;> rfl

@[simp] theorem joinedItems_eq_nil {separator : String} {items : List String} :
    joinedItems separator items = [] ↔ items = [] := by
  cases items <;> simp [joinedItems]

theorem joinedItems_of_ne_nil {separator : String} {items : List String} (h : items ≠ []) :
    joinedItems separator items = [separator.intercalate items] := by
  obtain ⟨item, rest, rfl⟩ := List.exists_cons_of_ne_nil h
  rfl

namespace Query

/-- The bodies of the segments of one kind. -/
def bodies (query : Query) : SegmentKind → List String
  | .table => [query.table]
  | .join => query.joins.map Join.token
  | .fields => joinedItems itemSeparator (query.fields.map Field.token)
  | .filter => joinedItems conditionSeparator (query.conditions.map Condition.token)
  | .order => query.order.map SortKey.token
  | .limit => query.limit.toList.map Limit.token
  | .groups => joinedItems itemSeparator query.groups

theorem segments_eq (query : Query) :
    query.segments
      = SegmentKind.all.flatMap (fun kind => (query.bodies kind).map (Segment.mk kind)) := by
  simp [segments, SegmentKind.all, bodies, ofItems_eq, Function.comp_def]

theorem bodies_eq (query : Query) (kind : SegmentKind) :
    query.bodies kind
      = (query.segments.filter (fun segment => segment.kind = kind)).map Segment.body := by
  have hkind : ∀ other : SegmentKind,
      ((query.bodies other).map (Segment.mk other)).filter (fun segment => segment.kind = kind)
        = if other = kind then (query.bodies kind).map (Segment.mk kind) else [] := by
    intro other
    by_cases h : other = kind
    · subst h
      rw [if_pos rfl]
      exact List.filter_eq_self.mpr (by simp)
    · rw [if_neg h]
      exact List.filter_eq_nil_iff.mpr (by simp [h])
  rw [segments_eq, List.filter_flatMap]
  simp only [hkind]
  cases kind <;> simp [SegmentKind.all, Function.comp_def]

/-- The texts of the segments of one kind. -/
theorem texts_of_kind (query : Query) (kind : SegmentKind) :
    (query.segments.filter (fun segment => segment.kind = kind)).map Segment.text
      = (query.bodies kind).map (kind.sigil.toString ++ ·) := by
  rw [bodies_eq, List.map_map]
  refine List.map_congr_left fun segment hsegment => ?_
  have hkind : segment.kind = kind := of_decide_eq_true (List.mem_filter.mp hsegment).2
  rw [Segment.text, hkind, Function.comp_apply]

end Query

/-! ## The order of the kinds -/

namespace SegmentKind

/-- The place of a kind in the compact form. -/
def place : SegmentKind → Nat
  | .table => 0
  | .join => 1
  | .fields => 2
  | .filter => 3
  | .order => 4
  | .limit => 5
  | .groups => 6

/-- A segment of the one kind may stand before a segment of the other: only joins and sort keys
stand beside their like. -/
def Precedes (kind other : SegmentKind) : Prop :=
  kind.place < other.place ∨ kind = other ∧ (kind = .join ∨ kind = .order)

theorem not_groups_precedes (kind : SegmentKind) : ¬ Precedes .groups kind := by
  cases kind <;> simp [Precedes, place]

/-- Before the fields stand the table and the joins. -/
theorem precedes_fields {kind : SegmentKind} (h : kind.Precedes .fields) :
    kind = .table ∨ kind = .join := by
  cases kind <;> simp [Precedes, place] at h ⊢

/-- The sigil shows the kind, but for fields and groups. -/
theorem sigil_eq {kind other : SegmentKind} (h : kind.sigil = other.sigil) :
    kind = other ∨ (kind = .fields ∧ other = .groups) ∨ (kind = .groups ∧ other = .fields) := by
  cases kind <;> cases other <;> simp [sigil] at h ⊢

end SegmentKind

/-- Any two segments of a query stand in the order of their kinds. -/
theorem Query.segments_pairwise (query : Query) :
    query.segments.Pairwise (fun segment later => segment.kind.Precedes later.kind) := by
  rw [segments_eq, List.pairwise_flatMap]
  refine ⟨?_, ?_⟩
  · -- within one kind: at most one segment, or joins, or sort keys
    intro kind _
    rw [List.pairwise_map]
    have hone : ∀ (separator : String) (items : List String) (R : String → String → Prop),
        (joinedItems separator items).Pairwise R := by
      intro separator items R
      cases items <;> simp [joinedItems]
    cases kind with
    | table => exact List.pairwise_singleton _ _
    | join => exact List.pairwise_of_forall fun _ _ => Or.inr ⟨rfl, Or.inl rfl⟩
    | order => exact List.pairwise_of_forall fun _ _ => Or.inr ⟨rfl, Or.inr rfl⟩
    | fields | filter | groups => exact hone _ _ _
    | limit => cases h : query.limit <;> simp [bodies, h]
  · -- between kinds: the order of the list of all kinds
    have hall : SegmentKind.all.Pairwise (fun kind other => kind.place < other.place) := by decide
    refine hall.imp ?_
    intro kind other hlt segment hsegment later hlater
    obtain ⟨_, _, rfl⟩ := List.mem_map.mp hsegment
    obtain ⟨_, _, rfl⟩ := List.mem_map.mp hlater
    exact Or.inl hlt

/-! ## Reading the kinds off the texts -/

/-- The text of a segment shows its sigil and its body. -/
theorem Segment.text_inj {segment other : Segment} (h : segment.text = other.text) :
    segment.kind.sigil = other.kind.sigil ∧ segment.body = other.body := by
  have hlist := congrArg String.toList h
  simp only [text, String.toList_append, Char.toString_eq_singleton, String.toList_singleton,
    List.singleton_append, List.cons.injEq] at hlist
  exact ⟨hlist.1, String.toList_inj.mp hlist.2⟩

/-- The lists agree in all segments but the last, which is the fields in one and the groups in the
other. -/
def Segment.Swapped (segments others : List Segment) : Prop :=
  ∃ front body, segments = front ++ [⟨.fields, body⟩] ∧ others = front ++ [⟨.groups, body⟩]

/-- **Segments in order are known by their texts**, but for a last segment that may be fields or
groups. Induction on the lists: at the first segments whose kinds differ one is the groups, so it is
the last, and then so is the other. -/
theorem eq_or_swapped_of_texts {segments others : List Segment}
    (horder : segments.Pairwise (fun segment later => segment.kind.Precedes later.kind))
    (horder' : others.Pairwise (fun segment later => segment.kind.Precedes later.kind))
    (h : segments.map Segment.text = others.map Segment.text) :
    segments = others ∨ Segment.Swapped segments others ∨ Segment.Swapped others segments := by
  induction segments generalizing others with
  | nil =>
      left
      exact (List.map_eq_nil_iff.mp h.symm).symm
  | cons segment segments ih =>
      cases others with
      | nil => simp at h
      | cons other others =>
          obtain ⟨hbefore, hrest⟩ := List.pairwise_cons.mp horder
          obtain ⟨hbefore', hrest'⟩ := List.pairwise_cons.mp horder'
          rw [List.map_cons, List.map_cons, List.cons.injEq] at h
          obtain ⟨hsigil, hbody⟩ := Segment.text_inj h.1
          have hlast : ∀ {s : Segment} {rest : List Segment}, s.kind = .groups →
              (∀ later ∈ rest, s.kind.Precedes later.kind) → rest = [] := by
            intro s rest hs hlater
            rw [List.eq_nil_iff_forall_not_mem]
            intro later hmem
            exact SegmentKind.not_groups_precedes later.kind (hs ▸ hlater later hmem)
          obtain ⟨kind, body⟩ := segment
          obtain ⟨kind', body'⟩ := other
          simp only at hsigil hbody
          subst hbody
          rcases SegmentKind.sigil_eq hsigil with rfl | ⟨rfl, rfl⟩ | ⟨rfl, rfl⟩
          · -- the same segment on both sides
            rcases ih hrest hrest' h.2 with rfl | ⟨front, b, rfl, rfl⟩ | ⟨front, b, rfl, rfl⟩
            · exact Or.inl rfl
            · exact Or.inr (Or.inl ⟨⟨kind, body⟩ :: front, b, rfl, rfl⟩)
            · exact Or.inr (Or.inr ⟨⟨kind, body⟩ :: front, b, rfl, rfl⟩)
          · have hnil' : others = [] := hlast rfl hbefore'
            have hnil : segments = [] := by simpa [hnil'] using h.2
            rw [hnil, hnil']
            exact Or.inr (Or.inl ⟨[], body, rfl, rfl⟩)
          · have hnil : segments = [] := hlast rfl hbefore
            have hnil' : others = [] := by simpa [hnil] using h.2.symm
            rw [hnil, hnil']
            exact Or.inr (Or.inr ⟨[], body, rfl, rfl⟩)

end CompactQuery
