import CompactQuery.Proofs.Query.Loading
import CompactQuery.Proofs.Query.Replay
import CompactQuery.Proofs.Schema.Alteration

/-!
# The place of a limit — a description with one part left open

What a description holds besides its limit decides whether it is accepted with one limit as with
another. So a description with the place for its limit left open can be filled with anything, and
what is loaded differs in the limit only.

* **`LimitPlace`** — a description with a place for its limit; **`LimitPlace.fill`** — with
  something in it.
* **`Query.read_limitSlot`**, **`Query.read_fill`** — what stands in the place is read for one slot,
  and the other slots do not depend on it.
* **`Query.load?_fill_eq_ok_iff`**, **`Query.load?_fill_eq_error`** — loading with something else in
  the place.
-/

namespace CompactQuery

open Json (Source Glyph)

/-! ## A place for the limit -/

/-- A description of a query with a place for its limit: the member with its key, or the sixth item
of the sequence of the slots. -/
inductive LimitPlace where
  | member (before after : List (List Glyph × Source)) (key : List Glyph)
      (hkey : Source.spelled key = .ok "limit")
  | item (table fields joins conditions order : Source) (after : List Source)

/-- The description with this in the place. -/
def LimitPlace.fill : LimitPlace → Source → Source
  | .member before after key _, limit => .object (before ++ (key, limit) :: after)
  | .item table fields joins conditions order after, limit =>
    .array (table :: fields :: joins :: conditions :: order :: limit :: after)

namespace Query

/-- What a query holds in the slot of its limit. -/
def limitSlot : shape.Content → (Shape.optional Limit.shape).Content
  | (_, _, _, _, _, limit, _, ()) => limit

/-- The same with something else in this slot. -/
def withLimitSlot (limit : (Shape.optional Limit.shape).Content) : shape.Content → shape.Content
  | (table, fields, joins, conditions, order, _, groups, ()) =>
    (table, fields, joins, conditions, order, limit, groups, ())

section

variable {place : LimitPlace} {old new : Source} {content : shape.Content}

/-- What stands in the place is read for the slot. -/
theorem read_limitSlot (h : shape.read .json (place.fill old).tree = .ok content) :
    (Shape.optional Limit.shape).read .json old.tree = .ok (limitSlot content) := by
  obtain ⟨table, fields, joins, conditions, order, last, groups, ⟨⟩⟩ := content
  cases place with
  | member before after key hkey =>
      obtain ⟨hgiven, _⟩ := (Shape.read_object_source_iff rfl).mp h
      rw [List.map_append, List.map_cons] at hgiven
      obtain ⟨_, _, _, _, _, hlast, _⟩ := hgiven
      have hkeyed : (Source.entry (key, old)).1.read = .ok "limit" := hkey
      exact (hlast.alone hkeyed).2.2
  | item =>
      rw [LimitPlace.fill, Source.tree_array] at h
      obtain ⟨_, _, _, _, _, _, hlast, _⟩ := Shape.read_array_iff.mp h
      exact Shape.takes_singleton_iff.mp hlast

/-- Something else in the place changes the slot and nothing else. -/
theorem read_fill (h : shape.read .json (place.fill old).tree = .ok content)
    {limit : (Shape.optional Limit.shape).Content}
    (hlimit : (Shape.optional Limit.shape).read .json new.tree = .ok limit) :
    shape.read .json (place.fill new).tree = .ok (withLimitSlot limit content) := by
  obtain ⟨table, fields, joins, conditions, order, last, groups, ⟨⟩⟩ := content
  cases place with
  | member before after key hkey =>
      obtain ⟨hgiven, hpasses⟩ := (Shape.read_object_source_iff rfl).mp h
      have hkeyed (source : Source) : Source.Keyed "limit" (key, source) := hkey
      have hpasses' := (Slots.passes_insert_source (hkeyed new)).mpr
        ((Slots.passes_insert_source (hkeyed old)).mp hpasses)
      refine (Shape.read_object_source_iff rfl).mpr ⟨?_, hpasses'⟩
      rw [List.map_append, List.map_cons] at hgiven ⊢
      -- the other slots have the members that they had
      have hother {slot : String} (hslot : slot ≠ "limit") {s : Shape} {v : s.Content}
          (htakes : s.Takes (Tree.named slot
            (before.map Source.entry ++ Source.entry (key, old) :: after.map Source.entry)) v) :
          s.Takes (Tree.named slot
            (before.map Source.entry ++ Source.entry (key, new) :: after.map Source.entry)) v := by
        rw [Tree.named_insert_of_ne (hkeyed old).read hslot] at htakes
        rwa [Tree.named_insert_of_ne (hkeyed new).read hslot]
      obtain ⟨htable, hfields, hjoins, hconditions, horder, hlast, hgroups, _⟩ := hgiven
      obtain ⟨hbefore, hafter, _⟩ := hlast.alone (hkeyed old).read
      refine ⟨hother (by decide) htable, hother (by decide) hfields, hother (by decide) hjoins,
        hother (by decide) hconditions, hother (by decide) horder, ?_,
        hother (by decide) hgroups, trivial⟩
      rw [Tree.named_insert_self (hkeyed new).read, hbefore, hafter]
      exact .given hlimit
  | item =>
      rw [LimitPlace.fill, Source.tree_array] at h ⊢
      obtain ⟨_, htable, hfields, hjoins, hconditions, horder, _, hgroups⟩ :=
        Shape.read_array_iff.mp h
      exact Shape.read_array_iff.mpr
        ⟨rfl, htable, hfields, hjoins, hconditions, horder, .given hlimit, hgroups⟩

/-- **What is read with something else in the place.** -/
theorem read_fill_iff (h : shape.read .json (place.fill old).tree = .ok content)
    {other : shape.Content} :
    shape.read .json (place.fill new).tree = .ok other ↔
      ∃ limit, (Shape.optional Limit.shape).read .json new.tree = .ok limit ∧
        other = withLimitSlot limit content := by
  constructor
  · intro hother
    have hlimit := read_limitSlot hother
    have hread := read_fill h hlimit
    rw [hother] at hread
    exact ⟨_, hlimit, Except.ok.inj hread⟩
  · rintro ⟨limit, hlimit, rfl⟩
    exact read_fill h hlimit

/-! ## Loading with another limit -/

/-- What a text that a source spells loads. -/
theorem load?_of_spells {source : Source} {text : String} (h : source.Spells text) {query : Query} :
    load? .json text = .ok query ↔
      ∃ content, shape.read .json source.tree = .ok content ∧
        (ofContent content).replay? = .ok query := by
  have hread : readShape .json shape text = shape.read .json source.tree :=
    Json.readShape_of_spells h
  rw [load?_eq_ok_iff]
  constructor
  · rintro ⟨described, hdescribed, hreplay⟩
    obtain ⟨content, hcontent, rfl⟩ := Shaped.read?_eq_ok_iff.mp hdescribed
    exact ⟨content, hread.symm.trans hcontent, hreplay⟩
  · rintro ⟨content, hcontent, hreplay⟩
    exact ⟨_, Shaped.read?_eq_ok_iff.mpr ⟨content, hread.trans hcontent, rfl⟩, hreplay⟩

variable {accepted text : String} {base : Query}

/-- **Another limit in the place changes nothing but the limit.** -/
theorem load?_fill_eq_ok_iff (hold : (place.fill old).Spells accepted)
    (hbase : load? .json accepted = .ok base) (hnew : (place.fill new).Spells text)
    {query : Query} :
    load? .json text = .ok query ↔
      ∃ limit, (Shape.optional Limit.shape).read .json new.tree = .ok limit ∧
        query = { base with limit := Option.map Limit.ofContent limit } := by
  obtain ⟨content, hcontent, hreplay⟩ := (load?_of_spells hold).mp hbase
  obtain ⟨hwell, rfl⟩ := replay?_eq_ok_iff.mp hreplay
  -- the filter is the same, so it is replayed as before
  have hreplay' (limit : (Shape.optional Limit.shape).Content) (query : Query) :
      (ofContent (withLimitSlot limit content)).replay? = .ok query ↔
        query = { (ofContent content).stored with limit := Option.map Limit.ofContent limit } := by
    rw [replay?_eq_ok_iff]
    exact and_iff_right hwell
  rw [load?_of_spells hnew]
  simp only [read_fill_iff hcontent]
  constructor
  · rintro ⟨_, ⟨limit, hlimit, rfl⟩, hquery⟩
    exact ⟨limit, hlimit, (hreplay' limit query).mp hquery⟩
  · rintro ⟨limit, hlimit, hquery⟩
    exact ⟨_, ⟨limit, hlimit, rfl⟩, (hreplay' limit query).mpr hquery⟩

/-- What cannot be read for the slot makes the text fail as a text. -/
theorem load?_fill_eq_error (hnew : (place.fill new).Spells text)
    (h : ∀ limit, (Shape.optional Limit.shape).read .json new.tree ≠ .ok limit) :
    ∃ fault, load? .json text = .error (.text .json fault) := by
  have hread : readShape .json shape text = shape.read .json (place.fill new).tree :=
    Json.readShape_of_spells hnew
  cases hfill : shape.read .json (place.fill new).tree with
  | ok content => exact absurd (read_limitSlot hfill) (h _)
  | error fault =>
      exact ⟨fault, load?_of_read?_error
        (Shaped.read?_eq_error_iff.mpr ⟨fault, hread.trans hfill, rfl⟩)⟩

end

end Query

end CompactQuery
