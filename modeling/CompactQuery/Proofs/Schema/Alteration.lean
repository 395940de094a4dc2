import CompactQuery.Proofs.Schema.Accepted
import CompactQuery.Proofs.Schema.Exchange
import Mathlib.Logic.Relation

/-!
# Alterations — one value, many descriptions

What a text is read as depends on what its slots are given and on nothing else: the order of the
members, members with other keys, whether a default is written or left out, whether a record is
written as a map or as the sequence of its slots, and the blanks are all the same to a reader.

* **`Json.Alters`** — one change to the description of a value, anywhere in it.
* **`Json.Alters.read`** — a change keeps the value, one case for each kind of change; those within
  a part of the description are carried by induction.
* **`Json.Rewrites`** — one change to a text; **`Json.readShape_of_rewrites`** — any number of them.
-/

namespace CompactQuery

namespace Json

/-- The name that a key spells, if it spells one. -/
def Source.spelled (key : List Glyph) : Except Defect String := (unescape key).map String.ofList

/-- The member has this key. -/
def Source.Keyed (name : String) (member : List Glyph × Source) : Prop :=
  Source.spelled member.1 = .ok name

/-- Glyphs that are written for a name spell that name only. -/
theorem Source.keyed_glyphs {name key : String} {value : Source} :
    Keyed name (glyphs key, value) ↔ key = name := by
  rw [Keyed, spelled, unescape_glyphs]
  simp

/-- What stands for nothing: null for an option, an empty sequence for a list. -/
inductive Source.Default : Shape → Source → Prop where
  | optional (s : Shape) : Default (.optional s) .null
  | list (s : Shape) : Default (.list s) (.array [])

/-- The values of the slots in their order, as the members give them. A slot that no member is for
has its default, and the last slots may be left off if each has its default. -/
inductive Source.Enumerates (members : List (List Glyph × Source)) :
    Slots → List Source → Prop where
  | given {slot : String} {s : Shape} {rest : Slots} {member : List Glyph × Source}
      {items : List Source} (hmem : member ∈ members) (hkey : Keyed slot member)
      (hrest : Enumerates members rest items) :
      Enumerates members (.cons slot s rest) (member.2 :: items)
  | supplied {slot : String} {s : Shape} {rest : Slots} {item : Source} {items : List Source}
      (hnone : ∀ member ∈ members, ¬ Keyed slot member) (hdefault : Default s item)
      (hrest : Enumerates members rest items) :
      Enumerates members (.cons slot s rest) (item :: items)
  | leftOff {slots : Slots}
      (hdefault : ∀ slot s, (slot, s) ∈ slots.toList →
        ∀ member ∈ members, Keyed slot member → Default s member.2) :
      Enumerates members slots []

open Source (Keyed Default Enumerates spelled)

/-- One change to the description of a value of a shape. To alter a member that is for no slot is to
delete it and to insert another. -/
inductive Alters : Shape → Source → Source → Prop where
  /-- The members of a record in another order. -/
  | permute {name : String} {slots : Slots} {members members' : List (List Glyph × Source)}
      (h : members.Perm members') :
      Alters (.record name slots) (.object members) (.object members')
  /-- One more member, with a key that is for no slot and any value. -/
  | insert {name other : String} {slots : Slots} {before after : List (List Glyph × Source)}
      {member : List Glyph × Source} (hkey : Keyed other member) (hother : other ∉ slots.keys) :
      Alters (.record name slots) (.object (before ++ after)) (.object (before ++ member :: after))
  /-- One member less, with a key that is for no slot. -/
  | delete {name other : String} {slots : Slots} {before after : List (List Glyph × Source)}
      {member : List Glyph × Source} (hkey : Keyed other member) (hother : other ∉ slots.keys) :
      Alters (.record name slots) (.object (before ++ member :: after)) (.object (before ++ after))
  /-- The default of a slot that no member is for. -/
  | add {name slot : String} {s : Shape} {slots : Slots} {before after : List (List Glyph × Source)}
      {member : List Glyph × Source} (hslot : (slot, s) ∈ slots.toList) (hkey : Keyed slot member)
      (hdefault : Default s member.2) (hnone : ∀ other ∈ before ++ after, ¬ Keyed slot other) :
      Alters (.record name slots) (.object (before ++ after)) (.object (before ++ member :: after))
  /-- A member that holds the default of its slot is left out. -/
  | drop {name slot : String} {s : Shape} {slots : Slots}
      {before after : List (List Glyph × Source)} {member : List Glyph × Source}
      (hslot : (slot, s) ∈ slots.toList) (hkey : Keyed slot member)
      (hdefault : Default s member.2) :
      Alters (.record name slots) (.object (before ++ member :: after)) (.object (before ++ after))
  /-- A sequence instead of a map. -/
  | enumerate {name : String} {slots : Slots} {members : List (List Glyph × Source)}
      {items : List Source} (h : Enumerates members slots items) :
      Alters (.record name slots) (.object members) (.array items)
  /-- A change within the member of a slot. -/
  | member {name slot : String} {s : Shape} {slots : Slots}
      {before after : List (List Glyph × Source)} {key : List Glyph} {value value' : Source}
      (hslot : (slot, s) ∈ slots.toList) (hkey : spelled key = .ok slot)
      (h : Alters s value value') :
      Alters (.record name slots) (.object (before ++ (key, value) :: after))
        (.object (before ++ (key, value') :: after))
  /-- A change within a slot of a record that is written as a sequence. -/
  | place {name slot : String} {s : Shape} {slots : Slots} {before after : List Source}
      {item item' : Source} (hslot : slots.toList[before.length]? = some (slot, s))
      (h : Alters s item item') :
      Alters (.record name slots) (.array (before ++ item :: after))
        (.array (before ++ item' :: after))
  /-- A change within an item of a list. -/
  | item {s : Shape} {before after : List Source} {item item' : Source} (h : Alters s item item') :
      Alters (.list s) (.array (before ++ item :: after)) (.array (before ++ item' :: after))
  /-- A change within what an option holds. -/
  | held {s : Shape} {source source' : Source} (h : Alters s source source') :
      Alters (.optional s) source source'

/-! ## Sources without defects -/

mutual

/-- A source is passed over without any defect, whatever its texts and numbers spell. -/
theorem Source.skipDefect_tree : (source : Source) → source.tree.skipDefect = none
  | .null | .flag _ | .number _ | .text _ => rfl
  | .array items => by
      rw [tree, Tree.skipDefect, skipItems_itemTrees items, Option.none_or]
  | .object members => by
      rw [tree, Tree.skipDefect, skipMembers_memberTrees members, Option.none_or]

theorem Source.skipItems_itemTrees :
    (items : List Source) → Tree.skipItems (itemTrees items) = none
  | [] => rfl
  | item :: rest => by
      rw [itemTrees, Tree.skipItems, item.skipDefect_tree, skipItems_itemTrees rest, Option.none_or]

theorem Source.skipMembers_memberTrees : (members : List (List Glyph × Source)) →
    Tree.skipMembers (memberTrees members) = none
  | [] => rfl
  | (key, value) :: rest => by
      rw [memberTrees, Tree.skipMembers, Key.skipDefect, value.skipDefect_tree,
        skipMembers_memberTrees rest, Option.none_or, Option.none_or]

end

theorem Source.Default.read_iff {s : Shape} {source : Source} (h : Source.Default s source)
    {v : s.Content} : s.read .json source.tree = .ok v ↔ s.absent = .some v := by
  cases h with
  | optional s =>
      constructor
      · rintro ⟨⟩
        rfl
      · rintro ⟨⟩
        rfl
  | list s =>
      constructor
      · rintro ⟨⟩
        rfl
      · rintro ⟨⟩
        rfl

end Json

open Json

/-! ## Members of a source -/

/-- A member as it is read. -/
def Json.Source.entry (member : List Glyph × Source) : Key × Tree :=
  (.name (Source.spelled member.1), member.2.tree)

theorem Json.Source.Keyed.read {name : String} {member : List Glyph × Source}
    (h : Source.Keyed name member) : (Source.entry member).1.read = .ok name :=
  h

theorem Json.Source.tree_object (members : List (List Glyph × Source)) :
    (Source.object members).tree = .object (members.map Source.entry) none := by
  rw [Source.tree, Source.memberTrees_eq_map]
  rfl

theorem Json.Source.tree_array (items : List Source) :
    (Source.array items).tree = .array (items.map Source.tree) none false := by
  rw [Source.tree, Source.itemTrees_eq_map]

section

variable {slots : Slots} {values : slots.Content}

theorem Shape.read_object_source_iff {name : String} (hs : slots.faithful = true)
    {members : List (List Glyph × Source)} :
    (Shape.record name slots).read .json (Source.object members).tree = .ok values ↔
      slots.Given (members.map Source.entry) values ∧
        slots.Passes (members.map Source.entry) := by
  rw [Source.tree_object, Shape.read_object_iff hs]
  simp

/-- The key of a member of a source can be read if a slot has it, and a member for no slot can be
passed over. -/
theorem Slots.passes_entry {name : String} {member : List Glyph × Source}
    (h : Source.Keyed name member) :
    ∃ read, (Source.entry member).1.read = .ok read ∧
      (read ∉ slots.keys → (Source.entry member).2.skipDefect = none) :=
  ⟨name, h, fun _ => member.2.skipDefect_tree⟩

theorem Slots.passes_insert_source {name : String} {member : List Glyph × Source}
    (h : Source.Keyed name member) {before after : List (List Glyph × Source)} :
    slots.Passes ((before ++ member :: after).map Source.entry) ↔
      slots.Passes ((before ++ after).map Source.entry) := by
  rw [List.map_append, List.map_cons, Slots.passes_insert, List.map_append]
  exact and_iff_right (Slots.passes_entry h)

variable {name other : String} {before after : List (List Glyph × Source)}
  {member : List Glyph × Source}

/-- A member may be put in if the slots take the same with it. -/
theorem Shape.read_object_insert (hs : slots.faithful = true) (hkey : Source.Keyed other member)
    (hgiven : slots.Given (before.map Source.entry ++ after.map Source.entry) values →
      slots.Given (before.map Source.entry ++ Source.entry member :: after.map Source.entry) values)
    (hread : (Shape.record name slots).read .json (Source.object (before ++ after)).tree
      = .ok values) :
    (Shape.record name slots).read .json (Source.object (before ++ member :: after)).tree
      = .ok values := by
  obtain ⟨hslots, hpasses⟩ := (Shape.read_object_source_iff hs).mp hread
  refine (Shape.read_object_source_iff hs).mpr ⟨?_, (Slots.passes_insert_source hkey).mpr hpasses⟩
  rw [List.map_append] at hslots
  rw [List.map_append, List.map_cons]
  exact hgiven hslots

/-- A member may be left out if the slots take the same without it. -/
theorem Shape.read_object_delete (hs : slots.faithful = true) (hkey : Source.Keyed other member)
    (hgiven : slots.Given
        (before.map Source.entry ++ Source.entry member :: after.map Source.entry) values →
      slots.Given (before.map Source.entry ++ after.map Source.entry) values)
    (hread : (Shape.record name slots).read .json (Source.object (before ++ member :: after)).tree
      = .ok values) :
    (Shape.record name slots).read .json (Source.object (before ++ after)).tree = .ok values := by
  obtain ⟨hslots, hpasses⟩ := (Shape.read_object_source_iff hs).mp hread
  refine (Shape.read_object_source_iff hs).mpr ⟨?_, (Slots.passes_insert_source hkey).mp hpasses⟩
  rw [List.map_append, List.map_cons] at hslots
  rw [List.map_append]
  exact hgiven hslots

end

/-! ## Sequences instead of maps -/

/-- The one member for a slot. -/
theorem Shape.Takes.of_keyed {s : Shape} {slot : String} {v : s.Content}
    {members : List (List Glyph × Source)}
    (h : s.Takes (Tree.named slot (members.map Source.entry)) v) {member : List Glyph × Source}
    (hmem : member ∈ members) (hkey : Source.Keyed slot member) :
    s.read .json member.2.tree = .ok v :=
  (h.eq_singleton (Tree.mem_named (List.mem_map_of_mem hmem) hkey)).2

/-- No member for a slot. -/
theorem Shape.Takes.of_not_keyed {s : Shape} {slot : String} {v : s.Content}
    {members : List (List Glyph × Source)}
    (h : s.Takes (Tree.named slot (members.map Source.entry)) v)
    (hnone : ∀ member ∈ members, ¬ Source.Keyed slot member) : s.absent = some v := by
  rw [Tree.named_eq_nil (List.forall_mem_map.mpr hnone), Shape.takes_nil_iff] at h
  exact h

/-- Slots may be left off if they are left out or hold what stands for nothing. -/
theorem Slots.Given.listed_nil {slots : Slots} {values : slots.Content}
    {members : List (List Glyph × Source)} (h : slots.Given (members.map Source.entry) values)
    (hdefault : ∀ slot s, (slot, s) ∈ slots.toList →
      ∀ member ∈ members, Source.Keyed slot member → Source.Default s member.2) :
    slots.Listed [] values := by
  match slots, values with
  | .nil, _ => rfl
  | .cons slot s rest, (value, values) =>
      have hrest : rest.Listed [] values :=
        listed_nil h.2 fun slot s hslot => hdefault slot s (List.mem_cons_of_mem _ hslot)
      refine ⟨.left ?_, hrest⟩
      by_cases hmember : ∃ member ∈ members, Source.Keyed slot member
      · obtain ⟨member, hmem, hkey⟩ := hmember
        exact (hdefault slot s List.mem_cons_self member hmem hkey).read_iff.mp
          (h.1.of_keyed hmem hkey)
      · exact h.1.of_not_keyed fun member hmem hkey => hmember ⟨member, hmem, hkey⟩

/-- What the slots take from the members they take from the sequence of the values too. -/
theorem Slots.Given.listed {slots : Slots} {values : slots.Content}
    {members : List (List Glyph × Source)} {items : List Source}
    (henumerates : Source.Enumerates members slots items)
    (h : slots.Given (members.map Source.entry) values) :
    slots.Listed (items.map Source.tree) values := by
  induction henumerates with
  | given hmem hkey _ ih => exact ⟨.given (h.1.of_keyed hmem hkey), ih h.2⟩
  | supplied hnone hdefault _ ih =>
      exact ⟨.given (hdefault.read_iff.mpr (h.1.of_not_keyed hnone)), ih h.2⟩
  | leftOff hdefault => exact h.listed_nil hdefault

/-! ## Changes keep the value -/

/-- What can be changed is not null. -/
theorem Json.Alters.tree_ne_null {s : Shape} {source source' : Source}
    (h : Alters s source source') : source.tree ≠ .null ∧ source'.tree ≠ .null := by
  induction h with
  | held h ih => exact ih
  | _ => exact ⟨by simp [Source.tree], by simp [Source.tree]⟩

/-- **A change to a description keeps the value** that it describes. -/
theorem Json.Alters.read {s : Shape} {source source' : Source} (h : Alters s source source')
    (hs : s.faithful = true) {v : s.Content} (hread : s.read .json source.tree = .ok v) :
    s.read .json source'.tree = .ok v := by
  induction h with
  | permute hperm =>
      obtain ⟨hgiven, hpasses⟩ := (Shape.read_object_source_iff hs).mp hread
      have hentries := hperm.map Source.entry
      exact (Shape.read_object_source_iff hs).mpr
        ⟨hgiven.perm hentries, fun entry hmem => hpasses entry (hentries.mem_iff.mpr hmem)⟩
  | insert hkey hother =>
      exact Shape.read_object_insert hs hkey (Slots.given_insert hkey.read hother).mpr hread
  | delete hkey hother =>
      exact Shape.read_object_delete hs hkey (Slots.given_insert hkey.read hother).mp hread
  | add hslot hkey hdefault hnone =>
      refine Shape.read_object_insert hs hkey (fun hgiven => ?_) hread
      refine hgiven.insert hs hslot hkey.read ?_ fun v habsent => hdefault.read_iff.mpr habsent
      rw [← List.map_append]
      exact List.forall_mem_map.mpr hnone
  | drop hslot hkey hdefault =>
      refine Shape.read_object_delete hs hkey (fun hgiven => ?_) hread
      exact hgiven.delete hs hslot hkey.read fun v hv => hdefault.read_iff.mp hv
  | enumerate henumerates =>
      obtain ⟨hgiven, _⟩ := (Shape.read_object_source_iff hs).mp hread
      rw [Source.tree_array]
      exact Shape.read_array_iff.mpr ⟨rfl, hgiven.listed henumerates⟩
  | @member name slot s slots before after key value value' hslot hkey h ih =>
      -- the slot takes what the one member with its key holds, and that is kept by induction
      obtain ⟨hgiven, hpasses⟩ := (Shape.read_object_source_iff hs).mp hread
      have hpart := (Slots.faithful_of_mem hs hslot).1
      refine (Shape.read_object_source_iff hs).mpr ⟨?_, ?_⟩
      · rw [List.map_append, List.map_cons] at hgiven ⊢
        have hread : (Key.name (Source.spelled key)).read = .ok slot := hkey
        exact hgiven.replace hs hslot hread fun v hv => ih hpart hv
      · have hkeyed (value : Source) : Source.Keyed slot (key, value) := hkey
        exact (Slots.passes_insert_source (hkeyed value')).mpr
          ((Slots.passes_insert_source (hkeyed value)).mp hpasses)
  | @place name slot s slots before after item item' hslot h ih =>
      have hpart := (Slots.faithful_of_mem hs (List.mem_of_getElem? hslot)).1
      rw [Source.tree_array, List.map_append, List.map_cons] at hread ⊢
      obtain ⟨_, hlisted⟩ := Shape.read_array_iff.mp hread
      have hplace : slots.toList[(before.map Source.tree).length]? = some (slot, s) := by
        rwa [List.length_map]
      exact Shape.read_array_iff.mpr ⟨rfl, hlisted.replace hplace fun v hv => ih hpart hv⟩
  | @item s before after item item' h ih =>
      rw [Source.tree_array, List.map_append, List.map_cons] at hread ⊢
      obtain ⟨_, hitems⟩ := Shape.read_list_iff.mp hread
      exact Shape.read_list_iff.mpr ⟨rfl, forall₂_replace (fun v hv => ih hs hv) hitems⟩
  | @held s source source' h ih =>
      -- an option reads anything but null as what it holds
      obtain ⟨_, hpart⟩ : s.isOptional = false ∧ s.faithful = true := by
        simpa [Shape.faithful] using hs
      obtain ⟨hsource, hsource'⟩ := h.tree_ne_null
      obtain ⟨value, hvalue, heq⟩ := (Shape.read_optional_iff hsource).mp hread
      exact (Shape.read_optional_iff hsource').mpr ⟨value, ih hpart hvalue, heq⟩

/-! ## Changes to a text -/

/-- One change to a text that describes a value of a shape: other blanks, or another description. -/
def Json.Rewrites (s : Shape) (text text' : String) : Prop :=
  ∃ source source' : Source, source.Spells text ∧ source'.Spells text' ∧
    (source = source' ∨ Alters s source source')

theorem Json.Rewrites.readShape {s : Shape} (hs : s.faithful = true) {text text' : String}
    (h : Rewrites s text text') {v : s.Content} (hread : Json.readShape s text = .ok v) :
    Json.readShape s text' = .ok v := by
  obtain ⟨source, source', hspells, hspells', hchange⟩ := h
  rw [Json.readShape_of_spells hspells] at hread
  rw [Json.readShape_of_spells hspells']
  rcases hchange with rfl | hchange
  · exact hread
  · exact hchange.read hs hread

/-- **Any number of changes to a text keep the value** that it describes. -/
theorem Json.readShape_of_rewrites {s : Shape} (hs : s.faithful = true) {text text' : String}
    (h : Relation.ReflTransGen (Json.Rewrites s) text text') {v : s.Content}
    (hread : Json.readShape s text = .ok v) : Json.readShape s text' = .ok v := by
  induction h with
  | refl => exact hread
  | tail _ hstep ih => exact hstep.readShape hs ih

end CompactQuery
