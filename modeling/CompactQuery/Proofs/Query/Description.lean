import CompactQuery.Proofs.Query.Loading
import CompactQuery.Proofs.Schema.Alteration

/-!
# Descriptions — the layout of a JSON text does not matter

The records of a query are its fields, joins with their conditions, filter, sort keys and limit, one
within the other. A text that is accepted may be changed in any of them, and it loads what it loaded
before: the same query, or the same fault in the chain of its filter.

* **`Query.read?_of_rewrites`**, **`Query.load?_of_rewrites`** — reading and loading keep their
  outcome.
* **`Query.layout_irrelevant`** — every accepted text is the source of such changes, and they change
  nothing.
-/

namespace CompactQuery

namespace Query

open Json (Source Rewrites Alters)

theorem read?_of_rewrites {text text' : String}
    (h : Relation.ReflTransGen (Rewrites Query.shape) text text') {query : Query}
    (hread : Shaped.read? Query .json text = .ok query) :
    Shaped.read? Query .json text' = .ok query := by
  obtain ⟨content, hcontent, rfl⟩ := Shaped.read?_eq_ok_iff.mp hread
  exact Shaped.read?_eq_ok_iff.mpr ⟨content, Json.readShape_of_rewrites rfl h hcontent, rfl⟩

theorem load?_of_rewrites {text text' : String}
    (h : Relation.ReflTransGen (Rewrites Query.shape) text text') {query : Query}
    (hread : Shaped.read? Query .json text = .ok query) :
    load? .json text' = load? .json text := by
  rw [load?, load?, hread, read?_of_rewrites h hread]

/-- **The layout of a description does not matter.** Every text that is accepted is spelled by a
source, and any number of changes to its members, its defaults, its maps and its blanks, at any of
its records, leave it the same query, or the same fault in its filter. -/
theorem layout_irrelevant {text : String} {query : Query}
    (hread : Shaped.read? Query .json text = .ok query) :
    (∃ source : Source, source.Spells text) ∧
      ∀ text', Relation.ReflTransGen (Rewrites Query.shape) text text' →
        Shaped.read? Query .json text' = .ok query ∧ load? .json text' = load? .json text := by
  obtain ⟨content, hcontent, _⟩ := Shaped.read?_eq_ok_iff.mp hread
  exact ⟨Json.exists_spells_of_readShape rfl hcontent, fun text' h =>
    ⟨read?_of_rewrites h hread, load?_of_rewrites h hread⟩⟩

/-! ## A map and a sequence -/

open Json (Value)

/-- A limit as a map, behind it a member that a query does not have. -/
def mappedLimit : Value :=
  .object [("limit", .object [("count", .natural 3)]), ("x", .array [.null]), ("table", .text "t")]

/-- The same with the limit as a sequence. -/
def listedLimit : Value :=
  .object [("limit", .array [.natural 3]), ("x", .array [.null]), ("table", .text "t")]

/-- The same as a sequence, without the last of its slots. -/
def listedQuery : Value :=
  .array [.text "t", .array [], .array [], .array [], .array [], .array [.natural 3]]

theorem alters_mappedLimit : Alters Query.shape mappedLimit.source listedLimit.source := by
  have hlimit : Alters Limit.shape (Value.object [("count", .natural 3)]).source
      (Value.array [.natural 3]).source := by
    -- the offset is left out of the map, and so it may be left off the sequence
    refine .enumerate (.given List.mem_cons_self (Source.keyed_glyphs.mpr rfl) (.leftOff ?_))
    simp [Slots.toList, Value.memberSources, Source.keyed_glyphs]
  exact @Alters.member "Query" "limit" (.optional Limit.shape) _ []
    (Value.memberSources [("x", .array [.null]), ("table", .text "t")]) (Json.glyphs "limit") _ _
    (by simp [Slots.toList]) (Json.unescape_glyphs "limit") (.held hlimit)

theorem alters_listedLimit : Alters Query.shape listedLimit.source listedQuery.source := by
  have hnone (slot : String) (h : slot ∉ ["limit", "x", "table"]) :
      ∀ member ∈ Value.memberSources
        [("limit", .array [.natural 3]), ("x", .array [.null]), ("table", .text "t")],
        ¬ Source.Keyed slot member := by
    simpa [Value.memberSources, Source.keyed_glyphs, eq_comm] using h
  have hlast : Source.Enumerates
      (Value.memberSources
        [("limit", .array [.natural 3]), ("x", .array [.null]), ("table", .text "t")])
      (.cons "limit" (.optional Limit.shape) (.cons "group" (.list .text) .nil))
      [(Value.array [.natural 3]).source] := by
    refine .given List.mem_cons_self (Source.keyed_glyphs.mpr rfl) (.leftOff ?_)
    simp [Slots.toList, Value.memberSources, Source.keyed_glyphs]
  exact .enumerate <| .given
    (List.mem_cons_of_mem _ (List.mem_cons_of_mem _ List.mem_cons_self))
    (Source.keyed_glyphs.mpr rfl) <|
    .supplied (hnone "fields" (by decide)) (.list _) <|
    .supplied (hnone "joins" (by decide)) (.list _) <|
    .supplied (hnone "where" (by decide)) (.list _) <|
    .supplied (hnone "order" (by decide)) (.list _) hlast

theorem layout_irrelevant_listedQuery :
    mappedLimit.compact
        = "\x7b\"limit\":\x7b\"count\":3\x7d,\"x\":[null],\"table\":\"t\"\x7d" ∧
      listedQuery.compact = "[\"t\",[],[],[],[],[3]]" ∧
      Shaped.read? Query .json mappedLimit.compact
        = .ok ((ofTable "t").perform (.limitTo 3 none)) ∧
      Shaped.read? Query .json listedQuery.compact
        = .ok ((ofTable "t").perform (.limitTo 3 none)) ∧
      load? .json listedQuery.compact = load? .json mappedLimit.compact := by
  have hread : Shaped.read? Query .json mappedLimit.compact
      = .ok ((ofTable "t").perform (.limitTo 3 none)) := by decide +kernel
  have hrewrites : Relation.ReflTransGen (Rewrites Query.shape) mappedLimit.compact
      listedQuery.compact :=
    .tail
      (.single ⟨_, _, mappedLimit.spells_compact, listedLimit.spells_compact,
        .inr alters_mappedLimit⟩)
      ⟨_, _, listedLimit.spells_compact, listedQuery.spells_compact, .inr alters_listedLimit⟩
  exact ⟨by decide +kernel, by decide +kernel, hread,
    (layout_irrelevant hread).2 listedQuery.compact hrewrites⟩

end Query

end CompactQuery
