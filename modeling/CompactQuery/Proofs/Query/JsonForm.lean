import CompactQuery.Loading
import CompactQuery.Proofs.Query.Replay
import CompactQuery.Proofs.Schema.RoundTrip

/-!
# The JSON form — what is written as JSON reads back

Ten types have a JSON text. Their shapes are faithful, so each value of them is what its text reads
as: with every character of its strings, with nothing and the empty text kept apart, and with every
count below 2^64. Loading a query replays it as well, which changes nothing about a query that steps
have built.

* **`Shaped.roundTrips`** — values of a faithful shape read back.
* **`json_exact`** — all ten types, and loading.
-/

namespace CompactQuery

/-- Every value of the type is what its JSON text reads as. -/
def RoundTrips (α : Type) [Shaped α] : Prop :=
  ∀ a : α, Shaped.read? α .json (Shaped.jsonText a) = .ok a

theorem Shaped.roundTrips {α : Type} [Shaped α] (h : (Shaped.shape α).faithful = true) :
    RoundTrips α := by
  intro a
  have hread : readShape .json (Shaped.shape α) (Shaped.jsonText a) = .ok (Shaped.toContent a) :=
    Json.readShape_compact h (Shaped.toContent a)
  simp only [Shaped.read?, hread, Shaped.ofContent_toContent]

namespace Query

theorem roundTrips : RoundTrips Query := Shaped.roundTrips rfl

/-- A query that steps can build is loaded from its own text. -/
theorem Reachable.load?_jsonText {query : Query} (h : query.Reachable) :
    load? .json (Shaped.jsonText query) = .ok query := by
  simp only [load?, roundTrips query, h.replay?_eq_ok]

/-- **The JSON form is exact**: every value of the ten types reads back from its text, and every query
that steps can build is loaded from its own. -/
theorem json_exact :
    (RoundTrips Field ∧ RoundTrips JoinCondition ∧ RoundTrips Join ∧ RoundTrips FilterCondition ∧
      RoundTrips SortKey ∧ RoundTrips Limit ∧ RoundTrips Query ∧ RoundTrips Settings ∧
      RoundTrips OutputSettings ∧ RoundTrips OutputForm) ∧
    ∀ query : Query, query.Reachable → load? .json (Shaped.jsonText query) = .ok query :=
  ⟨⟨Shaped.roundTrips rfl, Shaped.roundTrips rfl, Shaped.roundTrips rfl, Shaped.roundTrips rfl,
    Shaped.roundTrips rfl, Shaped.roundTrips rfl, roundTrips, Shaped.roundTrips rfl,
    Shaped.roundTrips rfl, Shaped.roundTrips rfl⟩, fun _ h => h.load?_jsonText⟩

/-- Texts with characters that are escaped and with some beyond ASCII, an empty group, the largest
count. -/
def oddTexts : Query :=
  (ofTable "a\"b\\c").performAll
    [.select "\n\x01" none, .groupBy "", .groupBy "é\x7f", .limitTo 18446744073709551615 (some 0)]

theorem json_exact_oddTexts :
    oddTexts.Reachable ∧
      Shaped.jsonText oddTexts =
        "\x7b\"table\":\"a\\\"b\\\\c\",\"fields\":[\x7b\"name\":\"\\n\\u0001\",\"alias\":null\x7d],"
          ++ "\"joins\":[],\"where\":[],\"order\":[],"
          ++ "\"limit\":\x7b\"count\":18446744073709551615,\"offset\":0\x7d,"
          ++ "\"group\":[\"\",\"é\x7f\"]\x7d" ∧
      load? .json (Shaped.jsonText oddTexts) = .ok oddTexts := by
  have hreach : oddTexts.Reachable := ⟨_, _, rfl⟩
  exact ⟨hreach, by decide +kernel, json_exact.2 oddTexts hreach⟩

end Query

end CompactQuery
