import CompactQuery.Proofs.Query.Loading
import CompactQuery.Proofs.Schema.Agreement

/-!
# Formats — JSON and TOML describe the same queries

A text in JSON and one in TOML that hold the same data load the same query, or fail at the same
place in the chain of the filter, or hold no query for the same reason, in the same words.

* **`Format.Holds`** — that a text in a format holds data.
* **`Query.formats_agree`** — the three outcomes.
-/

namespace CompactQuery

/-- The text is well formed and holds the data. -/
def Format.Holds : Format → String → Data → Prop
  | .json, text, data => ∃ tree, Json.Document.ofText text = ⟨tree, false⟩ ∧ tree.Holds data
  | .toml, text, data => ∃ tree, Toml.tree? text = some tree ∧ tree.Holds data

theorem Format.holds_json {text : String} {data : Data}
    (h : (Json.Document.ofText text).trailing = false ∧
      (Json.Document.ofText text).tree.holds data) : Format.json.Holds text data :=
  ⟨_, by rw [← h.1], Tree.holds_sound.1 _ _ h.2⟩

theorem Format.holds_toml {text : String} {data : Data}
    (h : (Toml.tree? text).any fun tree => tree.holds data) : Format.toml.Holds text data := by
  cases htree : Toml.tree? text with
  | none => simp [htree] at h
  | some tree => exact ⟨tree, htree, Tree.holds_sound.1 _ _ (by simpa [htree] using h)⟩

/-- What texts in both formats hold is read alike. -/
theorem readShape_alike {s : Shape} (hs : s.formless = true) {jsonText tomlText : String}
    {data : Data} (hjson : Format.json.Holds jsonText data)
    (htoml : Format.toml.Holds tomlText data) (hmapped : s.mapped data) :
    Alike (readShape .json s jsonText) (readShape .toml s tomlText) := by
  obtain ⟨json, hdocument, hjson⟩ := hjson
  obtain ⟨toml, htree, htoml⟩ := htoml
  have hread : readShape .json s jsonText = s.read .json json := by
    rw [readShape, Json.readShape, hdocument]
    cases s.read .json json <;> rfl
  have hread' : readShape .toml s tomlText = s.read .toml toml := by
    rw [readShape, Toml.readShape, htree]
  rw [hread, hread']
  exact s.agrees hs hjson htoml hmapped

namespace Query

/-- **Both formats load the same from the same data**: the same query, the same fault in its filter,
or the same mismatch. -/
theorem formats_agree {jsonText tomlText : String} {data : Data}
    (hjson : Format.json.Holds jsonText data) (htoml : Format.toml.Holds tomlText data)
    (hmapped : Query.shape.mapped data) :
    (∃ query, load? .json jsonText = .ok query ∧ load? .toml tomlText = .ok query) ∨
    (∃ fault, load? .json jsonText = .error (.sequence fault) ∧
      load? .toml tomlText = .error (.sequence fault)) ∨
    ∃ m : Mismatch,
      load? .json jsonText = .error (.text .json (.mismatch m)) ∧
      load? .toml tomlText = .error (.text .toml (.mismatch m)) ∧
      (LoadError.text .json (.mismatch m)).message = "JSON error: " ++ m.message ∧
      (LoadError.text .toml (.mismatch m)).message = "TOML error: " ++ m.message := by
  obtain ⟨heq, hmismatched⟩ := readShape_alike (s := Query.shape) rfl hjson htoml hmapped
  cases hcontent : readShape .json Query.shape jsonText with
  | ok content =>
      rw [hcontent] at heq
      have hread : Shaped.read? Query .json jsonText = .ok (ofContent content) :=
        Shaped.read?_eq_ok_iff.mpr ⟨content, hcontent, rfl⟩
      have hread' : Shaped.read? Query .toml tomlText = .ok (ofContent content) :=
        Shaped.read?_eq_ok_iff.mpr ⟨content, heq.symm, rfl⟩
      -- the same description is replayed, whichever format it is from
      rw [load?_of_read?_ok hread, load?_of_read?_ok hread']
      cases (ofContent content).replay? with
      | ok query => exact .inl ⟨query, rfl, rfl⟩
      | error fault => exact .inr (.inl ⟨fault, rfl, rfl⟩)
  | error fault =>
      rw [hcontent] at heq hmismatched
      -- both texts are well formed, so what is at fault is no defect
      obtain ⟨m, rfl⟩ := hmismatched fault rfl
      have hread : Shaped.read? Query .json jsonText = .error (.text .json (.mismatch m)) :=
        Shaped.read?_eq_error_iff.mpr ⟨_, hcontent, rfl⟩
      have hread' : Shaped.read? Query .toml tomlText = .error (.text .toml (.mismatch m)) :=
        Shaped.read?_eq_error_iff.mpr ⟨_, heq.symm, rfl⟩
      exact .inr (.inr ⟨m, load?_of_read?_error hread, load?_of_read?_error hread', rfl, rfl⟩)

/-- A count below zero, in a table of its own in TOML, behind a list of tables. -/
def negativeLimit : Data :=
  .table [("table", .text "t"), ("fields", .list [.table [("name", .text "a")]]),
    ("limit", .table [("count", .integer (-1))])]

theorem formats_agree_negativeLimit :
    let jsonText := "\x7b\"table\": \"t\", \"fields\": [\x7b\"name\": \"a\"\x7d], "
      ++ "\"limit\": \x7b\"count\": -1\x7d\x7d"
    let tomlText := "table = \"t\"\n[[fields]]\nname = \"a\"\n[limit]\ncount = -1\n"
    Format.json.Holds jsonText negativeLimit ∧ Format.toml.Holds tomlText negativeLimit ∧
      Query.shape.mapped negativeLimit ∧
      load? .json jsonText = .error (.text .json (.mismatch (.negativeCount (-1)))) ∧
      load? .toml tomlText = .error (.text .toml (.mismatch (.negativeCount (-1)))) := by
  intro jsonText tomlText
  have hjson : Format.json.Holds jsonText negativeLimit := Format.holds_json (by decide +kernel)
  have htoml : Format.toml.Holds tomlText negativeLimit := Format.holds_toml (by decide +kernel)
  have hmapped : Query.shape.mapped negativeLimit := by decide +kernel
  have hload : load? .json jsonText = .error (.text .json (.mismatch (.negativeCount (-1)))) := by
    decide +kernel
  refine ⟨hjson, htoml, hmapped, hload, ?_⟩
  rcases formats_agree hjson htoml hmapped with ⟨_, h, _⟩ | ⟨_, h, _⟩ | ⟨m, h, h', _⟩
  · rw [hload] at h
    exact nomatch h
  · rw [hload] at h
    exact nomatch h
  · rw [hload] at h
    cases h
    exact h'

end Query

end CompactQuery
