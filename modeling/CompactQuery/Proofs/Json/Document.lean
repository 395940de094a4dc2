import CompactQuery.Proofs.Json.Source

/-!
# Documents of JSON — what is written reads back as its tree

A value is written in one way of the many: each character by the glyph that is due to it, each
number by its digits, and no blanks, or, for an object, its members on lines of their own.

* **`Value.tree`** — the tree that a value spells; **`Value.source`** — the way it is written.
* **`Value.spells_compact`**, **`spells_prettyObject`** — the two layouts.
* **`Document.ofText_compact`** — the document of a written value.
-/

namespace CompactQuery.Json

/-- The glyphs that are written for a text. -/
def glyphs (s : String) : List Glyph := s.toList.map Glyph.ofChar

theorem unescape_glyphs (s : String) : (unescape (glyphs s)).map String.ofList = .ok s := by
  rw [glyphs, unescape_map_ofChar]
  exact congrArg Except.ok String.ofList_toList

theorem chars_text_glyphs (s : String) : (Lexeme.text (glyphs s)).chars = quote s := by
  have hchars : (glyphs s).flatMap Glyph.chars = s.toList.flatMap escapeChar := by
    rw [glyphs, List.flatMap_map]
    exact congrArg (fun f => s.toList.flatMap f) (funext chars_ofChar)
  rw [Lexeme.chars, hchars, quote, List.cons_append]

namespace Value

/-! ## The tree and the source of a value -/

mutual

/-- The tree that a value spells. -/
def tree : Value → Tree
  | .null => .null
  | .flag b => .flag b
  | .natural n => .number (.ok (.natural n))
  | .text s => .text (.ok s)
  | .array items => .array (itemTrees items) none false
  | .object members => .object (memberTrees members) none

def itemTrees : List Value → List Tree
  | [] => []
  | item :: rest => item.tree :: itemTrees rest

def memberTrees : List (String × Value) → List (Key × Tree)
  | [] => []
  | (key, value) :: rest => (.name (.ok key), value.tree) :: memberTrees rest

end

mutual

/-- The way a value is written. -/
def source : Value → Source
  | .null => .null
  | .flag b => .flag b
  | .natural n => .number (Figures.ofNat n.toNat)
  | .text s => .text (glyphs s)
  | .array items => .array (itemSources items)
  | .object members => .object (memberSources members)

def itemSources : List Value → List Source
  | [] => []
  | item :: rest => item.source :: itemSources rest

def memberSources : List (String × Value) → List (List Glyph × Source)
  | [] => []
  | (key, value) :: rest => (glyphs key, value.source) :: memberSources rest

end

theorem itemTrees_eq_map (items : List Value) : itemTrees items = items.map tree := by
  induction items with
  | nil => rw [itemTrees, List.map_nil]
  | cons item rest ih => rw [itemTrees, ih, List.map_cons]

mutual

theorem tree_source : (value : Value) → value.source.tree = value.tree
  | .null | .flag _ => rfl
  | .natural n => by rw [source, Source.tree, number?_ofNat, tree]
  | .text s => by rw [source, Source.tree, unescape_glyphs, tree]
  | .array items => by rw [source, Source.tree, itemTrees_source items, tree]
  | .object members => by rw [source, Source.tree, memberTrees_source members, tree]

theorem itemTrees_source :
    (items : List Value) → Source.itemTrees (itemSources items) = itemTrees items
  | [] => rfl
  | item :: rest => by
      rw [itemSources, Source.itemTrees, item.tree_source, itemTrees_source rest, itemTrees]

theorem memberTrees_source : (members : List (String × Value)) →
    Source.memberTrees (memberSources members) = memberTrees members
  | [] => rfl
  | (key, value) :: rest => by
      rw [memberSources, Source.memberTrees, unescape_glyphs, value.tree_source,
        memberTrees_source rest, memberTrees]

end

/-! ## Without blanks -/

mutual

theorem chars_source : (value : Value) → value.source.lexemes.flatMap Lexeme.chars = value.chars
  | .null | .flag true | .flag false => rfl
  | .natural n => by simp [source, Source.lexemes, Lexeme.chars, chars_ofNat, chars]
  | .text s => by simp [source, Source.lexemes, chars_text_glyphs, chars]
  | .array [] | .object [] => rfl
  | .array (item :: rest) => by
      simp [source, itemSources, Source.lexemes, Lexeme.chars, item.chars_source,
        itemChars_source rest, chars]
  | .object ((key, value) :: rest) => by
      simp only [source, memberSources, Source.lexemes, List.flatMap_cons, List.flatMap_append,
        chars_text_glyphs, value.chars_source, memberChars_source rest, chars]
      simp [Lexeme.chars]

theorem itemChars_source : (items : List Value) →
    (Source.itemLexemes (itemSources items)).flatMap Lexeme.chars = itemChars items
  | [] => rfl
  | item :: rest => by
      simp [itemSources, Source.itemLexemes, Lexeme.chars, item.chars_source,
        itemChars_source rest, itemChars]

theorem memberChars_source : (members : List (String × Value)) →
    (Source.memberLexemes (memberSources members)).flatMap Lexeme.chars = memberChars members
  | [] => rfl
  | (key, value) :: rest => by
      simp only [memberSources, Source.memberLexemes, List.flatMap_cons, List.flatMap_append,
        chars_text_glyphs, value.chars_source, memberChars_source rest, memberChars]
      simp [Lexeme.chars]

end

theorem laidOut_chars (value : Value) : LaidOut value.source.lexemes value.chars := by
  rw [← chars_source]
  exact laidOut_flatMap _

theorem spells_compact (value : Value) : value.source.Spells value.compact := by
  rw [compact, ← chars_source]
  exact value.source.spells_flatMap

end Value

/-- **A written value is read as its tree**, with nothing behind it. -/
theorem Document.ofText_compact (value : Value) :
    Document.ofText value.compact = ⟨value.tree, false⟩ := by
  rw [Document.ofText_of_spells value.spells_compact, value.tree_source]

/-! ## Members on lines of their own -/

theorem laidOut_prettyMember (member : String × Value) {lexemes : List Lexeme} {text : List Char}
    (h : LaidOut lexemes text) :
    LaidOut (.text (glyphs member.1) :: .colon :: (member.2.source.lexemes ++ lexemes))
      (prettyMember member ++ text) := by
  have hvalue := (member.2.laidOut_chars.append h).blank (c := ' ') (by decide)
  have hkey := (hvalue.lexeme .colon).lexeme (.text (glyphs member.1))
  rw [chars_text_glyphs] at hkey
  have hblanks := (hkey.blank (c := ' ') (by decide)).blank (c := ' ') (by decide)
  simpa [prettyMember, Lexeme.chars] using hblanks

/-- The members from one on, each on a line of its own, with the brace that closes them. -/
theorem laidOut_prettyMembers (member : String × Value) (members : List (String × Value)) :
    LaidOut
      (.text (glyphs member.1) :: .colon ::
        (member.2.source.lexemes ++ Source.memberLexemes (Value.memberSources members)))
      (List.intercalate [',', '\n'] ((member :: members).map prettyMember) ++ ['\n', '\x7d']) := by
  induction members generalizing member with
  | nil =>
      have hclose : LaidOut [.closeObject] ['\n', '\x7d'] :=
        (laidOut_flatMap [.closeObject]).blank (by decide)
      simpa [List.intercalate, Value.memberSources, Source.memberLexemes]
        using laidOut_prettyMember member hclose
  | cons next members ih =>
      -- the comma stands at the end of a line, and the next member follows on its own
      have hnext := ((ih next).blank (c := '\n') (by decide)).lexeme .comma
      simpa [List.intercalate, Lexeme.chars, Value.memberSources, Source.memberLexemes]
        using laidOut_prettyMember member hnext

theorem spells_prettyObject (member : String × Value) (members : List (String × Value)) :
    (Value.object (member :: members)).source.Spells (prettyObject (member :: members)) := by
  have hmembers := ((laidOut_prettyMembers member members).blank (c := '\n') (by decide)).lexeme
    .openObject
  rw [Source.Spells, prettyObject, String.toList_ofList]
  simpa [Lexeme.chars, Value.source, Value.memberSources, Source.lexemes] using hmembers

/-- **An object with its members on lines of their own is read as its tree**, with nothing behind it
but the end of its last line. -/
theorem Document.ofText_prettyObject (member : String × Value) (members : List (String × Value)) :
    Document.ofText (prettyObject (member :: members) ++ "\n")
      = ⟨(Value.object (member :: members)).tree, false⟩ := by
  rw [Document.ofText_of_spells (spells_prettyObject member members).newline, Value.tree_source]

end CompactQuery.Json
