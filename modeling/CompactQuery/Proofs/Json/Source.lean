import CompactQuery.Json.Document
import CompactQuery.Proofs.Json.Layout

/-!
# Source — the values of JSON as they are written

A text of JSON is a value with its texts and numbers written in one of many ways and its tokens laid
out in one of many ways. The growth of a tree is followed through the tokens of a value, whatever
containers are open around it and whatever follows.

* **`Source`** — a value as it is written; **`Source.tree`** — what it spells; **`Source.Spells`** —
  that a text is made of it.
* **`Source.grows`** — where a value is due, a source has the effect that its tree is complete. One
  case for each form of value; those of containers are inductions on the items and the members that
  are left, with what the container holds so far.
* **`Document.ofText_of_spells`** — the document of a text that a source spells.
-/

namespace CompactQuery.Json

/-- A value of JSON as it is written. -/
inductive Source where
  | null
  | flag (b : Bool)
  | number (figures : Figures)
  | text (glyphs : List Glyph)
  | array (items : List Source)
  | object (members : List (List Glyph × Source))

namespace Source

mutual

/-- The tree that a source spells. -/
def tree : Source → Tree
  | .null => .null
  | .flag b => .flag b
  | .number figures => .number figures.numeral.number?
  | .text glyphs => .text ((unescape glyphs).map String.ofList)
  | .array items => .array (itemTrees items) none false
  | .object members => .object (memberTrees members) none

def itemTrees : List Source → List Tree
  | [] => []
  | item :: rest => item.tree :: itemTrees rest

def memberTrees : List (List Glyph × Source) → List (Key × Tree)
  | [] => []
  | (key, value) :: rest =>
    (.name ((unescape key).map String.ofList), value.tree) :: memberTrees rest

end

mutual

/-- The lexemes of a source. -/
def lexemes : Source → List Lexeme
  | .null => [.null]
  | .flag b => [.flag b]
  | .number figures => [.number figures]
  | .text glyphs => [.text glyphs]
  | .array [] => [.openArray, .closeArray]
  | .array (item :: rest) => .openArray :: (item.lexemes ++ itemLexemes rest)
  | .object [] => [.openObject, .closeObject]
  | .object ((key, value) :: rest) =>
    .openObject :: .text key :: .colon :: (value.lexemes ++ memberLexemes rest)

/-- The items after the first, with the bracket that closes them. -/
def itemLexemes : List Source → List Lexeme
  | [] => [.closeArray]
  | item :: rest => .comma :: (item.lexemes ++ itemLexemes rest)

/-- The members after the first, with the brace that closes them. -/
def memberLexemes : List (List Glyph × Source) → List Lexeme
  | [] => [.closeObject]
  | (key, value) :: rest => .comma :: .text key :: .colon :: (value.lexemes ++ memberLexemes rest)

end

/-- The text is made of the source, with any blanks between its lexemes. -/
def Spells (source : Source) (text : String) : Prop := LaidOut source.lexemes text.toList

/-- Without any blanks. -/
theorem spells_flatMap (source : Source) :
    source.Spells (String.ofList (source.lexemes.flatMap Lexeme.chars)) := by
  rw [Spells, String.toList_ofList]
  exact laidOut_flatMap _

/-- The line may end behind it. -/
theorem Spells.newline {source : Source} {text : String} (h : source.Spells text) :
    source.Spells (text ++ "\n") := by
  have hend : LaidOut [] ['\n'] := .nil (by simp [isBlank])
  rw [Spells, String.toList_append]
  simpa using LaidOut.append h hend

theorem itemTrees_eq_map (items : List Source) : itemTrees items = items.map tree := by
  induction items with
  | nil => rw [itemTrees, List.map_nil]
  | cons item rest ih => rw [itemTrees, ih, List.map_cons]

theorem memberTrees_eq_map (members : List (List Glyph × Source)) :
    memberTrees members
      = members.map fun member =>
          (.name ((unescape member.1).map String.ofList), member.2.tree) := by
  induction members with
  | nil => rw [memberTrees, List.map_nil]
  | cons member rest ih => rw [memberTrees, ih, List.map_cons]

/-! ## Numbers stay apart -/

theorem head_itemLexemes (items : List Source) (rest : List Lexeme) :
    ∀ lexeme ∈ (itemLexemes items ++ rest).head?, ¬ lexeme.isNumber := by
  intro lexeme h
  cases items <;> cases h <;> decide

theorem head_memberLexemes (members : List (List Glyph × Source)) (rest : List Lexeme) :
    ∀ lexeme ∈ (memberLexemes members ++ rest).head?, ¬ lexeme.isNumber := by
  intro lexeme h
  cases members <;> cases h <;> decide

theorem apart_cons {lexeme : Lexeme} (h : lexeme.isNumber = false) {rest : List Lexeme}
    (hrest : Apart rest) : Apart (lexeme :: rest) :=
  ⟨fun hnumber => absurd hnumber (by simp [h]), hrest⟩

mutual

/-- Only a number is followed by what is not a number. -/
theorem apart : (source : Source) → {rest : List Lexeme} → Apart rest →
    (∀ lexeme ∈ rest.head?, ¬ lexeme.isNumber) → Apart (source.lexemes ++ rest)
  | .null, _, hrest, _ | .flag _, _, hrest, _ | .text _, _, hrest, _ =>
      apart_cons rfl hrest
  | .number figures, _, hrest, hhead => ⟨fun _ => hhead, hrest⟩
  | .array [], _, hrest, _ | .object [], _, hrest, _ =>
      apart_cons rfl (apart_cons rfl hrest)
  | .array (item :: items), rest, hrest, _ => by
      rw [lexemes, List.cons_append, List.append_assoc]
      exact apart_cons rfl (item.apart (apart_items items hrest) (head_itemLexemes items _))
  | .object ((key, value) :: members), rest, hrest, _ => by
      simp only [lexemes, List.cons_append, List.append_assoc]
      exact apart_cons rfl (apart_cons rfl (apart_cons rfl
        (value.apart (apart_members members hrest) (head_memberLexemes members _))))

theorem apart_items : (items : List Source) → {rest : List Lexeme} → Apart rest →
    Apart (itemLexemes items ++ rest)
  | [], _, hrest => apart_cons rfl hrest
  | item :: items, rest, hrest => by
      rw [itemLexemes, List.cons_append, List.append_assoc]
      exact apart_cons rfl (item.apart (apart_items items hrest) (head_itemLexemes items _))

theorem apart_members : (members : List (List Glyph × Source)) → {rest : List Lexeme} →
    Apart rest → Apart (memberLexemes members ++ rest)
  | [], _, hrest => apart_cons rfl hrest
  | (key, value) :: members, rest, hrest => by
      simp only [memberLexemes, List.cons_append, List.append_assoc]
      exact apart_cons rfl (apart_cons rfl (apart_cons rfl
        (value.apart (apart_members members hrest) (head_memberLexemes members _))))

end

theorem apart_lexemes (source : Source) : Apart source.lexemes := by
  have h : Apart (source.lexemes ++ []) := source.apart trivial (fun _ h => nomatch h)
  rwa [List.append_nil] at h

end Source

/-! ## Growth on lexemes -/

namespace Growth

/-- Growth on lexemes. -/
def onLexemes (growth : Growth) (lexemes : List Lexeme) : Growth :=
  (lexemes.map Lexeme.token).foldl step growth

theorem onLexemes_cons (growth : Growth) (lexeme : Lexeme) (rest : List Lexeme) :
    growth.onLexemes (lexeme :: rest) = (growth.step lexeme.token).onLexemes rest :=
  rfl

/-- A value is due, with these containers open around it. An array that may also end here holds
nothing yet. -/
inductive AwaitsValue : Growth → List Frame → Prop where
  | value (frames : List Frame) : AwaitsValue (.value frames) frames
  | firstItem (frames : List Frame) : AwaitsValue (.firstItem frames) (.array [] :: frames)

/-- A key is due in an object with these members. -/
inductive AwaitsKey : Growth → List (Key × Tree) → List Frame → Prop where
  | firstKey (frames : List Frame) : AwaitsKey (.firstKey frames) [] frames
  | nextKey (members : List (Key × Tree)) (frames : List Frame) :
      AwaitsKey (.nextKey members frames) members frames

variable {growth : Growth} {frames : List Frame}

theorem AwaitsValue.step (h : growth.AwaitsValue frames) {token : Token}
    (htoken : token ≠ .closeArray) : growth.step token = stepValue frames token := by
  cases h with
  | value => rfl
  | firstItem frames =>
      -- only the end of the array is taken differently from where a value is due
      cases token <;> first | rfl | exact absurd rfl htoken

theorem AwaitsKey.step {members : List (Key × Tree)} (h : growth.AwaitsKey members frames)
    (used : Except Defect String) :
    growth.step (.text used) = .colon members (.name used) frames := by
  cases h <;> rfl

/-- A key and the colon behind it. -/
theorem AwaitsKey.onLexemes {members : List (Key × Tree)} (h : growth.AwaitsKey members frames)
    (key : List Glyph) (rest : List Lexeme) :
    growth.onLexemes (.text key :: .colon :: rest)
      = (Growth.value
          (.object members (.name ((unescape key).map String.ofList)) :: frames)).onLexemes rest := by
  rw [onLexemes_cons, Lexeme.token, h.step, onLexemes_cons, Lexeme.token, Growth.step]

end Growth

namespace Source

mutual

/-- **The lexemes of a source complete its tree**, whatever is open around it. -/
theorem grows : (source : Source) → {growth : Growth} → {frames : List Frame} →
    growth.AwaitsValue frames → (rest : List Lexeme) →
    growth.onLexemes (source.lexemes ++ rest) = (Growth.close source.tree frames).onLexemes rest
  | .null, growth, frames, h, rest | .flag _, growth, frames, h, rest
  | .number _, growth, frames, h, rest | .text _, growth, frames, h, rest => by
      rw [lexemes, List.singleton_append, Growth.onLexemes_cons, h.step (by simp [Lexeme.token]),
        Lexeme.token, Growth.stepValue, tree]
  | .array [], growth, frames, h, rest => by
      rw [lexemes, List.cons_append, List.singleton_append, Growth.onLexemes_cons,
        h.step (by simp [Lexeme.token]), Lexeme.token, Growth.stepValue, Growth.onLexemes_cons,
        Lexeme.token, Growth.step, tree, itemTrees]
  | .array (item :: items), growth, frames, h, rest => by
      rw [lexemes, tree, itemTrees]
      simp only [List.cons_append, List.append_assoc]
      calc growth.onLexemes (.openArray :: (item.lexemes ++ (itemLexemes items ++ rest)))
          = (Growth.firstItem frames).onLexemes (item.lexemes ++ (itemLexemes items ++ rest)) := by
            rw [Growth.onLexemes_cons, h.step (by simp [Lexeme.token]), Lexeme.token,
              Growth.stepValue]
        _ = (Growth.afterItem [item.tree] frames).onLexemes (itemLexemes items ++ rest) :=
            item.grows (.firstItem frames) _
        _ = _ := grows_items items [item.tree] frames rest
  | .object [], growth, frames, h, rest => by
      rw [lexemes, List.cons_append, List.singleton_append, Growth.onLexemes_cons,
        h.step (by simp [Lexeme.token]), Lexeme.token, Growth.stepValue, Growth.onLexemes_cons,
        Lexeme.token, Growth.step, tree, memberTrees]
  | .object ((key, value) :: members), growth, frames, h, rest => by
      rw [lexemes, tree, memberTrees]
      simp only [List.cons_append, List.append_assoc]
      calc growth.onLexemes
            (.openObject :: .text key :: .colon ::
              (value.lexemes ++ (memberLexemes members ++ rest)))
          = (Growth.firstKey frames).onLexemes
              (.text key :: .colon :: (value.lexemes ++ (memberLexemes members ++ rest))) := by
            rw [Growth.onLexemes_cons, h.step (by simp [Lexeme.token]), Lexeme.token,
              Growth.stepValue]
        _ = _ := (Growth.AwaitsKey.firstKey frames).onLexemes key _
        _ = _ := value.grows (.value _) _
        _ = _ := grows_members members [(.name ((unescape key).map String.ofList), value.tree)]
            frames rest

/-- The items that are left complete an array that holds some. -/
theorem grows_items : (items : List Source) → (done : List Tree) → (frames : List Frame) →
    (rest : List Lexeme) →
    (Growth.afterItem done frames).onLexemes (itemLexemes items ++ rest)
      = (Growth.close (.array (done.reverse ++ itemTrees items) none false) frames).onLexemes rest
  | [], done, frames, rest => by
      rw [itemLexemes, List.singleton_append, Growth.onLexemes_cons, Lexeme.token, Growth.step,
        itemTrees, List.append_nil]
  | item :: items, done, frames, rest => by
      rw [itemLexemes, itemTrees]
      simp only [List.cons_append, List.append_assoc]
      calc (Growth.afterItem done frames).onLexemes
            (.comma :: (item.lexemes ++ (itemLexemes items ++ rest)))
          = (Growth.value (.array done :: frames)).onLexemes
              (item.lexemes ++ (itemLexemes items ++ rest)) := rfl
        _ = (Growth.afterItem (item.tree :: done) frames).onLexemes (itemLexemes items ++ rest) :=
            item.grows (.value _) _
        _ = _ := by
            rw [grows_items items, List.reverse_cons, List.append_assoc, List.singleton_append]

/-- The members that are left complete an object that holds some. -/
theorem grows_members : (members : List (List Glyph × Source)) → (done : List (Key × Tree)) →
    (frames : List Frame) → (rest : List Lexeme) →
    (Growth.afterMember done frames).onLexemes (memberLexemes members ++ rest)
      = (Growth.close (.object (done.reverse ++ memberTrees members) none) frames).onLexemes rest
  | [], done, frames, rest => by
      rw [memberLexemes, List.singleton_append, Growth.onLexemes_cons, Lexeme.token, Growth.step,
        memberTrees, List.append_nil]
  | (key, value) :: members, done, frames, rest => by
      rw [memberLexemes, memberTrees]
      simp only [List.cons_append, List.append_assoc]
      calc (Growth.afterMember done frames).onLexemes
            (.comma :: .text key :: .colon :: (value.lexemes ++ (memberLexemes members ++ rest)))
          = (Growth.nextKey done frames).onLexemes
              (.text key :: .colon :: (value.lexemes ++ (memberLexemes members ++ rest))) := rfl
        _ = _ := (Growth.AwaitsKey.nextKey done frames).onLexemes key _
        _ = (Growth.afterMember ((.name ((unescape key).map String.ofList), value.tree) :: done)
              frames).onLexemes (memberLexemes members ++ rest) := value.grows (.value _) _
        _ = _ := by
            rw [grows_members members, List.reverse_cons, List.append_assoc, List.singleton_append]

end

theorem onLexemes_lexemes (source : Source) :
    (Growth.value []).onLexemes source.lexemes = .complete source.tree := by
  have h := source.grows (.value []) []
  rwa [List.append_nil] at h

end Source

/-- **The document of a text that a source spells** is its tree, with nothing behind it. -/
theorem Document.ofText_of_spells {source : Source} {text : String} (h : source.Spells text) :
    Document.ofText text = ⟨source.tree, false⟩ := by
  have htokens : tokens text.toList = source.lexemes.map Lexeme.token :=
    tokens_laidOut h source.apart_lexemes
  rw [Document.ofText, Document.ofTokens, htokens, ← Growth.onLexemes, source.onLexemes_lexemes,
    Growth.finish]

end CompactQuery.Json
