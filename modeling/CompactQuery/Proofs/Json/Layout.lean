import CompactQuery.Proofs.Json.Glyph
import CompactQuery.Proofs.Json.Figures

/-!
# Layout — the tokens of JSON as they are written

Blanks may stand in front of every token and behind the last, and they need not stand anywhere: only
two numbers in a row would run together, and no value of JSON has them.

* **`Lexeme`** — a token as it is written; **`LaidOut`** — lexemes with any blanks between them.
* **`tokens_lexeme`**, **`tokens_blanks`** — one lexeme, and blanks, at the start of a text.
* **`tokens_laidOut`** — lexemes are cut apart again, however they are laid out.
* **`exists_laidOut`** — a text without broken tokens is made of lexemes.
-/

namespace CompactQuery.Json

/-- A token as it is written. -/
inductive Lexeme where
  | openArray
  | closeArray
  | openObject
  | closeObject
  | comma
  | colon
  | null
  | flag (b : Bool)
  | number (figures : Figures)
  | text (glyphs : List Glyph)

namespace Lexeme

def chars : Lexeme → List Char
  | .openArray => ['[']
  | .closeArray => [']']
  | .openObject => ['\x7b']
  | .closeObject => ['\x7d']
  | .comma => [',']
  | .colon => [':']
  | .null => ['n', 'u', 'l', 'l']
  | .flag true => ['t', 'r', 'u', 'e']
  | .flag false => ['f', 'a', 'l', 's', 'e']
  | .number figures => figures.chars
  | .text glyphs => '"' :: (glyphs.flatMap Glyph.chars ++ ['"'])

/-- What the lexeme is read as. -/
def token : Lexeme → Token
  | .openArray => .openArray
  | .closeArray => .closeArray
  | .openObject => .openObject
  | .closeObject => .closeObject
  | .comma => .comma
  | .colon => .colon
  | .null => .null
  | .flag b => .flag b
  | .number figures => .number figures.numeral.number?
  | .text glyphs => .text ((unescape glyphs).map String.ofList)

/-- Whether what follows could go on with the lexeme. -/
def isNumber : Lexeme → Bool
  | .number _ => true
  | _ => false

end Lexeme

/-! ## One lexeme -/

theorem isBlank_of_isDigit {c : Char} (h : c.isDigit) : isBlank c = false := by
  have hne (d : Char) (hd : ¬ d.isDigit) : c ≠ d := fun hc => hd (hc ▸ h)
  simp [isBlank, hne ' ' (by decide), hne '\n' (by decide), hne '\t' (by decide),
    hne '\r' (by decide)]

theorem Token.scan_of_isDigit {c : Char} (h : c.isDigit) (rest : List Char) :
    Token.scan c rest = Token.ofNumber (c :: rest) := by
  unfold Token.scan
  split
  case h_11 => rw [h, Bool.or_true, if_pos rfl]
  -- the marks and the first letters of words are no digits
  all_goals exact absurd h (by decide)

/-- The first character of a number tells that it is one. -/
theorem Figures.exists_cons (figures : Figures) : ∃ c more, figures.chars = c :: more ∧
    isBlank c = false ∧ ∀ rest, Token.scan c rest = Token.ofNumber (c :: rest) := by
  obtain ⟨d, more, hd⟩ := List.exists_cons_of_ne_nil figures.canonical.ne_nil
  have hdigit : d.isDigit := figures.canonical.digit d (hd ▸ List.mem_cons_self)
  rw [Figures.chars, hd]
  cases figures.minus with
  | true => exact ⟨'-', _, rfl, rfl, fun rest => rfl⟩
  | false => exact ⟨d, _, rfl, isBlank_of_isDigit hdigit, Token.scan_of_isDigit hdigit⟩

theorem Token.ofText_glyphs (glyphs : List Glyph) (after : List Char) :
    Token.ofText (glyphs.flatMap Glyph.chars ++ '"' :: after)
      = (.text ((unescape glyphs).map String.ofList), after) := by
  simp only [Token.ofText, skipText_glyphs, readText_glyphs]

/-- **A lexeme at the start of a text is its first token.** -/
theorem tokens_lexeme (lexeme : Lexeme) {rest : List Char}
    (hrest : lexeme.isNumber → EndsNumber rest) :
    tokens (lexeme.chars ++ rest) = lexeme.token :: tokens rest := by
  -- whatever the lexeme, it is scanned from its first character, which is no blank
  have first {c : Char} {more : List Char} {token : Token} (hblank : isBlank c = false)
      (hscan : Token.scan c (more ++ rest) = (token, rest)) :
      tokens (c :: more ++ rest) = token :: tokens rest := by
    rw [List.cons_append, tokens_cons, hblank, hscan]
    rfl
  cases lexeme with
  | openArray | closeArray | openObject | closeObject | comma | colon | null =>
      exact first rfl rfl
  | flag b => cases b <;> exact first rfl rfl
  | number figures =>
      obtain ⟨c, more, hchars, hblank, hscan⟩ := figures.exists_cons
      have hnumber : Token.ofNumber (c :: more ++ rest)
          = (.number figures.numeral.number?, rest) := by
        rw [← hchars, Token.ofNumber, Numeral.scan_figures figures (hrest rfl)]
      rw [Lexeme.chars, hchars]
      exact first hblank (by rw [hscan]; exact hnumber)
  | text glyphs =>
      have htext := Token.ofText_glyphs glyphs rest
      refine first rfl ?_
      rw [List.append_assoc, List.singleton_append]
      exact htext

theorem tokens_blanks {blanks : List Char} (h : ∀ c ∈ blanks, isBlank c) (rest : List Char) :
    tokens (blanks ++ rest) = tokens rest := by
  induction blanks with
  | nil => rfl
  | cons c blanks ih =>
      obtain ⟨hc, hblanks⟩ := List.forall_mem_cons.mp h
      rw [List.cons_append, tokens_cons, if_pos hc, ih hblanks]

/-! ## Texts -/

/-- Lexemes with any blanks in front of them and behind the last. -/
inductive LaidOut : List Lexeme → List Char → Prop where
  | nil {blanks : List Char} (h : ∀ c ∈ blanks, isBlank c) : LaidOut [] blanks
  | cons {blanks : List Char} (h : ∀ c ∈ blanks, isBlank c) (lexeme : Lexeme)
      {lexemes : List Lexeme} {text : List Char} (rest : LaidOut lexemes text) :
      LaidOut (lexeme :: lexemes) (blanks ++ (lexeme.chars ++ text))

theorem LaidOut.lexeme (lexeme : Lexeme) {lexemes : List Lexeme} {text : List Char}
    (h : LaidOut lexemes text) : LaidOut (lexeme :: lexemes) (lexeme.chars ++ text) :=
  .cons (List.forall_mem_nil _) lexeme h

theorem LaidOut.blank {c : Char} (hc : isBlank c) {lexemes : List Lexeme} {text : List Char}
    (h : LaidOut lexemes text) : LaidOut lexemes (c :: text) := by
  cases h with
  | nil hblanks => exact .nil (List.forall_mem_cons.mpr ⟨hc, hblanks⟩)
  | cons hblanks lexeme rest =>
      exact .cons (List.forall_mem_cons.mpr ⟨hc, hblanks⟩) lexeme rest

theorem LaidOut.append {lexemes more : List Lexeme} {text rest : List Char}
    (h : LaidOut lexemes text) (hmore : LaidOut more rest) :
    LaidOut (lexemes ++ more) (text ++ rest) := by
  induction h with
  | @nil blanks hblanks =>
      induction blanks with
      | nil => exact hmore
      | cons c blanks ih =>
          obtain ⟨hc, hblanks⟩ := List.forall_mem_cons.mp hblanks
          exact (ih hblanks).blank hc
  | cons hblanks lexeme _ ih =>
      rw [List.append_assoc, List.append_assoc]
      exact .cons hblanks lexeme ih

/-- Lexemes without any blanks. -/
theorem laidOut_flatMap (lexemes : List Lexeme) :
    LaidOut lexemes (lexemes.flatMap Lexeme.chars) := by
  induction lexemes with
  | nil => exact .nil (List.forall_mem_nil _)
  | cons lexeme lexemes ih => exact .lexeme lexeme ih

/-- No two numbers in a row. -/
def Apart : List Lexeme → Prop
  | [] => True
  | lexeme :: lexemes =>
    (lexeme.isNumber → ∀ next ∈ lexemes.head?, ¬ next.isNumber) ∧ Apart lexemes

theorem endsNumber_blank {c : Char} (h : isBlank c) (rest : List Char) :
    EndsNumber (c :: rest) := by
  simp only [isBlank, Bool.or_eq_true, decide_eq_true_eq] at h
  rcases h with ((rfl | rfl) | rfl) | rfl <;> exact endsNumber_cons (by decide) rest

theorem endsNumber_lexeme {lexeme : Lexeme} (h : ¬ lexeme.isNumber) (rest : List Char) :
    EndsNumber (lexeme.chars ++ rest) := by
  cases lexeme with
  | number figures => exact absurd rfl h
  | flag b => cases b <;> exact endsNumber_cons (by decide) _
  | openArray | closeArray | openObject | closeObject | comma | colon | null | text glyphs =>
      exact endsNumber_cons (by decide) _

/-- Text that does not start with a number does not go on with one. -/
theorem LaidOut.endsNumber {lexemes : List Lexeme} {text : List Char} (h : LaidOut lexemes text)
    (hhead : ∀ lexeme ∈ lexemes.head?, ¬ lexeme.isNumber) : EndsNumber text := by
  cases h with
  | nil hblanks =>
      cases text with
      | nil => exact endsNumber_nil
      | cons c blanks => exact endsNumber_blank (hblanks c List.mem_cons_self) _
  | @cons blanks hblanks lexeme lexemes text rest =>
      cases blanks with
      | nil => exact endsNumber_lexeme (hhead lexeme rfl) _
      | cons c blanks => exact endsNumber_blank (hblanks c List.mem_cons_self) _

/-- **Lexemes are cut apart again**, however they are laid out. -/
theorem tokens_laidOut {lexemes : List Lexeme} {text : List Char} (h : LaidOut lexemes text)
    (hapart : Apart lexemes) : tokens text = lexemes.map Lexeme.token := by
  induction h with
  | @nil blanks hblanks =>
      have htokens := tokens_blanks hblanks []
      rwa [List.append_nil, tokens_nil] at htokens
  | @cons blanks hblanks lexeme lexemes text rest ih =>
      obtain ⟨hnext, hlexemes⟩ := hapart
      have hends : lexeme.isNumber → EndsNumber text := fun hnumber =>
        rest.endsNumber (hnext hnumber)
      rw [tokens_blanks hblanks, tokens_lexeme lexeme hends, ih hlexemes, List.map_cons]

/-! ## Nothing but lexemes -/

/-- A token that is no broken one. -/
def Token.Whole (token : Token) : Prop := ∀ quoted used skipped, token ≠ .broken quoted used skipped

theorem eq_of_scanWord {word text after : List Char} (h : scanWord word text = .ok after) :
    text = word ++ after := by
  fun_induction scanWord word text with
  | case1 => cases h; rfl
  | case2 | case4 => cases h
  | case3 word rest w ih => rw [ih h, List.cons_append]

/-- The token at the start of a text is a lexeme unless it is broken. -/
theorem exists_lexeme {c : Char} {rest : List Char} (h : (Token.scan c rest).1.Whole) :
    ∃ lexeme : Lexeme, c :: rest = lexeme.chars ++ (Token.scan c rest).2 ∧
      lexeme.token = (Token.scan c rest).1 := by
  have word {c : Char} {word : List Char} (lexeme : Lexeme) (hchars : lexeme.chars = c :: word)
      (hwhole : (Token.ofWord lexeme.token word rest).1.Whole) :
      ∃ lexeme' : Lexeme, c :: rest = lexeme'.chars ++ (Token.ofWord lexeme.token word rest).2 ∧
        lexeme'.token = (Token.ofWord lexeme.token word rest).1 := by
    unfold Token.ofWord at hwhole ⊢
    split
    · rename_i after hafter
      exact ⟨lexeme, by rw [hchars, eq_of_scanWord hafter, List.cons_append], rfl⟩
    · rename_i d hd
      rw [hd] at hwhole
      exact (hwhole _ _ _ rfl).elim
  unfold Token.scan at h ⊢
  split at h
  case h_1 => exact ⟨.openArray, rfl, rfl⟩
  case h_2 => exact ⟨.closeArray, rfl, rfl⟩
  case h_3 => exact ⟨.openObject, rfl, rfl⟩
  case h_4 => exact ⟨.closeObject, rfl, rfl⟩
  case h_5 => exact ⟨.comma, rfl, rfl⟩
  case h_6 => exact ⟨.colon, rfl, rfl⟩
  case h_7 => exact word .null rfl h
  case h_8 => exact word (.flag true) rfl h
  case h_9 => exact word (.flag false) rfl h
  case h_10 =>
    cases hskip : skipText rest with
    | error skipped =>
        cases hread : readText rest <;>
          exact (h _ _ _ (by rw [Token.ofText, hskip, hread])).elim
    | ok after =>
        -- what is skipped up to a quotation mark is made of glyphs, and glyphs are always read
        obtain ⟨glyphs, rfl⟩ := exists_glyphs hskip
        refine ⟨.text glyphs, ?_, ?_⟩
        · simp [Token.ofText_glyphs, Lexeme.chars]
        · simp [Token.ofText_glyphs, Lexeme.token]
  case h_11 =>
    split at h
    · rename_i hnumber
      rw [if_pos hnumber]
      unfold Token.ofNumber at h ⊢
      split at h
      · rename_i numeral after hscan
        obtain ⟨figures, htext, rfl⟩ := Numeral.exists_figures hscan
        exact ⟨.number figures, htext, rfl⟩
      · exact (h _ _ _ rfl).elim
    · exact (h _ _ _ rfl).elim

/-- **A text without broken tokens is made of lexemes.** -/
theorem exists_laidOut {text : List Char} (h : ∀ token ∈ tokens text, token.Whole) :
    ∃ lexemes : List Lexeme, LaidOut lexemes text ∧ tokens text = lexemes.map Lexeme.token := by
  fun_induction tokens text with
  | case1 => exact ⟨[], .nil (List.forall_mem_nil _), rfl⟩
  | case2 c rest hblank ih =>
      obtain ⟨lexemes, hlaid, htokens⟩ := ih h
      exact ⟨lexemes, hlaid.blank hblank, htokens⟩
  | case3 c rest hblank _ ih =>
      obtain ⟨hfirst, hrest⟩ := List.forall_mem_cons.mp h
      obtain ⟨lexemes, hlaid, htokens⟩ := ih hrest
      obtain ⟨lexeme, htext, htoken⟩ := exists_lexeme hfirst
      refine ⟨lexeme :: lexemes, htext ▸ hlaid.lexeme lexeme, ?_⟩
      rw [htokens, ← htoken, List.map_cons]

end CompactQuery.Json
