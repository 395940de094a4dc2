import CompactQuery.Json.Literal

/-!
# The tokens of a JSON text

A text is cut into tokens from left to right. What is no token at all becomes a `broken` one, the
last of the list: nothing behind it can be told apart. What a defect means depends on where the
token stands, so a broken token only says whether it began as a text and what a reader and a skipper
make of it.

* **`Token`** — brackets, marks, words and literals.
* **`Token.scan`** — the token at the start of a text, and what follows it.
* **`tokens`** — all tokens of a text; `tokens_cons` is its unfolding equation.
-/

namespace CompactQuery.Json

/-- A token of JSON. -/
inductive Token where
  | openArray
  | closeArray
  | openObject
  | closeObject
  | comma
  | colon
  | null
  | flag (b : Bool)
  | number (used : Except Defect Number)
  | text (used : Except Defect String)
  /-- No token, with whether it began as a text. -/
  | broken (quoted : Bool) (used skipped : Defect)
deriving Repr

/-- The blanks between tokens. -/
def isBlank (c : Char) : Bool := c = ' ' || c = '\n' || c = '\t' || c = '\r'

/-- What follows an expected word, or how the text differs from it. -/
def scanWord : List Char → List Char → Except Defect (List Char)
  | [], rest => .ok rest
  | _ :: _, [] => .error .unfinished
  | w :: word, c :: rest => if w = c then scanWord word rest else .error .malformed

namespace Token

/-- A word as a token, given its letters after the first. -/
def ofWord (token : Token) (word rest : List Char) : Token × List Char :=
  match scanWord word rest with
  | .ok rest => (token, rest)
  | .error d => (.broken false d d, [])

/-- A text as a token, from behind its opening quotation mark. -/
def ofText (rest : List Char) : Token × List Char :=
  match skipText rest, readText rest with
  | .ok after, used => (.text (used.map String.ofList), after)
  | .error skipped, .error used => (.broken true used skipped, [])
  | .error skipped, .ok _ => (.broken true skipped skipped, [])

/-- A number as a token. -/
def ofNumber (text : List Char) : Token × List Char :=
  match Numeral.scan text with
  | .ok (numeral, rest) => (.number numeral.number?, rest)
  | .error e => (.broken false e.used e.skipped, [])

/-- The token that starts with the given character, and what follows it. -/
def scan (c : Char) (rest : List Char) : Token × List Char :=
  match c with
  | '[' => (.openArray, rest)
  | ']' => (.closeArray, rest)
  | '\x7b' => (.openObject, rest)
  | '\x7d' => (.closeObject, rest)
  | ',' => (.comma, rest)
  | ':' => (.colon, rest)
  | 'n' => ofWord .null ['u', 'l', 'l'] rest
  | 't' => ofWord (.flag true) ['r', 'u', 'e'] rest
  | 'f' => ofWord (.flag false) ['a', 'l', 's', 'e'] rest
  | '"' => ofText rest
  | c =>
    if c = '-' || c.isDigit then ofNumber (c :: rest)
    else (.broken false .malformed .malformed, [])

end Token

/-! ## A token takes up text -/

theorem scanWord_length {word text after : List Char} (h : scanWord word text = .ok after) :
    after.length ≤ text.length := by
  fun_induction scanWord word text with
  | case1 => cases h; exact Nat.le_refl _
  | case2 => cases h
  | case3 _ _ _ ih => exact Nat.le_succ_of_le (ih h)
  | case4 => cases h

theorem skipText_length {text after : List Char} (h : skipText text = .ok after) :
    after.length ≤ text.length := by
  fun_induction skipText text <;> simp_all <;> omega

namespace Numeral

theorem span_length (text : List Char) :
    (span text).1.length + (span text).2.length = text.length := by
  rw [span, ← List.length_append, List.takeWhile_append_dropWhile]

theorem scanWhole_length {text digits after : List Char}
    (h : scanWhole text = .ok (digits, after)) : after.length < text.length := by
  have := span_length text
  unfold scanWhole at h
  split at h
  · cases h
  · cases h
  · rename_i found rest hne _ hs
    cases h
    have := List.length_pos_iff.2 hne
    grind

theorem scanFraction_length {text digits after : List Char}
    (h : scanFraction text = .ok (digits, after)) : after.length ≤ text.length := by
  unfold scanFraction at h
  split at h
  · rename_i rest
    have := span_length rest
    grind
  · grind

theorem scanSign_length (text : List Char) : (scanSign text).2.length ≤ text.length := by
  unfold scanSign
  split <;> simp

theorem scanExponent_length {text : List Char} {n : Option Int} {after : List Char}
    (h : scanExponent text = .ok (n, after)) : after.length ≤ text.length := by
  unfold scanExponent at h
  split at h
  · grind
  · rename_i e rest
    have hs := scanSign_length rest
    have := span_length (scanSign rest).2
    grind

theorem scan_length {text : List Char} {numeral : Numeral} {after : List Char}
    (h : scan text = .ok (numeral, after)) : after.length < text.length := by
  unfold scan at h
  have hm : (scanMinus text).2.length ≤ text.length := by
    unfold scanMinus
    split <;> simp
  cases hw : scanWhole (scanMinus text).2 with
  | error e => simp [hw, bind, Except.bind] at h
  | ok w =>
    have hw' := scanWhole_length hw
    cases hf : scanFraction w.2 with
    | error e => simp [hw, hf, bind, Except.bind] at h
    | ok f =>
      have hf' := scanFraction_length hf
      cases he : scanExponent f.2 with
      | error e => simp [hw, hf, he, bind, Except.bind] at h
      | ok e =>
        have he' := scanExponent_length he
        simp only [hw, hf, he, bind, Except.bind, pure, Except.pure] at h
        grind

end Numeral

theorem Token.scan_length (c : Char) (rest : List Char) :
    (Token.scan c rest).2.length ≤ rest.length := by
  have word (token : Token) (word : List Char) :
      (ofWord token word rest).2.length ≤ rest.length := by
    unfold ofWord
    split
    · exact scanWord_length ‹_›
    · exact Nat.zero_le _
  unfold Token.scan
  split
  case h_7 => exact word ..
  case h_8 => exact word ..
  case h_9 => exact word ..
  case h_10 =>
    unfold ofText
    split
    · exact skipText_length ‹_›
    · exact Nat.zero_le _
    · exact Nat.zero_le _
  case h_11 =>
    split
    · unfold ofNumber
      split
      · exact Nat.le_of_lt_succ (Numeral.scan_length ‹_›)
      · exact Nat.zero_le _
    · exact Nat.zero_le _
  all_goals exact Nat.le_refl _

/-- The tokens of a text. -/
def tokens : List Char → List Token
  | [] => []
  | c :: rest =>
    if isBlank c then tokens rest
    else
      have := Token.scan_length c rest
      (Token.scan c rest).1 :: tokens (Token.scan c rest).2
termination_by text => text.length

theorem tokens_nil : tokens [] = [] := by rw [tokens]

theorem tokens_cons (c : Char) (rest : List Char) :
    tokens (c :: rest) =
      if isBlank c then tokens rest
      else (Token.scan c rest).1 :: tokens (Token.scan c rest).2 := by
  rw [tokens]

end CompactQuery.Json
