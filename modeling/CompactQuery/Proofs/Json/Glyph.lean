import CompactQuery.Json.Token
import CompactQuery.Json.Value
import Mathlib.Tactic.SplitIfs

/-!
# Glyphs — the texts of JSON as they are written

Between quotation marks a character stands for itself, is escaped by a letter, or is escaped by its
number; a character beyond the first 2^16 takes two such numbers, the halves of a pair. A text is
scanned up to its quotation mark whatever follows, and nothing else is scanned as a text.

* **`Glyph`** — the ways to write a character or half of one; **`unescape`** — the characters that
  glyphs spell, if no half of a pair stands alone.
* **`skipText_glyphs`**, **`readText_glyphs`** — glyphs are skipped up to their quotation mark and
  read as what they spell, by induction on the glyphs and on how they are spelled out.
* **`exists_glyphs`** — nothing but glyphs is skipped.
* **`Glyph.ofChar`** — the glyph that is written for a character.
-/

namespace CompactQuery.Json

/-- A character, or half of one, as it is written between quotation marks. -/
inductive Glyph where
  /-- A character that stands for itself. -/
  | bare (c : Char) (hquote : c ≠ '"') (hbackslash : c ≠ '\\') (hcontrol : ¬ c.toNat < 32)
  /-- A letter behind a backslash, and the character that it stands for. -/
  | letter (e c : Char) (h : escaped? e = some c)
  /-- Four hexadecimal digits behind a backslash and a letter, and their number. -/
  | unit (a b c d : Char) (n : Nat) (h : unit? a b c d = some n)

def Glyph.chars : Glyph → List Char
  | .bare c .. => [c]
  | .letter e .. => ['\\', e]
  | .unit a b c d .. => ['\\', 'u', a, b, c, d]

/-- The characters that glyphs spell. Two halves of a pair spell one character, and half of a pair
that stands alone spells none. -/
def unescape : List Glyph → Except Defect (List Char)
  | [] => .ok []
  | .bare c _ _ _ :: rest => (unescape rest).map (c :: ·)
  | .letter _ c _ :: rest => (unescape rest).map (c :: ·)
  | .unit _ _ _ _ n _ :: rest =>
    if isTrailing n then .error .malformed
    else if isLeading n then
      match rest with
      | .unit _ _ _ _ m _ :: rest =>
        if isTrailing m then (unescape rest).map (ofPair n m :: ·) else .error .malformed
      | _ => .error .malformed
    else (unescape rest).map (Char.ofNat n :: ·)

theorem unescape_unit {a b c d : Char} {n : Nat} (h : unit? a b c d = some n)
    (htrailing : ¬ isTrailing n) (hleading : ¬ isLeading n) (rest : List Glyph) :
    unescape (.unit a b c d n h :: rest) = (unescape rest).map (Char.ofNat n :: ·) := by
  match rest with
  | [] | .bare .. :: _ | .letter .. :: _ | .unit .. :: _ => simp [unescape, htrailing, hleading]

theorem ne_u_of_escaped? {e c : Char} (h : escaped? e = some c) : e ≠ 'u' := by
  rintro rfl
  exact nomatch h

theorem skipText_chars (glyph : Glyph) (rest : List Char) :
    skipText (glyph.chars ++ rest) = skipText rest := by
  cases glyph with
  | bare c hquote hbackslash hcontrol => simp [Glyph.chars, skipText, hbackslash, hcontrol]
  | letter e c h => simp [Glyph.chars, skipText, ne_u_of_escaped? h, h]
  | unit a b c d n h => simp [Glyph.chars, skipText, h]

theorem skipText_glyphs (glyphs : List Glyph) (after : List Char) :
    skipText (glyphs.flatMap Glyph.chars ++ '"' :: after) = .ok after := by
  induction glyphs with
  | nil => rw [List.flatMap_nil, List.nil_append, skipText]
  | cons glyph glyphs ih => rw [List.flatMap_cons, List.append_assoc, skipText_chars, ih]

/-- Behind the first half of a pair, anything but an escape by its number is out of place. -/
theorem readText_leading {a b c d : Char} {n : Nat} (h : unit? a b c d = some n)
    (htrailing : ¬ isTrailing n) (hleading : isLeading n) {rest : List Glyph} (after : List Char)
    (hrest : ∀ a b c d m h more, rest ≠ Glyph.unit a b c d m h :: more) :
    readText ('\\' :: 'u' :: a :: b :: c :: d :: (rest.flatMap Glyph.chars ++ '"' :: after))
      = .error .malformed := by
  match rest with
  | [] => simp [readText, h, htrailing, hleading]
  | .bare e hquote hbackslash hcontrol :: more =>
      simp [readText, h, htrailing, hleading, Glyph.chars, hbackslash]
  | .letter e l hletter :: more =>
      simp [readText, h, htrailing, hleading, Glyph.chars, ne_u_of_escaped? hletter]
  | .unit a b c d m h :: more => exact (hrest a b c d m h more rfl).elim

/-- **Glyphs are read as what they spell.** -/
theorem readText_glyphs (glyphs : List Glyph) (after : List Char) :
    readText (glyphs.flatMap Glyph.chars ++ '"' :: after) = unescape glyphs := by
  fun_induction unescape glyphs with
  | case1 => rfl
  | case2 c hquote hbackslash hcontrol rest ih =>
      simp [Glyph.chars, readText, hbackslash, hcontrol, ih]
  | case3 e c h rest ih => simp [Glyph.chars, readText, ne_u_of_escaped? h, h, ih]
  | case4 a b c d n h rest htrailing => simp [Glyph.chars, readText, h, htrailing]
  | case5 a b c d n h htrailing hleading a' b' c' d' m h' rest htrailing' ih =>
      simp [Glyph.chars, readText, h, htrailing, hleading, h', htrailing', ih]
  | case6 a b c d n h htrailing hleading a' b' c' d' m h' rest htrailing' =>
      simp [Glyph.chars, readText, h, htrailing, hleading, h', htrailing']
  | case7 a b c d n h rest htrailing hleading hrest =>
      rw [List.flatMap_cons, Glyph.chars]
      exact readText_leading h htrailing hleading after
        fun a b c d m h more hmore => hrest a b c d m h more hmore
  | case8 a b c d n h rest htrailing hleading ih =>
      simp [Glyph.chars, readText, h, htrailing, hleading, ih]

/-- **Nothing but glyphs is skipped.** -/
theorem exists_glyphs {text after : List Char} (h : skipText text = .ok after) :
    ∃ glyphs : List Glyph, text = glyphs.flatMap Glyph.chars ++ '"' :: after := by
  have more {text : List Char} (glyph : Glyph)
      (htext : ∃ glyphs : List Glyph, text = glyphs.flatMap Glyph.chars ++ '"' :: after) :
      ∃ glyphs : List Glyph, glyph.chars ++ text = glyphs.flatMap Glyph.chars ++ '"' :: after := by
    obtain ⟨glyphs, rfl⟩ := htext
    exact ⟨glyph :: glyphs, by rw [List.flatMap_cons, List.append_assoc]⟩
  fun_induction skipText text with
  | case2 rest =>
      cases h
      exact ⟨[], rfl⟩
  | case4 a b c d rest n hunit ih => exact more (.unit a b c d n hunit) (ih h)
  | case8 e rest _ _ c hescaped ih => exact more (.letter e c hescaped) (ih h)
  | case10 c rest hquote _ _ hend hletter hcontrol ih =>
      -- a backslash would be the start of an escape
      have hbackslash : c ≠ '\\' := by
        rintro rfl
        cases rest with
        | nil => exact hend rfl rfl
        | cons e rest => exact hletter e rest rfl rfl
      exact more (.bare c hquote hbackslash hcontrol) (ih h)
  | case1 | case3 | case5 | case6 | case7 | case9 => cases h

/-! ## The glyphs that are written -/

theorem unit?_lower : ∀ n < 32,
    unit? '0' '0' (Digit.lower (n / 16)) (Digit.lower (n % 16)) = some n := by decide

/-- The glyph that is written for a character. -/
def Glyph.ofChar (c : Char) : Glyph :=
  if hquote : c = '"' then .letter '"' '"' rfl
  else if hbackslash : c = '\\' then .letter '\\' '\\' rfl
  else if c = '\x08' then .letter 'b' '\x08' rfl
  else if c = '\x0c' then .letter 'f' '\x0c' rfl
  else if c = '\n' then .letter 'n' '\n' rfl
  else if c = '\r' then .letter 'r' '\r' rfl
  else if c = '\t' then .letter 't' '\t' rfl
  else if hcontrol : c.toNat < 32 then
    .unit '0' '0' (Digit.lower (c.toNat / 16)) (Digit.lower (c.toNat % 16)) c.toNat
      (unit?_lower _ hcontrol)
  else .bare c hquote hbackslash hcontrol

theorem chars_ofChar (c : Char) : (Glyph.ofChar c).chars = escapeChar c := by
  unfold Glyph.ofChar escapeChar
  split_ifs <;> rfl

theorem unescape_ofChar_cons (c : Char) (rest : List Glyph) :
    unescape (Glyph.ofChar c :: rest) = (unescape rest).map (c :: ·) := by
  have letter {e d : Char} (h : escaped? e = some d) (hd : c = d) :
      unescape (.letter e d h :: rest) = (unescape rest).map (c :: ·) := by
    rw [hd, unescape]
  unfold Glyph.ofChar
  split_ifs with hquote hbackslash hb hf hn hr ht hcontrol
  · exact letter rfl hquote
  · exact letter rfl hbackslash
  · exact letter rfl hb
  · exact letter rfl hf
  · exact letter rfl hn
  · exact letter rfl hr
  · exact letter rfl ht
  · -- a control character is no half of a surrogate pair
    have hleading : isLeading c.toNat = false := by
      simp only [isLeading, Bool.and_eq_false_iff, decide_eq_false_iff_not]
      omega
    have htrailing : isTrailing c.toNat = false := by
      simp only [isTrailing, Bool.and_eq_false_iff, decide_eq_false_iff_not]
      omega
    rw [unescape_unit _ (by simp [htrailing]) (by simp [hleading]), Char.ofNat_toNat]
  · rw [unescape]

theorem unescape_map_ofChar (text : List Char) : unescape (text.map Glyph.ofChar) = .ok text := by
  induction text with
  | nil => rfl
  | cons c text ih =>
      rw [List.map_cons, unescape_ofChar_cons, ih]
      rfl

end CompactQuery.Json
