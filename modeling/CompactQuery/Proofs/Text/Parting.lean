import CompactQuery.Proofs.Text.Percent
import Mathlib.Tactic.SplitIfs

/-!
# Parting — decoding before and behind a character

Decoding does not distribute over texts: a cut may go through an escape, or through the octets of a
character that several escapes stand for. A character that can be part of no escape keeps both sides
apart, however malformed they are: it completes no escape, and its first octet continues no
character, so whatever is unfinished before it ends there.

* **`Utf8.readFrom_append_octets`** — the reader starts afresh at a character. Induction on the
  octets before it; the reader is never inside a character whose next octet could be a lead octet
  (`Utf8.proper_step`).
* **`Percent.octetsOf_append_cons`** — no escape goes across a character that is neither a percent
  sign nor a hexadecimal digit. Induction along the scan of the text before it.
* **`Percent.decode_append`**, **`Percent.decode_intercalate`** — decoding before and behind such a
  character, and between any number of them.
* **`Percent.splitOn_encode`** — the pieces of an encoded text between the occurrences of a kept
  character.
-/

namespace CompactQuery

/-! ## The reader at a character -/

namespace Utf8

/-- Only octets that continue a character are asked for. -/
def Pending.Proper : Pending → Prop
  | .between => True
  | .inside _ _ low high => 0x80 ≤ low ∧ high ≤ 0xBF

theorem proper_start (b : UInt8) : (start b).2.Proper := by
  unfold start
  simp only
  split_ifs <;> simp [Pending.Proper]

/-- After any octet the reader asks for none but those. -/
theorem proper_step (place : Pending) (b : UInt8) : (step place b).2.Proper := by
  cases place with
  | between => exact proper_start b
  | inside bits owed low high =>
      by_cases h : low ≤ b.toNat ∧ b.toNat ≤ high
      · cases owed <;> simp [step, h, Pending.Proper]
      · rw [step, if_neg h]
        exact proper_start b

/-- The first octet of a character continues none. -/
theorem exists_octets (c : Char) :
    ∃ b rest, octets c = b :: rest ∧ (b.toNat < 0x80 ∨ 0xBF < b.toNat) := by
  have hvalid : c.toNat < 0xD800 ∨ 0xDFFF < c.toNat ∧ c.toNat < 0x110000 := c.valid
  unfold octets
  simp only
  split_ifs with h1 h2 h3
  · exact ⟨_, _, rfl, Or.inl (by rw [toNat_ofNat (by omega)]; exact h1)⟩
  · exact ⟨_, _, rfl, Or.inr (by rw [toNat_ofNat (by omega)]; omega)⟩
  · exact ⟨_, _, rfl, Or.inr (by rw [toNat_ofNat (by omega)]; omega)⟩
  · exact ⟨_, _, rfl, Or.inr (by rw [toNat_ofNat (by omega)]; omega)⟩

/-- What is unfinished before a character ends there. -/
theorem readFrom_octets_of_proper {place : Pending} (hplace : place.Proper) (c : Char)
    (after : List UInt8) :
    readFrom place (octets c ++ after) = finish place ++ c :: readFrom .between after := by
  cases place with
  | between => rw [readFrom_octets, finish, List.nil_append]
  | inside bits owed low high =>
      obtain ⟨hlow, hhigh⟩ := hplace
      obtain ⟨b, rest, hoctets, hb⟩ := exists_octets c
      have hstep : step (.inside bits owed low high) b
          = (replacement :: (start b).1, (start b).2) := by
        rw [step, if_neg (by omega)]
      -- the octet that ends the character at hand is read as if nothing was pending
      have hfresh : (start b).1 ++ readFrom (start b).2 (rest ++ after)
          = c :: readFrom .between after := by
        rw [← readFrom_octets c after, hoctets, List.cons_append, readFrom_cons, step]
      rw [hoctets, List.cons_append, readFrom_cons, hstep, List.cons_append, hfresh, finish,
        List.singleton_append]

/-- **The reader starts afresh at a character**, whatever octets are before it. -/
theorem readFrom_append_octets {place : Pending} (hplace : place.Proper) (before : List UInt8)
    (c : Char) (after : List UInt8) :
    readFrom place (before ++ (octets c ++ after))
      = readFrom place before ++ c :: readFrom .between after := by
  induction before generalizing place with
  | nil => exact readFrom_octets_of_proper hplace c after
  | cons b before ih =>
      rw [List.cons_append, readFrom_cons, ih (proper_step place b), readFrom_cons,
        List.append_assoc]

theorem lossy_append_octets (before : List UInt8) (c : Char) (after : List UInt8) :
    lossy (before ++ (octets c ++ after)) = lossy before ++ c :: lossy after := by
  have hplace : Pending.Proper .between := True.intro
  exact readFrom_append_octets hplace before c after

end Utf8

/-! ## Escapes at a character -/

/-- The hexadecimal digits, in either case. -/
def Digit.all : List Char := "0123456789abcdefABCDEF".toList

theorem Digit.toNat_lt {c : Char} {n : Nat} (h : Digit.value? c = some n) : c.toNat < 128 := by
  unfold Digit.value? at h
  split_ifs at h with hdecimal hupper hlower
  · exact Nat.lt_of_le_of_lt hdecimal.2 (by decide)
  · exact Nat.lt_of_le_of_lt hupper.2 (by decide)
  · exact Nat.lt_of_le_of_lt hlower.2 (by decide)

/-- No other characters have a value. -/
theorem Digit.value?_eq_none {c : Char} (h : c ∉ Digit.all) : Digit.value? c = none := by
  have hvalued : ∀ n < 128, Digit.value? (Char.ofNat n) = none ∨ Char.ofNat n ∈ Digit.all := by
    decide
  cases hvalue : Digit.value? c with
  | none => rfl
  | some n =>
      have hnone := hvalued c.toNat (Digit.toNat_lt hvalue)
      rw [c.ofNat_toNat] at hnone
      rw [← hvalue]
      exact hnone.resolve_right h

namespace Percent

/-- A character that is no digit does not help to make an escape of what is before it. -/
theorem not_digitsAhead_append {c : Char} (hdigit : Digit.value? c = none) {rest : List Char}
    (h : ¬ DigitsAhead rest) (after : List Char) : ¬ DigitsAhead (rest ++ c :: after) := by
  match rest, h with
  | [], _ => cases after <;> simp [DigitsAhead, hdigit]
  | [a], _ => simp [DigitsAhead, hdigit]
  | a :: b :: _, h => exact h

/-- **No escape goes across a character** that is neither a percent sign nor a digit. -/
theorem octetsOf_append_cons {c : Char} (hc : c ≠ '%') (hdigit : Digit.value? c = none)
    (before after : List Char) :
    octetsOf (before ++ c :: after) = octetsOf before ++ (Utf8.octets c ++ octetsOf after) := by
  induction before using scan_induction with
  | nil => exact octetsOf_cons_of_ne hc after
  | escape a b x y rest hx hy ih =>
      simp only [List.cons_append, octetsOf, hx, hy, ih]
  | sign rest hnot ih =>
      rw [List.cons_append, octetsOf_percent (not_digitsAhead_append hdigit hnot after), ih,
        octetsOf_percent hnot, List.append_assoc]
  | other d rest hd ih =>
      rw [List.cons_append, octetsOf_cons_of_ne hd, ih, octetsOf_cons_of_ne hd, List.append_assoc]

/-! ## Decoding -/

/-- **Decoding goes on its own on either side of a character** that is neither a percent sign nor a
hexadecimal digit. -/
theorem decode_append {c : Char} (hc : c ≠ '%') (hdigit : c ∉ Digit.all) (before after : String) :
    decode (before ++ c.toString ++ after) = decode before ++ c.toString ++ decode after := by
  have htext : (before ++ c.toString ++ after).toList = before.toList ++ c :: after.toList := by
    simp
  rw [← String.toList_inj, toList_decode, htext,
    octetsOf_append_cons hc (Digit.value?_eq_none hdigit), Utf8.lossy_append_octets]
  simp [toList_decode]

/-- Texts with such a character between them are decoded one by one. -/
theorem decode_intercalate {c : Char} (hc : c ≠ '%') (hdigit : c ∉ Digit.all)
    (texts : List String) :
    decode (c.toString.intercalate texts) = c.toString.intercalate (texts.map decode) := by
  induction texts with
  | nil => rfl
  | cons text texts ih =>
      cases texts with
      | nil => simp
      | cons next texts =>
          rw [String.intercalate_cons_cons, decode_append hc hdigit, ih]
          simp only [List.map_cons, String.intercalate_cons_cons]

end Percent

/-! ## Pieces -/

theorem splitOn_append {x : Char} {before : List Char} (h : x ∉ before) (text : List Char) :
    (before ++ text).splitOn x = (text.splitOn x).modifyHead (before ++ ·) := by
  induction before with
  | nil =>
      rw [List.nil_append]
      cases text.splitOn x <;> rfl
  | cons c before ih =>
      obtain ⟨hc, hbefore⟩ : ¬ x = c ∧ x ∉ before := by simpa using h
      have hne : ¬ (c == x) = true := by simpa using Ne.symm hc
      rw [List.cons_append, List.splitOn_cons_eq_if_modifyHead, if_neg hne, ih hbefore,
        List.modifyHead_modifyHead]
      rfl

/-- What is written character by character has the pieces of the text, each written so, if the
separator is written as it is and for no other character. -/
theorem splitOn_flatMap {x : Char} {f : Char → List Char} (hx : f x = [x])
    (hother : ∀ c ≠ x, x ∉ f c) (text : List Char) :
    (text.flatMap f).splitOn x = (text.splitOn x).map (List.flatMap f) := by
  induction text with
  | nil => simp
  | cons c text ih =>
      rw [List.flatMap_cons, List.splitOn_cons_eq_if_modifyHead]
      by_cases hc : c = x
      · subst hc
        rw [hx, List.singleton_append, List.splitOn_cons_eq_if_modifyHead]
        simp [ih]
      · rw [splitOn_append (hother c hc), ih, if_neg (by simpa using hc)]
        cases text.splitOn x <;> simp

namespace Percent

theorem mem_digits_upper : ∀ n < 16, Digit.upper n ∈ Digit.all := by decide

/-- Besides the character itself, only percent signs and digits are written for it. -/
theorem notMem_encodeChar {c d : Char} (hc : c ≠ '%') (hdigit : c ∉ Digit.all) (hne : d ≠ c) :
    c ∉ encodeChar d := by
  rw [encodeChar]
  split
  case isTrue => simpa using hne.symm
  case isFalse =>
    intro hmem
    obtain ⟨b, _, hb⟩ := List.mem_flatMap.mp hmem
    have hlt : b.toNat < 256 := b.toNat_lt
    simp only [escape, List.mem_cons, List.not_mem_nil, or_false] at hb
    rcases hb with rfl | rfl | rfl
    · exact hc rfl
    · exact hdigit (mem_digits_upper _ (by omega))
    · exact hdigit (mem_digits_upper _ (by omega))

/-- **The pieces of an encoded text are the encoded pieces of the text**, between the occurrences of
a kept character that is no digit. -/
theorem splitOn_encode {c : Char} (hkept : kept c) (hdigit : c ∉ Digit.all) (text : String) :
    (encode text).toList.splitOn c
      = (text.toList.splitOn c).map (fun piece => (encode (String.ofList piece)).toList) := by
  have hc : c ≠ '%' := by
    rintro rfl
    exact absurd hkept (by decide)
  have hself : encodeChar c = [c] := by rw [encodeChar, if_pos hkept]
  rw [toList_encode, splitOn_flatMap hself fun d hd => notMem_encodeChar hc hdigit hd]
  simp [toList_encode]

end Percent

end CompactQuery
