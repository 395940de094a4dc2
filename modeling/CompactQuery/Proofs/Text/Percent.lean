import CompactQuery.Text.Percent
import CompactQuery.Proofs.Text.Utf8

/-!
# Percent — one text, many encoded forms

A text can be percent-encoded in many ways: any character may stand for itself or be escaped, octet
by octet, and each hexadecimal digit of an escape may be in either case. Only a percent sign has to
be escaped. All these forms decode to the text, and what `encode` writes is one of them.

* **`Spelling`** — the forms of a text.
* **`Spelling.octetsOf`** — whatever the form, the octets that it stands for are those of the text.
  Induction on the form: a literal character is no percent sign, so it starts no escape, and an
  escape takes up three characters, so digits behind it are not drawn in.
* **`scan_induction`** — induction along the scan of any text at all, a form or not.
* **`Spelling.decode`** — every form decodes to its text.
* **`spelling_encode`** — `encode` writes a form of the text.
* **`isVisible_encode`** — of visible characters, all of them ASCII.
-/

namespace CompactQuery.Percent

/-! ## The forms of a text -/

/-- The character is the hexadecimal digit of the number, in either case. -/
def IsDigitOf (c : Char) (n : Nat) : Prop :=
  "0123456789abcdef".toList[n]? = some c ∨ "0123456789ABCDEF".toList[n]? = some c

instance (c : Char) (n : Nat) : Decidable (IsDigitOf c n) := by unfold IsDigitOf; infer_instance

/-- Octets as percent signs with two digits each. -/
inductive Escaped : List UInt8 → List Char → Prop where
  | nil : Escaped [] []
  | cons {b : UInt8} {bs : List UInt8} {high low : Char} {rest : List Char}
      (hhigh : IsDigitOf high (b.toNat / 16)) (hlow : IsDigitOf low (b.toNat % 16))
      (hrest : Escaped bs rest) : Escaped (b :: bs) ('%' :: high :: low :: rest)

/-- An encoded form of a text. Each character stands for itself, unless it is a percent sign, or
all octets of its UTF-8 form are escaped. -/
inductive Spelling : List Char → List Char → Prop where
  | nil : Spelling [] []
  | literal {c : Char} {text spelled : List Char} (hc : c ≠ '%') (hrest : Spelling text spelled) :
      Spelling (c :: text) (c :: spelled)
  | escaped {c : Char} {text escapes spelled : List Char}
      (hc : Escaped (String.utf8EncodeChar c) escapes) (hrest : Spelling text spelled) :
      Spelling (c :: text) (escapes ++ spelled)

/-! ## Reading a form -/

theorem value?_of_isDigitOf {c : Char} {n : Nat} (h : IsDigitOf c n) : Digit.value? c = some n := by
  have hlower : ∀ n < 16, "0123456789abcdef".toList[n]?.bind Digit.value? = some n := by decide
  have hupper : ∀ n < 16, "0123456789ABCDEF".toList[n]?.bind Digit.value? = some n := by decide
  rcases h with h | h
  · have hn := hlower n (List.getElem?_eq_some_iff.mp h).1
    rwa [h, Option.bind_some] at hn
  · have hn := hupper n (List.getElem?_eq_some_iff.mp h).1
    rwa [h, Option.bind_some] at hn

theorem octetsOf_escape {high low : Char} {b : UInt8} (hhigh : IsDigitOf high (b.toNat / 16))
    (hlow : IsDigitOf low (b.toNat % 16)) (rest : List Char) :
    octetsOf ('%' :: high :: low :: rest) = b :: octetsOf rest := by
  have hb : UInt8.ofNat (16 * (b.toNat / 16) + b.toNat % 16) = b := by
    rw [Nat.div_add_mod, UInt8.ofNat_toNat]
  rw [octetsOf, value?_of_isDigitOf hhigh, value?_of_isDigitOf hlow]
  simp only [hb]

/-- Any other character than a percent sign stands for itself. -/
theorem octetsOf_cons_of_ne {c : Char} (hc : c ≠ '%') (rest : List Char) :
    octetsOf (c :: rest) = Utf8.octets c ++ octetsOf rest := by
  rw [octetsOf]
  rintro a b after rfl
  exact absurd rfl hc

/-- The first two characters are digits. -/
def DigitsAhead : List Char → Prop
  | a :: b :: _ => (Digit.value? a).isSome ∧ (Digit.value? b).isSome
  | _ => False

/-- A percent sign without digits behind it stands for itself. -/
theorem octetsOf_percent {rest : List Char} (h : ¬ DigitsAhead rest) :
    octetsOf ('%' :: rest) = Utf8.octets '%' ++ octetsOf rest := by
  match rest, h with
  | [], _ => rfl
  | [a], _ => rfl
  | a :: b :: after, h =>
      rw [octetsOf]
      cases ha : Digit.value? a with
      | none => rfl
      | some x =>
          cases hb : Digit.value? b with
          | none => rfl
          | some y =>
              exact absurd ⟨by rw [ha, Option.isSome_some], by rw [hb, Option.isSome_some]⟩ h

/-- Induction along the scan of an encoded text: an escape, a percent sign that starts none, or any
other character. -/
@[elab_as_elim]
theorem scan_induction {motive : List Char → Prop} (nil : motive [])
    (escape : ∀ (a b : Char) (x y : Nat) (rest : List Char), Digit.value? a = some x →
      Digit.value? b = some y → motive rest → motive ('%' :: a :: b :: rest))
    (sign : ∀ rest : List Char, ¬ DigitsAhead rest → motive rest → motive ('%' :: rest))
    (other : ∀ (c : Char) (rest : List Char), c ≠ '%' → motive rest → motive (c :: rest))
    (text : List Char) : motive text := by
  fun_induction octetsOf text with
  | case1 a b rest x y hy hx ih => exact escape a b x y rest hx hy ih
  | case2 a b rest hnot ih =>
      refine sign (a :: b :: rest) ?_ ih
      rintro ⟨ha, hb⟩
      obtain ⟨x, hx⟩ := Option.isSome_iff_exists.mp ha
      obtain ⟨y, hy⟩ := Option.isSome_iff_exists.mp hb
      exact hnot x y hx hy
  | case3 c rest hnot ih =>
      by_cases hc : c = '%'
      · subst hc
        refine sign rest ?_ ih
        match rest, hnot with
        | [], _ => exact not_false
        | [_], _ => exact not_false
        | a :: b :: after, hnot => exact (hnot a b after rfl rfl).elim
      · exact other c rest hc ih
  | case4 => exact nil

theorem Escaped.octetsOf_append {bs : List UInt8} {escapes : List Char} (h : Escaped bs escapes)
    (rest : List Char) : octetsOf (escapes ++ rest) = bs ++ octetsOf rest := by
  induction h with
  | nil => rfl
  | cons hhigh hlow _ ih =>
      rw [List.cons_append, List.cons_append, List.cons_append, octetsOf_escape hhigh hlow, ih]
      rfl

/-- **A form stands for the octets of its text.** -/
theorem Spelling.octetsOf {text spelled : List Char} (h : Spelling text spelled) :
    octetsOf spelled = text.flatMap Utf8.octets := by
  induction h with
  | nil => rfl
  | literal hc _ ih => rw [octetsOf_cons_of_ne hc, ih, List.flatMap_cons]
  | escaped hc _ ih => rw [hc.octetsOf_append, ih, List.flatMap_cons, Utf8.octets_eq]

/-- **A form decodes to its text.** -/
theorem Spelling.decode {text spelled : String} (h : Spelling text.toList spelled.toList) :
    decode spelled = text := by
  rw [← String.toList_inj, toList_decode, h.octetsOf, Utf8.lossy_flatMap_octets]

/-! ## The form that is written -/

theorem isDigitOf_upper : ∀ n < 16, IsDigitOf (Digit.upper n) n := by decide

theorem escaped_flatMap_escape (bs : List UInt8) : Escaped bs (bs.flatMap escape) := by
  induction bs with
  | nil => exact .nil
  | cons b bs ih =>
      have hb : b.toNat < 256 := b.toNat_lt
      exact .cons (isDigitOf_upper _ (by omega)) (isDigitOf_upper _ (by omega)) ih

/-- **Encoding writes a form of the text**: a character that is kept is no percent sign. -/
theorem spelling_encode (text : String) : Spelling text.toList (encode text).toList := by
  rw [toList_encode]
  induction text.toList with
  | nil => exact .nil
  | cons c text ih =>
      rw [List.flatMap_cons, encodeChar]
      by_cases hkept : kept c = true
      · have hc : c ≠ '%' := by
          rintro rfl
          exact absurd hkept (by decide)
        rw [if_pos hkept]
        exact .literal hc ih
      · rw [if_neg hkept, Utf8.octets_eq]
        exact .escaped (escaped_flatMap_escape _) ih

theorem decode_encode (text : String) : decode (encode text) = text := (spelling_encode text).decode

/-! ## Visible characters -/

/-- A character of ASCII that is neither a blank nor a control character. -/
def IsVisible (c : Char) : Prop := 32 < c.toNat ∧ c.toNat < 127

instance (c : Char) : Decidable (IsVisible c) := inferInstanceAs (Decidable (_ ∧ _))

/-- The characters between two visible ones are visible. -/
theorem isVisible_of_le {first c last : Char} (hfirst : IsVisible first) (hlast : IsVisible last)
    (h : first ≤ c) (h' : c ≤ last) : IsVisible c :=
  ⟨Nat.lt_of_lt_of_le hfirst.1 h, Nat.lt_of_le_of_lt h' hlast.2⟩

theorem isVisible_of_isAlphanum {c : Char} (h : c.isAlphanum) : IsVisible c := by
  rcases Bool.or_eq_true_iff.mp h with hletter | hdigit
  · rcases Bool.or_eq_true_iff.mp hletter with hupper | hlower
    · obtain ⟨hfirst, hlast⟩ := of_decide_eq_true hupper
      exact isVisible_of_le (by decide : IsVisible 'A') (by decide : IsVisible 'Z') hfirst hlast
    · obtain ⟨hfirst, hlast⟩ := Bool.and_eq_true_iff.mp hlower
      exact isVisible_of_le (by decide : IsVisible 'a') (by decide : IsVisible 'z')
        (of_decide_eq_true hfirst) (of_decide_eq_true hlast)
  · obtain ⟨hfirst, hlast⟩ := Bool.and_eq_true_iff.mp hdigit
    exact isVisible_of_le (by decide : IsVisible '0') (by decide : IsVisible '9')
      (of_decide_eq_true hfirst) (of_decide_eq_true hlast)

theorem isVisible_of_kept {c : Char} (h : kept c) : IsVisible c := by
  rcases Bool.or_eq_true_iff.mp h with halphanum | hmark
  · exact isVisible_of_isAlphanum halphanum
  · have hmarks : ∀ c ∈ marks, IsVisible c := by simp [marks, IsVisible]
    exact hmarks c (List.contains_iff_mem.mp hmark)

theorem isVisible_upper : ∀ n < 16, IsVisible (Digit.upper n) := by decide

/-- **What is written is visible**: no blank and no end of a line is left in it. -/
theorem isVisible_encode (text : String) : ∀ c ∈ (encode text).toList, IsVisible c := by
  intro c hc
  rw [toList_encode] at hc
  obtain ⟨d, _, hc⟩ := List.mem_flatMap.mp hc
  rw [encodeChar] at hc
  split at hc
  case isTrue hkept =>
    rw [List.mem_singleton.mp hc]
    exact isVisible_of_kept hkept
  case isFalse =>
    obtain ⟨b, _, hc⟩ := List.mem_flatMap.mp hc
    have hb : b.toNat < 256 := b.toNat_lt
    simp only [escape, List.mem_cons, List.not_mem_nil, or_false] at hc
    rcases hc with rfl | rfl | rfl
    · decide
    · exact isVisible_upper _ (by omega)
    · exact isVisible_upper _ (by omega)

end CompactQuery.Percent
