import CompactQuery.Proofs.Text.Percent
import Mathlib.Data.List.Basic
import Mathlib.Data.List.TFAE
import Mathlib.Tactic.TFAE

/-!
# Encoded — which texts encoding writes

Encoding works octet by octet: an octet that is a kept character by itself is written as that
character, and any other is escaped. So a text can be told to be an encoded one by looking at it:
every character outside escapes is kept, every escape is needed and in upper case, and the octets
that the text stands for are UTF-8. The last condition is one on the whole text, since the octets of
a character may be spread over several escapes.

* **`encodeOctet`**, **`toList_encode_octets`** — encoding octet by octet.
* **`UrlSafe`** — the conditions on an encoded text, with the characters spelled out.
* **`urlSafe_encode`** — encoding meets them.
* **`eq_flatMap_octetsOf`** — a text that meets them is what its octets are written as. Induction
  along the scan of the text.
* **`encoded_tfae`** — so these are the texts that encoding writes, and those that decoding and
  encoding again do not change.
-/

namespace CompactQuery.Percent

/-! ## Octet by octet -/

/-- An octet in its encoded form. -/
def encodeOctet (b : UInt8) : List Char :=
  if kept (Char.ofNat b.toNat) then [Char.ofNat b.toNat] else escape b

theorem toNat_ofNat {n : Nat} (h : n < 256) : (Char.ofNat n).toNat = n := by
  have hvalid : n.isValidChar := Or.inl (by omega)
  rw [Char.ofNat, dif_pos hvalid]
  rfl

/-- No octet of a longer character is kept. -/
theorem encodeOctet_of_le {b : UInt8} (h : 0x80 ≤ b.toNat) : encodeOctet b = escape b := by
  have hb : b.toNat < 256 := b.toNat_lt
  have hnot : ¬ kept (Char.ofNat b.toNat) := by
    intro hkept
    have hvisible := (isVisible_of_kept hkept).2
    rw [toNat_ofNat hb] at hvisible
    omega
  rw [encodeOctet, if_neg hnot]

/-- All octets of a character beyond ASCII are beyond ASCII. -/
theorem le_of_mem_octets {c : Char} (hc : 0x80 ≤ c.toNat) {b : UInt8} (hb : b ∈ Utf8.octets c) :
    0x80 ≤ b.toNat := by
  have hvalid : c.toNat < 0xD800 ∨ 0xDFFF < c.toNat ∧ c.toNat < 0x110000 := c.valid
  have hlead : ∀ n, 0x80 ≤ n → n < 256 → 0x80 ≤ (UInt8.ofNat n).toNat := by
    intro n hlow hhigh
    rwa [Utf8.toNat_ofNat hhigh]
  unfold Utf8.octets at hb
  simp only [if_neg (Nat.not_lt.mpr hc)] at hb
  split at hb
  · simp only [List.mem_cons, List.not_mem_nil, or_false] at hb
    rcases hb with rfl | rfl <;> exact hlead _ (by omega) (by omega)
  · split at hb
    · simp only [List.mem_cons, List.not_mem_nil, or_false] at hb
      rcases hb with rfl | rfl | rfl <;> exact hlead _ (by omega) (by omega)
    · simp only [List.mem_cons, List.not_mem_nil, or_false] at hb
      rcases hb with rfl | rfl | rfl | rfl <;> exact hlead _ (by omega) (by omega)

/-- **A character is written octet by octet.** -/
theorem encodeChar_eq (c : Char) : encodeChar c = (Utf8.octets c).flatMap encodeOctet := by
  by_cases hc : c.toNat < 0x80
  · have hoctets : Utf8.octets c = [UInt8.ofNat c.toNat] := by rw [Utf8.octets, if_pos hc]
    have hchar : Char.ofNat (UInt8.ofNat c.toNat).toNat = c := by
      rw [Utf8.toNat_ofNat (by omega), c.ofNat_toNat]
    rw [encodeChar, hoctets, List.flatMap_singleton, List.flatMap_singleton, encodeOctet, hchar]
  · have hnot : ¬ kept c := fun hkept => by
      have hvisible := (isVisible_of_kept hkept).2
      omega
    have hmap : (Utf8.octets c).flatMap encodeOctet = (Utf8.octets c).flatMap escape := by
      refine List.flatMap_congr fun b hb => ?_
      exact encodeOctet_of_le (le_of_mem_octets (by omega) hb)
    rw [encodeChar, if_neg hnot, hmap]

theorem toList_encode_octets (text : String) :
    (encode text).toList = (text.toList.flatMap Utf8.octets).flatMap encodeOctet := by
  rw [toList_encode, List.flatMap_assoc]
  exact List.flatMap_congr fun c _ => encodeChar_eq c

/-! ## The look of an encoded text -/

/-- The letters and digits of ASCII, and the marks that need no escape. -/
def Unescaped (c : Char) : Prop := c.isAlphanum ∨ c ∈ "-_.!~*'();,/?:@&=+$#".toList

/-- The character is the upper-case hexadecimal digit of the number. -/
def IsUpperDigitOf (c : Char) (n : Nat) : Prop := "0123456789ABCDEF".toList[n]? = some c

/-- Behind each percent sign there are two upper-case digits, of an octet that needs the escape. -/
def EscapesNeeded (text : List Char) : Prop :=
  ∀ before after, text = before ++ '%' :: after →
    ∃ high low rest m n, after = high :: low :: rest ∧ IsUpperDigitOf high m ∧
      IsUpperDigitOf low n ∧ ¬ Unescaped (Char.ofNat (16 * m + n))

/-- What can be seen of a text that is safe in a URL as it stands. -/
structure UrlSafe (text : List Char) : Prop where
  chars : ∀ c ∈ text, Unescaped c ∨ c = '%'
  escapes : EscapesNeeded text
  /-- The octets that it stands for are UTF-8. -/
  valid : (octetsOf text).toByteArray.IsValidUTF8

theorem kept_iff_unescaped {c : Char} : kept c ↔ Unescaped c := by
  have hmarks : "-_.!~*'();,/?:@&=+$#".toList = marks := by decide
  rw [kept, Unescaped, hmarks, Bool.or_eq_true, List.contains_iff_mem]

theorem EscapesNeeded.of_append {before text : List Char} (h : EscapesNeeded (before ++ text)) :
    EscapesNeeded text := by
  rintro front after rfl
  exact h (before ++ front) after (List.append_assoc ..).symm

theorem isUpperDigitOf_iff {c : Char} {n : Nat} :
    IsUpperDigitOf c n ↔ n < 16 ∧ c = Digit.upper n := by
  have hdigits : ∀ n < 16, "0123456789ABCDEF".toList[n]? = some (Digit.upper n) := by decide
  unfold IsUpperDigitOf
  constructor
  · intro h
    have hn : n < 16 := (List.getElem?_eq_some_iff.mp h).1
    rw [hdigits n hn] at h
    exact ⟨hn, (Option.some.inj h).symm⟩
  · rintro ⟨hn, rfl⟩
    exact hdigits n hn

/-! ## What is written looks like that -/

theorem kept_upper : ∀ n < 16, kept (Digit.upper n) := by decide

theorem unescaped_of_mem_encodeOctet {b : UInt8} {c : Char} (h : c ∈ encodeOctet b) :
    Unescaped c ∨ c = '%' := by
  have hb : b.toNat < 256 := b.toNat_lt
  unfold encodeOctet at h
  split at h
  case isTrue hkept =>
    rw [List.mem_singleton.mp h]
    exact Or.inl (kept_iff_unescaped.mp hkept)
  case isFalse =>
    simp only [escape, List.mem_cons, List.not_mem_nil, or_false] at h
    rcases h with rfl | rfl | rfl
    · exact Or.inr rfl
    · exact Or.inl (kept_iff_unescaped.mp (kept_upper _ (by omega)))
    · exact Or.inl (kept_iff_unescaped.mp (kept_upper _ (by omega)))

/-- Induction on the octets: a percent sign is the first character of the escape of one of them. -/
theorem escapesNeeded_flatMap (bs : List UInt8) : EscapesNeeded (bs.flatMap encodeOctet) := by
  induction bs with
  | nil =>
      intro before after h
      simp at h
  | cons b bs ih =>
      have hb : b.toNat < 256 := b.toNat_lt
      have hsign : ∀ c, kept c → c ≠ '%' := by
        rintro c hc rfl
        exact absurd hc (by decide)
      intro before after h
      rw [List.flatMap_cons, encodeOctet] at h
      split at h
      case isTrue hkept =>
        cases before with
        | nil => exact absurd (List.cons.inj h).1 (hsign _ hkept)
        | cons c before => exact ih before after (List.cons.inj h).2
      case isFalse hkept =>
        have hhigh : kept (Digit.upper (b.toNat / 16)) := kept_upper _ (by omega)
        have hlow : kept (Digit.upper (b.toNat % 16)) := kept_upper _ (by omega)
        simp only [escape, List.cons_append, List.nil_append] at h
        -- the percent sign is the one of this octet, neither of its digits, or further behind
        rcases before with _ | ⟨c, _ | ⟨high, _ | ⟨low, before⟩⟩⟩
        · refine ⟨_, _, _, b.toNat / 16, b.toNat % 16, (List.cons.inj h).2.symm,
            isUpperDigitOf_iff.mpr ⟨by omega, rfl⟩, isUpperDigitOf_iff.mpr ⟨by omega, rfl⟩, ?_⟩
          rwa [Nat.div_add_mod, ← kept_iff_unescaped]
        · exact absurd (List.cons.inj (List.cons.inj h).2).1 (hsign _ hhigh)
        · exact absurd (List.cons.inj (List.cons.inj (List.cons.inj h).2).2).1 (hsign _ hlow)
        · exact ih before after (List.cons.inj (List.cons.inj (List.cons.inj h).2).2).2

/-- **What is written is safe in a URL.** -/
theorem urlSafe_encode (text : String) : UrlSafe (encode text).toList := by
  have hoctets : octetsOf (encode text).toList = text.toList.flatMap String.utf8EncodeChar := by
    rw [(spelling_encode text).octetsOf]
    exact List.flatMap_congr fun c _ => Utf8.octets_eq c
  refine ⟨?_, ?_, ?_⟩
  · intro c hc
    rw [toList_encode_octets] at hc
    obtain ⟨b, _, hc⟩ := List.mem_flatMap.mp hc
    exact unescaped_of_mem_encodeOctet hc
  · rw [toList_encode_octets]
    exact escapesNeeded_flatMap _
  · rw [hoctets]
    exact ⟨text.toList, rfl⟩

/-! ## What looks like that is written -/

/-- A text of such characters and needed escapes is what its octets are written as. -/
theorem eq_flatMap_octetsOf {text : List Char} (hchars : ∀ c ∈ text, Unescaped c ∨ c = '%')
    (hescapes : EscapesNeeded text) : (octetsOf text).flatMap encodeOctet = text := by
  induction text using scan_induction with
  | nil => rfl
  | escape a b x y rest hx hy ih =>
      obtain ⟨high, low, _, m, n, hafter, hhigh, hlow, hnot⟩ := hescapes [] _ rfl
      obtain ⟨hm, rfl⟩ := isUpperDigitOf_iff.mp hhigh
      obtain ⟨hn, rfl⟩ := isUpperDigitOf_iff.mp hlow
      obtain ⟨rfl, rfl, rfl⟩ : a = Digit.upper m ∧ b = Digit.upper n ∧ rest = _ := by
        simpa using hafter
      have hread : octetsOf ('%' :: Digit.upper m :: Digit.upper n :: rest)
          = UInt8.ofNat (16 * m + n) :: octetsOf rest := by
        rw [octetsOf, Digit.value?_upper m hm, Digit.value?_upper n hn]
      have hwritten : encodeOctet (UInt8.ofNat (16 * m + n))
          = ['%', Digit.upper m, Digit.upper n] := by
        have hoctet : (UInt8.ofNat (16 * m + n)).toNat = 16 * m + n := Utf8.toNat_ofNat (by omega)
        have hdiv : (16 * m + n) / 16 = m := by omega
        have hmod : (16 * m + n) % 16 = n := by omega
        rw [encodeOctet, hoctet, if_neg (mt kept_iff_unescaped.mp hnot), escape, hoctet, hdiv, hmod]
      have hescapes' : EscapesNeeded (['%', Digit.upper m, Digit.upper n] ++ rest) := hescapes
      have hrest := ih (fun c hc => hchars c (by simp [hc])) hescapes'.of_append
      rw [hread, List.flatMap_cons, hwritten, hrest]
      rfl
  | sign rest hnot ih =>
      -- a percent sign without digits behind it is no needed escape
      obtain ⟨high, low, after, m, n, rfl, hhigh, hlow, _⟩ := hescapes [] _ rfl
      obtain ⟨hm, rfl⟩ := isUpperDigitOf_iff.mp hhigh
      obtain ⟨hn, rfl⟩ := isUpperDigitOf_iff.mp hlow
      refine absurd ⟨?_, ?_⟩ hnot
      · rw [Digit.value?_upper m hm, Option.isSome_some]
      · rw [Digit.value?_upper n hn, Option.isSome_some]
  | other c rest hc ih =>
      have hkept : kept c :=
        kept_iff_unescaped.mpr ((hchars c List.mem_cons_self).resolve_right hc)
      have hescapes' : EscapesNeeded ([c] ++ rest) := hescapes
      have hrest := ih (fun d hd => hchars d (List.mem_cons_of_mem _ hd)) hescapes'.of_append
      rw [octetsOf_cons_of_ne hc, List.flatMap_append, ← encodeChar_eq, encodeChar, if_pos hkept,
        hrest]
      rfl

/-- **A text that is safe in a URL is an encoded one.** -/
theorem UrlSafe.exists_encode {spelled : String} (h : UrlSafe spelled.toList) :
    ∃ text, spelled = encode text := by
  obtain ⟨text, htext⟩ := h.valid
  have hoctets : octetsOf spelled.toList = text.flatMap Utf8.octets := by
    rw [List.toByteArray_inj.mp htext]
    exact List.flatMap_congr fun c _ => (Utf8.octets_eq c).symm
  refine ⟨String.ofList text, ?_⟩
  rw [← String.toList_inj, toList_encode_octets, String.toList_ofList, ← hoctets,
    eq_flatMap_octetsOf h.chars h.escapes]

/-- **The encoded texts.** Encoding writes a text just if decoding it and encoding the result gives
it back, and just if it looks like one that is safe in a URL. -/
theorem encoded_tfae (spelled : String) :
    List.TFAE [∃ text, spelled = encode text, encode (decode spelled) = spelled,
      UrlSafe spelled.toList] := by
  tfae_have 1 → 3 := by
    rintro ⟨text, rfl⟩
    exact urlSafe_encode text
  tfae_have 3 → 2 := by
    intro h
    obtain ⟨text, rfl⟩ := h.exists_encode
    rw [decode_encode]
  tfae_have 2 → 1 := fun h => ⟨decode spelled, h.symm⟩
  tfae_finish

/-- Both escapes are needed, but their octets are not UTF-8. -/
example : encode (decode "%C3%20") = "%EF%BF%BD%20" := by decide +kernel

end CompactQuery.Percent
