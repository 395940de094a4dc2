import CompactQuery.Proofs.Text.Parting

/-!
# Shrinking — an escape costs characters

An escape takes up three characters and stands for one octet, and no octet makes more than one
character: it finishes one, or what it cuts short becomes one. All other characters come out as they
went in. So decoding makes a text shorter by at least two characters for each escape, however the
octets are malformed. Counted in octets there is no such law, since a replacement takes three.

* **`escapes`** — how many escapes there are in a text; **`escapes_pos_iff`** — any at all.
* **`Utf8.length_step`** — an octet makes one character at most, the unfinished one counted in.
* **`length_readFrom_octetsOf`** — the count along the scan of a text. Induction along the scan,
  from any place that the reader can be at.
* **`decode_eq_self_iff`** — the texts that decoding leaves as they are.
-/

namespace CompactQuery

/-! ## Characters from octets -/

namespace Utf8

theorem length_start (b : UInt8) : (start b).1.length + (finish (start b).2).length = 1 := by
  unfold start
  simp only
  split_ifs <;> rfl

/-- An octet adds one character at most to those that are finished or cut short. -/
theorem length_step (place : Pending) (b : UInt8) :
    (step place b).1.length + (finish (step place b).2).length ≤ (finish place).length + 1 := by
  have hstart := length_start b
  cases place with
  | between =>
      have hnone : (finish .between).length = 0 := rfl
      rw [step, hnone]
      omega
  | inside bits owed low high =>
      by_cases hrange : low ≤ b.toNat ∧ b.toNat ≤ high
      · cases owed <;> simp [step, hrange, finish]
      · -- the octet ends the character at hand as a replacement and starts the next one
        rw [step, if_neg hrange]
        show (start b).1.length + 1 + (finish (start b).2).length ≤ 1 + 1
        omega

end Utf8

namespace Percent

/-! ## Escapes -/

instance : DecidablePred DigitsAhead
  | [] | [_] => inferInstanceAs (Decidable False)
  | _ :: _ :: _ => inferInstanceAs (Decidable (_ ∧ _))

/-- How many percent signs have two hexadecimal digits behind them. -/
def escapes : List Char → Nat
  | [] => 0
  | c :: rest => if c = '%' ∧ DigitsAhead rest then escapes rest + 1 else escapes rest

theorem escapes_cons_of_ne {c : Char} (hc : c ≠ '%') (rest : List Char) :
    escapes (c :: rest) = escapes rest := by
  rw [escapes, if_neg fun h => hc h.1]

theorem escapes_percent {rest : List Char} (h : ¬ DigitsAhead rest) :
    escapes ('%' :: rest) = escapes rest := by
  rw [escapes, if_neg fun h' => h h'.2]

/-- The digits of an escape start none themselves. -/
theorem escapes_escape {a b : Char} {x y : Nat} (ha : Digit.value? a = some x)
    (hb : Digit.value? b = some y) (rest : List Char) :
    escapes ('%' :: a :: b :: rest) = escapes rest + 1 := by
  have hsign : Digit.value? '%' = none := by decide
  have hane : a ≠ '%' := by
    rintro rfl
    exact nomatch ha.symm.trans hsign
  have hbne : b ≠ '%' := by
    rintro rfl
    exact nomatch hb.symm.trans hsign
  have hahead : DigitsAhead (a :: b :: rest) := by
    show (Digit.value? a).isSome ∧ (Digit.value? b).isSome
    rw [ha, hb]
    exact ⟨rfl, rfl⟩
  rw [escapes, if_pos ⟨rfl, hahead⟩, escapes_cons_of_ne hane, escapes_cons_of_ne hbne]

theorem isSome_value?_iff {c : Char} : (Digit.value? c).isSome ↔ c ∈ Digit.all := by
  have hall : ∀ c ∈ Digit.all, (Digit.value? c).isSome := List.all_eq_true.mp (by decide)
  by_cases hc : c ∈ Digit.all
  · exact iff_of_true (hall c hc) hc
  · have hnone : ¬ (Digit.value? c).isSome := by
      rw [Digit.value?_eq_none hc]
      decide
    exact iff_of_false hnone hc

theorem digitsAhead_iff {rest : List Char} :
    DigitsAhead rest ↔ ∃ high low after, rest = high :: low :: after ∧
      high ∈ Digit.all ∧ low ∈ Digit.all := by
  simp only [← isSome_value?_iff]
  constructor
  · intro h
    match rest, h with
    | a :: b :: after, h => exact ⟨a, b, after, rfl, h⟩
  · rintro ⟨high, low, after, rfl, h⟩
    exact h

/-- **There is an escape** just if somewhere in the text a percent sign has two digits behind it. -/
theorem escapes_pos_iff {text : List Char} :
    0 < escapes text ↔ ∃ before high low after, text = before ++ '%' :: high :: low :: after ∧
      high ∈ Digit.all ∧ low ∈ Digit.all := by
  induction text with
  | nil => simp [escapes]
  | cons c rest ih =>
      by_cases hescape : c = '%' ∧ DigitsAhead rest
      · obtain ⟨rfl, hahead⟩ := hescape
        obtain ⟨high, low, after, hrest, hdigits⟩ := digitsAhead_iff.mp hahead
        rw [escapes, if_pos ⟨rfl, hahead⟩]
        exact iff_of_true (Nat.succ_pos _) ⟨[], high, low, after, by rw [hrest]; rfl, hdigits⟩
      · rw [escapes, if_neg hescape, ih]
        constructor
        · rintro ⟨before, high, low, after, rfl, hdigits⟩
          exact ⟨c :: before, high, low, after, rfl, hdigits⟩
        · rintro ⟨before, high, low, after, htext, hdigits⟩
          cases before with
          | nil =>
              -- the escape would start right here
              obtain ⟨rfl, rfl⟩ := List.cons.inj htext
              exact (hescape ⟨rfl, digitsAhead_iff.mpr ⟨high, low, after, rfl, hdigits⟩⟩).elim
          | cons d before => exact ⟨before, high, low, after, (List.cons.inj htext).2, hdigits⟩

/-! ## Decoding -/

/-- Without escapes a text stands for its own octets. -/
theorem octetsOf_of_escapes_eq_zero {text : List Char} (h : escapes text = 0) :
    octetsOf text = text.flatMap Utf8.octets := by
  induction text with
  | nil => rfl
  | cons c rest ih =>
      by_cases hescape : c = '%' ∧ DigitsAhead rest
      · rw [escapes, if_pos hescape] at h
        exact absurd h (Nat.succ_ne_zero _)
      · rw [escapes, if_neg hescape] at h
        rw [List.flatMap_cons, ← ih h]
        by_cases hc : c = '%'
        · subst hc
          exact octetsOf_percent fun hahead => hescape ⟨rfl, hahead⟩
        · exact octetsOf_cons_of_ne hc rest

/-- **Each escape costs two characters at least**, wherever the reader stands. -/
theorem length_readFrom_octetsOf {place : Utf8.Pending} (hplace : place.Proper)
    (text : List Char) :
    (Utf8.readFrom place (octetsOf text)).length + 2 * escapes text
      ≤ (Utf8.finish place).length + text.length := by
  -- any other character ends what is pending and comes out as it is
  have hliteral (c : Char) (rest : List Char) {place : Utf8.Pending} (hplace : place.Proper)
      (hoctets : octetsOf (c :: rest) = Utf8.octets c ++ octetsOf rest)
      (hescapes : escapes (c :: rest) = escapes rest)
      (ih : (Utf8.readFrom .between (octetsOf rest)).length + 2 * escapes rest
        ≤ (Utf8.finish .between).length + rest.length) :
      (Utf8.readFrom place (octetsOf (c :: rest))).length + 2 * escapes (c :: rest)
        ≤ (Utf8.finish place).length + (c :: rest).length := by
    have hfinish : (Utf8.finish .between).length = 0 := rfl
    rw [hoctets, hescapes, Utf8.readFrom_octets_of_proper hplace]
    simp only [List.length_append, List.length_cons]
    omega
  have hbetween : Utf8.Pending.Proper .between := True.intro
  induction text using scan_induction generalizing place with
  | nil => exact Nat.le_refl _
  | escape a b x y rest hx hy ih =>
      have hread : octetsOf ('%' :: a :: b :: rest)
          = UInt8.ofNat (16 * x + y) :: octetsOf rest := by rw [octetsOf, hx, hy]
      have hstep := Utf8.length_step place (UInt8.ofNat (16 * x + y))
      have hrest := ih (Utf8.proper_step place (UInt8.ofNat (16 * x + y)))
      rw [hread, escapes_escape hx hy, Utf8.readFrom_cons]
      simp only [List.length_append, List.length_cons]
      omega
  | sign rest hnot ih =>
      exact hliteral '%' rest hplace (octetsOf_percent hnot) (escapes_percent hnot) (ih hbetween)
  | other c rest hc ih =>
      exact hliteral c rest hplace (octetsOf_cons_of_ne hc rest) (escapes_cons_of_ne hc rest)
        (ih hbetween)

theorem length_decode (text : String) :
    (decode text).length + 2 * escapes text.toList ≤ text.length := by
  have hplace : Utf8.Pending.Proper .between := True.intro
  have h := length_readFrom_octetsOf hplace text.toList
  rw [← String.length_toList, ← String.length_toList, toList_decode, Utf8.lossy]
  simpa [Utf8.finish] using h

theorem decode_of_escapes_eq_zero {text : String} (h : escapes text.toList = 0) :
    decode text = text := by
  rw [← String.toList_inj, toList_decode, octetsOf_of_escapes_eq_zero h, Utf8.lossy_flatMap_octets]

/-- **Decoding leaves a text as it is just if there is nothing to decode**: no percent sign with two
hexadecimal digits right behind it. -/
theorem decode_eq_self_iff (text : String) :
    decode text = text ↔
      ¬ ∃ before high low after, text.toList = before ++ '%' :: high :: low :: after ∧
        high ∈ "0123456789abcdefABCDEF".toList ∧ low ∈ "0123456789abcdefABCDEF".toList := by
  have hnone : decode text = text ↔ ¬ 0 < escapes text.toList := by
    constructor
    · intro h
      have hlength := length_decode text
      rw [h] at hlength
      omega
    · intro h
      exact decode_of_escapes_eq_zero (Nat.eq_zero_of_not_pos h)
  exact hnone.trans (not_congr escapes_pos_iff)

/-- No escape in the one text, two in the other. The second of them is no UTF-8, and what replaces
it has as many octets as the escape. -/
example : decode "%4%é%%G0" = "%4%é%%G0" ∧ decode "%41%FFé" = "A\uFFFDé" := by decide +kernel

end Percent

end CompactQuery
