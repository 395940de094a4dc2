import CompactQuery.Json.Token
import CompactQuery.Proofs.Text.Decimal

/-!
# Figures — the numbers of JSON as they are written

A number has no mark at its end, so it is scanned up to its end only if what follows does not go on
with it. Each part is followed by something that is no part of it, and nothing but figures is
scanned as a number.

* **`Figures`** — a number as it is written, with an **`Exponent`** or without.
* **`Numeral.scan_figures`** — figures are scanned up to their end, part by part.
* **`Numeral.exists_figures`** — nothing but figures is scanned.
* **`Figures.ofDigits`** — digits as figures, read as they stand below 2^64
  (`number?_ofDigits`); **`Figures.ofNat`** — the figures that are written for a natural number.
-/

namespace CompactQuery.Json

/-! ## Numbers as they are written -/

/-- The exponent of a number as it is written. -/
structure Exponent where
  mark : Char
  sign : List Char
  digits : List Char
  mark_eq : mark = 'e' ∨ mark = 'E'
  sign_eq : sign = [] ∨ sign = ['+'] ∨ sign = ['-']
  digit : ∀ c ∈ digits, c.isDigit
  ne_nil : digits ≠ []

namespace Exponent

def chars (exponent : Exponent) : List Char := exponent.mark :: exponent.sign ++ exponent.digits

def value (exponent : Exponent) : Int :=
  if exponent.sign = ['-'] then -(Digit.number 10 exponent.digits : Int)
  else Digit.number 10 exponent.digits

end Exponent

/-- A number as it is written. Without digits behind the point there is no point. -/
structure Figures where
  minus : Bool
  whole : List Char
  fraction : List Char
  exponent : Option Exponent
  canonical : Canonical whole
  digit : ∀ c ∈ fraction, c.isDigit

namespace Figures

def fractionChars (figures : Figures) : List Char :=
  if figures.fraction = [] then [] else '.' :: figures.fraction

def exponentChars (figures : Figures) : List Char := figures.exponent.elim [] Exponent.chars

def chars (figures : Figures) : List Char :=
  (if figures.minus then ['-'] else [])
    ++ (figures.whole ++ (figures.fractionChars ++ figures.exponentChars))

/-- The parts of the number. -/
def numeral (figures : Figures) : Numeral :=
  ⟨figures.minus, figures.whole, figures.fraction, figures.exponent.map Exponent.value⟩

end Figures

/-- No more of a number: the text is at its end or goes on with something else. -/
def EndsNumber (rest : List Char) : Prop :=
  ∀ c ∈ rest.head?, ¬ c.isDigit ∧ c ≠ '.' ∧ c ≠ 'e' ∧ c ≠ 'E'

theorem endsNumber_nil : EndsNumber [] := fun _ h => nomatch h

theorem endsNumber_cons {c : Char} (hc : ¬ c.isDigit ∧ c ≠ '.' ∧ c ≠ 'e' ∧ c ≠ 'E')
    (rest : List Char) : EndsNumber (c :: rest) := by
  intro d hd
  cases hd
  exact hc

/-- No more digits. -/
def EndsDigits (rest : List Char) : Prop := ∀ c ∈ rest.head?, ¬ c.isDigit

theorem endsDigits_cons {c : Char} (hc : ¬ c.isDigit) (rest : List Char) :
    EndsDigits (c :: rest) := by
  intro d hd
  cases hd
  exact hc

theorem EndsNumber.endsDigits {rest : List Char} (h : EndsNumber rest) : EndsDigits rest :=
  fun c hc => (h c hc).1

theorem Exponent.endsDigits (exponent : Exponent) (rest : List Char) :
    EndsDigits (exponent.chars ++ rest) := by
  refine endsDigits_cons ?_ _
  rcases exponent.mark_eq with hmark | hmark <;> rw [hmark] <;> decide

namespace Numeral

theorem span_append {digits rest : List Char} (hdigits : ∀ c ∈ digits, c.isDigit)
    (hrest : EndsDigits rest) : span (digits ++ rest) = (digits, rest) := by
  have hhead : rest.takeWhile Char.isDigit = [] ∧ rest.dropWhile Char.isDigit = rest := by
    cases rest with
    | nil => exact ⟨rfl, rfl⟩
    | cons c rest =>
        have hc : ¬ c.isDigit := hrest c rfl
        simp [hc]
  rw [span, List.takeWhile_append_of_pos hdigits, List.dropWhile_append_of_pos hdigits,
    hhead.1, hhead.2, List.append_nil]

theorem scanMinus_of_digit {c : Char} (h : c.isDigit) (rest : List Char) :
    scanMinus (c :: rest) = (false, c :: rest) := by
  have hne : c ≠ '-' := fun hc => absurd (hc ▸ h) (by decide)
  simp [scanMinus, hne]

theorem scanWhole_append {digits rest : List Char} (hdigits : Canonical digits)
    (hrest : EndsDigits rest) : scanWhole (digits ++ rest) = .ok (digits, rest) := by
  rw [scanWhole, span_append hdigits.digit hrest]
  match digits, hdigits with
  | [], hdigits => exact absurd rfl hdigits.ne_nil
  | [d], _ => simp
  | d :: e :: more, hdigits =>
      have hzero : d ≠ '0' := by
        rintro rfl
        exact nomatch hdigits.head rfl
      simp [hzero]

theorem scanFraction_figures (figures : Figures) {rest : List Char} (hrest : EndsDigits rest)
    (hpoint : rest.head? ≠ some '.') :
    scanFraction (figures.fractionChars ++ rest) = .ok (figures.fraction, rest) := by
  rw [Figures.fractionChars]
  by_cases hnil : figures.fraction = []
  · rw [if_pos hnil, hnil, List.nil_append]
    unfold scanFraction
    split
    · exact absurd rfl hpoint
    · rfl
  · obtain ⟨d, more, hd⟩ := List.exists_cons_of_ne_nil hnil
    rw [if_neg hnil, List.cons_append, scanFraction, span_append figures.digit hrest, hd]

theorem scanSign_of_digit {c : Char} (h : c.isDigit) (rest : List Char) :
    scanSign (c :: rest) = (false, c :: rest) := by
  have hminus : c ≠ '-' := fun hc => absurd (hc ▸ h) (by decide)
  have hplus : c ≠ '+' := fun hc => absurd (hc ▸ h) (by decide)
  simp [scanSign, hminus, hplus]

theorem scanSign_exponent (exponent : Exponent) (rest : List Char) :
    scanSign (exponent.sign ++ (exponent.digits ++ rest))
      = (decide (exponent.sign = ['-']), exponent.digits ++ rest) := by
  rcases exponent.sign_eq with hsign | hsign | hsign
  · obtain ⟨d, more, hd⟩ := List.exists_cons_of_ne_nil exponent.ne_nil
    have hdigit : d.isDigit := exponent.digit d (by rw [hd]; exact List.mem_cons_self)
    rw [hsign, hd, List.nil_append, List.cons_append, scanSign_of_digit hdigit]
    rfl
  · rw [hsign]
    rfl
  · rw [hsign]
    rfl

theorem scanExponent_of_endsNumber {rest : List Char} (h : EndsNumber rest) :
    scanExponent rest = .ok (none, rest) := by
  cases rest with
  | nil => rfl
  | cons c rest =>
      obtain ⟨_, _, he, hE⟩ := h c rfl
      rw [scanExponent, if_neg (by simp [he, hE])]

theorem scanExponent_figures (figures : Figures) {rest : List Char} (hrest : EndsNumber rest) :
    scanExponent (figures.exponentChars ++ rest)
      = .ok (figures.exponent.map Exponent.value, rest) := by
  rw [Figures.exponentChars]
  cases figures.exponent with
  | none => exact scanExponent_of_endsNumber hrest
  | some exponent =>
      obtain ⟨d, more, hd⟩ := List.exists_cons_of_ne_nil exponent.ne_nil
      have hspan : span (exponent.digits ++ rest) = (d :: more, rest) :=
        hd ▸ span_append exponent.digit hrest.endsDigits
      have hvalue : exponent.value
          = if exponent.sign = ['-'] then -(Digit.number 10 (d :: more) : Int)
            else Digit.number 10 (d :: more) := by rw [Exponent.value, hd]
      rw [Option.elim_some, Exponent.chars, List.cons_append, List.cons_append, List.append_assoc,
        scanExponent, if_pos exponent.mark_eq]
      simp only [scanSign_exponent, hspan, Option.map_some, hvalue, decide_eq_true_eq]

/-- **Figures are scanned up to their end.** -/
theorem scan_figures (figures : Figures) {rest : List Char} (hrest : EndsNumber rest) :
    scan (figures.chars ++ rest) = .ok (figures.numeral, rest) := by
  -- what follows each part does not go on with it
  have hexponent : EndsDigits (figures.exponentChars ++ rest) ∧
      (figures.exponentChars ++ rest).head? ≠ some '.' := by
    rw [Figures.exponentChars]
    cases figures.exponent with
    | none => exact ⟨hrest.endsDigits, fun h => (hrest '.' h).2.1 rfl⟩
    | some exponent =>
        refine ⟨exponent.endsDigits rest, ?_⟩
        rcases exponent.mark_eq with h | h <;>
          simp [Exponent.chars, h]
  have hfraction : EndsDigits (figures.fractionChars ++ (figures.exponentChars ++ rest)) := by
    rw [Figures.fractionChars]
    split
    · exact hexponent.1
    · exact endsDigits_cons (by decide) _
  have hminus : scanMinus (figures.chars ++ rest)
      = (figures.minus,
          figures.whole ++ (figures.fractionChars ++ (figures.exponentChars ++ rest))) := by
    obtain ⟨c, more, hc⟩ := List.exists_cons_of_ne_nil figures.canonical.ne_nil
    have hdigit : c.isDigit := figures.canonical.digit c (by rw [hc]; exact List.mem_cons_self)
    rw [Figures.chars]
    cases figures.minus with
    | true => simp [scanMinus]
    | false =>
        rw [if_neg (by simp), hc]
        simp [scanMinus_of_digit hdigit]
  simp only [scan, hminus, scanWhole_append figures.canonical hfraction,
    scanFraction_figures figures hexponent.1 hexponent.2, scanExponent_figures figures hrest, bind,
    Except.bind, pure, Except.pure]
  rfl

/-! ### Nothing but figures is scanned -/

theorem span_eq (text : List Char) : (span text).1 ++ (span text).2 = text :=
  List.takeWhile_append_dropWhile

theorem isDigit_of_mem_span {text : List Char} {c : Char} (h : c ∈ (span text).1) : c.isDigit := by
  have hall := List.all_takeWhile (p := Char.isDigit) (l := text)
  exact List.all_eq_true.mp hall c h

theorem eq_of_scanWhole {text digits after : List Char}
    (h : scanWhole text = .ok (digits, after)) : text = digits ++ after ∧ Canonical digits := by
  have hspan := span_eq text
  have hdigit : ∀ c ∈ (span text).1, c.isDigit := fun c => isDigit_of_mem_span
  unfold scanWhole at h
  split at h
  · cases h
  · cases h
  · rename_i found rest hne hzero hs
    cases h
    rw [hs] at hspan hdigit
    refine ⟨hspan.symm, hdigit, hne, fun hhead => ?_⟩
    -- a zero in front stands alone
    cases digits with
    | nil => exact nomatch hhead
    | cons d more =>
        cases hhead
        cases more with
        | nil => rfl
        | cons e more => exact (hzero e more rfl).elim

theorem eq_of_scanFraction {text digits after : List Char}
    (h : scanFraction text = .ok (digits, after)) :
    text = (if digits = [] then [] else '.' :: digits) ++ after ∧ ∀ c ∈ digits, c.isDigit := by
  unfold scanFraction at h
  split at h
  · rename_i rest
    have hspan := span_eq rest
    have hdigit : ∀ c ∈ (span rest).1, c.isDigit := fun c => isDigit_of_mem_span
    split at h
    · cases h
    · rename_i found rest hne hs
      cases h
      rw [hs] at hspan hdigit
      rw [if_neg hne, ← hspan]
      exact ⟨rfl, hdigit⟩
  · cases h
    exact ⟨rfl, List.forall_mem_nil _⟩

theorem eq_of_scanSign (text : List Char) :
    ∃ sign, (sign = [] ∨ sign = ['+'] ∨ sign = ['-']) ∧ text = sign ++ (scanSign text).2 ∧
      (scanSign text).1 = decide (sign = ['-']) := by
  unfold scanSign
  split
  · exact ⟨['-'], by simp, rfl, rfl⟩
  · exact ⟨['+'], by simp, rfl, rfl⟩
  · exact ⟨[], by simp, rfl, rfl⟩

theorem exists_exponent {text : List Char} {n : Option Int} {after : List Char}
    (h : scanExponent text = .ok (n, after)) :
    ∃ exponent : Option Exponent, text = exponent.elim [] Exponent.chars ++ after ∧
      exponent.map Exponent.value = n := by
  unfold scanExponent at h
  split at h
  · cases h
    exact ⟨none, rfl, rfl⟩
  · rename_i e rest
    split at h
    · rename_i hmark
      obtain ⟨sign, hsign, hrest, hminus⟩ := eq_of_scanSign rest
      have hspan := span_eq (scanSign rest).2
      have hdigit : ∀ c ∈ (span (scanSign rest).2).1, c.isDigit := fun c => isDigit_of_mem_span
      simp only at h
      split at h
      · cases h
      · rename_i digits more hne hs
        cases h
        rw [hs] at hspan hdigit
        refine ⟨some ⟨e, sign, digits, hmark, hsign, hdigit, hne⟩, ?_, ?_⟩
        · rw [Option.elim_some, Exponent.chars, hrest, ← hspan]
          simp
        · simp [Exponent.value, hminus]
    · cases h
      exact ⟨none, rfl, rfl⟩

theorem eq_of_scanMinus (text : List Char) :
    text = (if (scanMinus text).1 then ['-'] else []) ++ (scanMinus text).2 := by
  unfold scanMinus
  split <;> rfl

/-- **Nothing but figures is scanned.** -/
theorem exists_figures {text after : List Char} {numeral : Numeral}
    (h : scan text = .ok (numeral, after)) :
    ∃ figures : Figures, text = figures.chars ++ after ∧ figures.numeral = numeral := by
  unfold scan at h
  cases hw : scanWhole (scanMinus text).2 with
  | error e => simp [hw, bind, Except.bind] at h
  | ok whole =>
    obtain ⟨hwhole, hcanonical⟩ := eq_of_scanWhole hw
    cases hf : scanFraction whole.2 with
    | error e => simp [hw, hf, bind, Except.bind] at h
    | ok fraction =>
      obtain ⟨hfraction, hdigit⟩ := eq_of_scanFraction hf
      cases he : scanExponent fraction.2 with
      | error e => simp [hw, hf, he, bind, Except.bind] at h
      | ok exponent =>
        obtain ⟨written, hexponent, hvalue⟩ := exists_exponent he
        simp only [hw, hf, he, bind, Except.bind, pure, Except.pure, Except.ok.injEq,
          Prod.mk.injEq] at h
        obtain ⟨rfl, rfl⟩ := h
        refine ⟨⟨(scanMinus text).1, whole.1, fraction.1, written, hcanonical, hdigit⟩, ?_, ?_⟩
        · rw [Figures.chars, Figures.fractionChars, Figures.exponentChars, List.append_assoc,
            List.append_assoc, List.append_assoc, ← hexponent, ← hfraction, ← hwhole,
            ← eq_of_scanMinus]
        · rw [Figures.numeral, hvalue]

end Numeral

/-! ## Figures without a sign, a point or an exponent -/

/-- Digits as the figures of a number. -/
def Figures.ofDigits {digits : List Char} (h : Canonical digits) : Figures :=
  ⟨false, digits, [], none, h, fun _ h => nomatch h⟩

theorem chars_ofDigits {digits : List Char} (h : Canonical digits) :
    (Figures.ofDigits h).chars = digits := by
  simp [Figures.chars, Figures.ofDigits, Figures.fractionChars, Figures.exponentChars]

/-- **Digits are read as a natural number just if it is below 2^64**, and then as that number. -/
theorem number?_ofDigits {digits : List Char} (h : Canonical digits) {n : UInt64} :
    (Figures.ofDigits h).numeral.number? = .ok (.natural n) ↔
      Digit.number 10 digits < UInt64.size ∧ n = UInt64.ofNat (Digit.number 10 digits) := by
  by_cases hlt : Digit.number 10 digits < UInt64.size
  · simp [Figures.numeral, Figures.ofDigits, Numeral.number?, hlt, eq_comm]
  · -- any other number is read as a float, if at all
    simp only [Numeral.number?, Figures.numeral, Figures.ofDigits, hlt, decide_false,
      Bool.and_false, Bool.false_and, Bool.false_eq_true, if_false, false_and, iff_false]
    split <;> simp

/-- The figures that are written for a natural number. -/
def Figures.ofNat (n : Nat) : Figures :=
  ⟨false, Nat.toDigits 10 n, [], none, Digit.canonical_toDigits n, fun _ h => nomatch h⟩

theorem chars_ofNat (n : Nat) : (Figures.ofNat n).chars = Nat.toDigits 10 n :=
  chars_ofDigits (Digit.canonical_toDigits n)

theorem number?_ofNat (n : UInt64) :
    (Figures.ofNat n.toNat).numeral.number? = .ok (.natural n) := by
  refine (number?_ofDigits (Digit.canonical_toDigits n.toNat)).mpr ?_
  rw [Digit.number_toDigits]
  exact ⟨n.toNat_lt, UInt64.ofNat_toNat.symm⟩

end CompactQuery.Json
