import CompactQuery.Text.Utf8

/-!
# UTF-8 — the reader gets back every character that was written

The octets of a character take the reader from between two characters to between two characters,
and on the way it yields that character and nothing else. The widths are gone through one by one:
an octet is brought to its number, the number is in the range that the reader asks for, and the
bits add up to the character.

* **`octets_eq`** — the octets are those of the standard encoding.
* **`readFrom_octets`** — the octets of a character, whatever follows them.
* **`lossy_flatMap_octets`** — the octets of a text read back as the text.
-/

namespace CompactQuery.Utf8

/-- The octets of a character are its standard encoding. -/
theorem octets_eq (c : Char) : octets c = String.utf8EncodeChar c := by
  have hmax : c.toNat < 0x110000 := by
    have hvalid := c.valid
    simp only [UInt32.isValidChar, Nat.isValidChar] at hvalid
    change c.val.toNat < _
    omega
  have hval : c.val.toNat = c.toNat := rfl
  simp only [octets, String.utf8EncodeChar, hval]
  -- the same four ranges on both sides, and the same octets within each
  grind

/-! ## The reader inside a character -/

theorem toNat_ofNat {n : Nat} (h : n < 256) : (UInt8.ofNat n).toNat = n := by
  rw [UInt8.toNat_ofNat', Nat.mod_eq_of_lt h]

/-- An octet in the range asked for, with more octets owed behind it. -/
theorem readFrom_inside_succ {bits owed low high n : Nat} (hn : n < 256) (hlow : low ≤ n)
    (hhigh : n ≤ high) (bs : List UInt8) :
    readFrom (.inside bits (owed + 1) low high) (UInt8.ofNat n :: bs)
      = readFrom (.inside (bits * 64 + (n - 0x80)) owed 0x80 0xBF) bs := by
  rw [readFrom_cons, step, toNat_ofNat hn, if_pos ⟨hlow, hhigh⟩]
  rfl

/-- The last octet of a character. -/
theorem readFrom_inside_zero {bits low high n : Nat} (hn : n < 256) (hlow : low ≤ n)
    (hhigh : n ≤ high) (bs : List UInt8) :
    readFrom (.inside bits 0 low high) (UInt8.ofNat n :: bs)
      = Char.ofNat (bits * 64 + (n - 0x80)) :: readFrom .between bs := by
  rw [readFrom_cons, step, toNat_ofNat hn, if_pos ⟨hlow, hhigh⟩]
  rfl

/-! ## A character and what follows it -/

/-- **The octets of a character are read as that character**, whatever follows. One case for each
number of octets. -/
theorem readFrom_octets (c : Char) (bs : List UInt8) :
    readFrom .between (octets c ++ bs) = c :: readFrom .between bs := by
  have hvalid : c.toNat < 0xD800 ∨ 0xDFFF < c.toNat ∧ c.toNat < 0x110000 := c.valid
  have hback : ∀ n, n = c.toNat → Char.ofNat n = c := by
    rintro n rfl
    exact c.ofNat_toNat
  unfold octets
  by_cases h1 : c.toNat < 0x80
  · have hstart : start (UInt8.ofNat c.toNat) = ([Char.ofNat c.toNat], .between) := by
      rw [start, toNat_ofNat (by omega), if_pos h1]
    simp only [if_pos h1, List.cons_append, List.nil_append]
    rw [readFrom_cons, step, hstart, hback _ rfl]
    rfl
  by_cases h2 : c.toNat < 0x800
  · have hstart : start (UInt8.ofNat (0xC0 + c.toNat / 64))
        = ([], .inside (c.toNat / 64) 0 0x80 0xBF) := by
      rw [start, toNat_ofNat (by omega), if_neg (by omega), if_neg (by omega), if_pos (by omega),
        Nat.add_sub_cancel_left]
    simp only [if_neg h1, if_pos h2, List.cons_append, List.nil_append]
    rw [readFrom_cons, step, hstart, List.nil_append,
      readFrom_inside_zero (by omega) (by omega) (by omega), hback _ (by omega)]
  by_cases h3 : c.toNat < 0x10000
  · -- the range of the second octet leaves out the overlong forms and the surrogates
    have hstart : start (UInt8.ofNat (0xE0 + c.toNat / 4096))
        = ([], .inside (c.toNat / 4096) 1 (if 0xE0 + c.toNat / 4096 = 0xE0 then 0xA0 else 0x80)
            (if 0xE0 + c.toNat / 4096 = 0xED then 0x9F else 0xBF)) := by
      rw [start, toNat_ofNat (by omega), if_neg (by omega), if_neg (by omega), if_neg (by omega),
        if_pos (by omega), Nat.add_sub_cancel_left]
    simp only [if_neg h1, if_neg h2, if_pos h3, List.cons_append, List.nil_append]
    rw [readFrom_cons, step, hstart, List.nil_append,
      readFrom_inside_succ (by omega) (by split <;> omega) (by split <;> omega),
      readFrom_inside_zero (by omega) (by omega) (by omega), hback _ (by omega)]
  · have hstart : start (UInt8.ofNat (0xF0 + c.toNat / 262144))
        = ([], .inside (c.toNat / 262144) 2
            (if 0xF0 + c.toNat / 262144 = 0xF0 then 0x90 else 0x80)
            (if 0xF0 + c.toNat / 262144 = 0xF4 then 0x8F else 0xBF)) := by
      rw [start, toNat_ofNat (by omega), if_neg (by omega), if_neg (by omega), if_neg (by omega),
        if_neg (by omega), if_pos (by omega), Nat.add_sub_cancel_left]
    simp only [if_neg h1, if_neg h2, if_neg h3, List.cons_append, List.nil_append]
    rw [readFrom_cons, step, hstart, List.nil_append,
      readFrom_inside_succ (by omega) (by split <;> omega) (by split <;> omega),
      readFrom_inside_succ (by omega) (by omega) (by omega),
      readFrom_inside_zero (by omega) (by omega) (by omega), hback _ (by omega)]

/-- **The octets of a text read back as the text.** -/
theorem lossy_flatMap_octets (text : List Char) : lossy (text.flatMap octets) = text := by
  unfold lossy
  induction text with
  | nil => rfl
  | cons c text ih => rw [List.flatMap_cons, readFrom_octets, ih]

end CompactQuery.Utf8
