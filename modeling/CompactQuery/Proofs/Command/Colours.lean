import CompactQuery.Command.Style
import Mathlib.Data.List.Basic

/-!
# Colours — what is left of a printed text without them

In colour, a span with a style is printed between two sequences that a terminal takes for orders:
each an escape character, a bracket, codes of digits and semicolons, and the letter that ends them.
A text without escape characters holds no sequence and has no style to put back, so a reader that
takes all sequences out of what is printed is left with what is printed without colour.

* **`uncoloured`** — a text with all sequences taken out, whatever their codes.
* **`withoutSequences_append`** — a text without escape characters stays, whatever follows.
* **`uncoloured_shownAll`** — spans in colour, with the sequences taken out, are spans without colour.
-/

namespace CompactQuery.Command

/-! ## Taking sequences out -/

/-- What follows a sequence, in the text behind its escape character. -/
def behindSequence? : List Char → Option (List Char)
  | '[' :: rest =>
    match rest.dropWhile fun c => c.isDigit || c = ';' with
    | 'm' :: behind => some behind
    | _ => none
  | _ => none

-- a sequence has two characters at least besides its escape character
theorem length_behindSequence? {text behind : List Char} (h : behindSequence? text = some behind) :
    behind.length < text.length := by
  unfold behindSequence? at h
  split at h
  · rename_i rest
    split at h
    · rename_i behind' hrest
      cases h
      have hle := (List.dropWhile_sublist (fun c : Char => c.isDigit || c = ';')
        (l := rest)).length_le
      rw [hrest, List.length_cons] at hle
      rw [List.length_cons]
      omega
    · exact nomatch h
  · exact nomatch h

def withoutSequences : List Char → List Char
  | [] => []
  | c :: rest =>
    if c = '\x1b' then
      -- an escape character that starts no sequence stays
      match _h : behindSequence? rest with
      | some behind => withoutSequences behind
      | none => c :: withoutSequences rest
    else c :: withoutSequences rest
termination_by text => text.length
decreasing_by
  · have hlt := length_behindSequence? _h
    rw [List.length_cons]
    omega
  all_goals exact Nat.lt_succ_self _

/-- A text with all sequences taken out. -/
def uncoloured (text : String) : String := String.ofList (withoutSequences text.toList)

theorem withoutSequences_nil : withoutSequences [] = [] := by
  rw [withoutSequences]

theorem withoutSequences_cons_of_ne {c : Char} (hc : c ≠ '\x1b') (rest : List Char) :
    withoutSequences (c :: rest) = c :: withoutSequences rest := by
  rw [withoutSequences, if_neg hc]

theorem withoutSequences_append {text : List Char} (h : '\x1b' ∉ text) (rest : List Char) :
    withoutSequences (text ++ rest) = text ++ withoutSequences rest := by
  induction text with
  | nil => rfl
  | cons c text ih =>
      rw [List.mem_cons, not_or] at h
      rw [List.cons_append, withoutSequences_cons_of_ne (Ne.symm h.1), ih h.2, List.cons_append]

theorem withoutSequences_sequence {codes : List Char} (hcodes : ∀ c ∈ codes, c.isDigit || c = ';')
    (rest : List Char) :
    withoutSequences ('\x1b' :: '[' :: (codes ++ 'm' :: rest)) = withoutSequences rest := by
  -- the codes end at the letter, which is none of them
  have hend : ('m' :: rest).dropWhile (fun c => c.isDigit || c = ';') = 'm' :: rest := by
    rw [List.dropWhile_cons_of_neg (by decide)]
  have hbehind : behindSequence? ('[' :: (codes ++ 'm' :: rest)) = some rest := by
    simp only [behindSequence?, List.dropWhile_append_of_pos hcodes, hend]
  rw [withoutSequences, if_pos rfl]
  split
  · rename_i behind h
    rw [hbehind] at h
    cases h
    rfl
  · rename_i h
    rw [hbehind] at h
    exact nomatch h

/-! ## Spans -/

theorem withoutSequences_start (style : Style) (rest : List Char) :
    withoutSequences (style.start.toList ++ rest) = withoutSequences rest := by
  have hcodes : ∀ c ∈ style.codes.toList, c.isDigit || c = ';' := by
    cases style <;> simp [Style.codes]
  have hstart : style.start.toList ++ rest
      = '\x1b' :: '[' :: (style.codes.toList ++ 'm' :: rest) := by
    simp [Style.start]
  rw [hstart, withoutSequences_sequence hcodes]

theorem withoutSequences_styleEnd (rest : List Char) :
    withoutSequences (styleEnd.toList ++ rest) = withoutSequences rest :=
  @withoutSequences_sequence ['0'] (by simp) rest

/-- In a text without escape characters no style ends, so none is put back. -/
theorem Style.restored_of_notMem (style : Style) {text : List Char} (h : '\x1b' ∉ text) :
    style.restored text = text := by
  fun_induction style.restored text with
  | case1 rest ih => exact absurd List.mem_cons_self h
  | case2 c rest _ ih => rw [ih (fun hc => h (List.mem_cons_of_mem _ hc))]
  | case3 => rfl

theorem Span.withoutSequences_shown {span : Span} (h : '\x1b' ∉ (span.shown false).toList)
    (rest : List Char) :
    withoutSequences ((span.shown true).toList ++ rest)
      = (span.shown false).toList ++ withoutSequences rest := by
  obtain ⟨text, style⟩ := span
  cases style with
  | none => exact withoutSequences_append h rest
  | some style =>
      have htext : '\x1b' ∉ text.toList := h
      have hshown : ((Span.mk text (some style)).shown true).toList ++ rest
          = style.start.toList ++ (text.toList ++ (styleEnd.toList ++ rest)) := by
        simp only [shown, style.restored_of_notMem htext, String.ofList_toList,
          String.toList_append, List.append_assoc]
      rw [hshown, withoutSequences_start, withoutSequences_append htext, withoutSequences_styleEnd]
      rfl

theorem shownAll_cons (colours : Bool) (span : Span) (spans : List Span) :
    shownAll colours (span :: spans) = span.shown colours ++ shownAll colours spans := by
  rw [shownAll, List.map_cons, String.join_cons]
  rfl

theorem shownAll_append (colours : Bool) (spans more : List Span) :
    shownAll colours (spans ++ more) = shownAll colours spans ++ shownAll colours more := by
  rw [shownAll, List.map_append, String.join_append]
  rfl

/-- **Colours add nothing but sequences.** Induction on the spans: each is read up to its end, where
the next one starts. -/
theorem uncoloured_shownAll {spans : List Span} (h : '\x1b' ∉ (shownAll false spans).toList) :
    uncoloured (shownAll true spans) = shownAll false spans := by
  have hlist : withoutSequences (shownAll true spans).toList = (shownAll false spans).toList := by
    induction spans with
    | nil => exact withoutSequences_nil
    | cons span spans ih =>
        rw [shownAll_cons, String.toList_append, List.mem_append, not_or] at h
        rw [shownAll_cons, shownAll_cons, String.toList_append, String.toList_append,
          Span.withoutSequences_shown h.1, ih h.2]
  rw [uncoloured, hlist, String.ofList_toList]

end CompactQuery.Command
