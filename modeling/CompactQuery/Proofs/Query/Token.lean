import CompactQuery.Query.Clause
import CompactQuery.Proofs.Text.Joined

/-!
# Token — what the token of a clause shows of the clause

A token is its clause's parts joined by one separator: colons for fields, sort keys and limits,
bars for conditions. Optional parts that count as absent show nowhere, and neither does the
direction of a sort key. So each kind of clause has a normal form, which keeps exactly what the
token shows.

* **`Field.parts`**, **`SortKey.parts`**, **`Limit.parts`**, **`Condition.atoms`** — the parts, with
  `token_eq` for each.
* **`Condition.normal`**, **`Join.normal`**, **`SortKey.normal`**, **`Limit.normal`** — the normal
  forms. A field needs none: what the steps store is in normal form already.
* **`token_normal`** — a clause and its normal form have the same token.
* **`count_token`** — a character that is no separator occurs in a token as often as in the texts that
  the clause stores; **`Field.notMem_token`** — a character that is in none of them is not in it.
* **`token_inj`** — clauses with the same token have the same normal form, as long as the first part
  is free of colons. Conditions are the subject of a module of their own.
-/

namespace CompactQuery

/-! ## Optional texts -/

/-- What counts as given is given and not empty. -/
theorem given_eq_some_iff {text : Option String} {t : String} :
    given text = some t ↔ text = some t ∧ t ≠ "" := by
  simp [given, Option.filter_eq_some_iff]

theorem given_ne_empty (text : Option String) : given text ≠ some "" :=
  fun h => (given_eq_some_iff.mp h).2 rfl

/-- What is not the empty text counts as given. -/
theorem given_of_ne_empty {text : Option String} (h : text ≠ some "") : given text = text := by
  cases text with
  | none => rfl
  | some t => exact given_eq_some_iff.mpr ⟨rfl, fun ht => h (by rw [ht])⟩

@[simp] theorem given_given (text : Option String) : given (given text) = given text :=
  given_of_ne_empty (given_ne_empty text)

/-- A text that counts as absent has no characters. -/
theorem occurrences_given (c : Char) (text : Option String) :
    occurrences c (given text).toList = occurrences c text.toList := by
  by_cases h : text = some ""
  · subst h
    rfl
  · rw [given_of_ne_empty h]

/-! ## Fields -/

namespace Field

/-- The texts that a field stores. -/
def texts (field : Field) : List String := field.name :: field.label.toList

/-- The name, and the label if it is given. -/
def parts (field : Field) : List String := field.name :: (given field.label).toList

theorem token_eq (field : Field) : field.token = pairSeparator.intercalate field.parts := by
  unfold token parts
  cases given field.label <;> simp

theorem count_token {c : Char} (hc : c ∉ pairSeparator.toList) (field : Field) :
    field.token.toList.count c = occurrences c field.texts := by
  rw [token_eq, count_intercalate_of_notMem hc, parts, texts, occurrences_cons, occurrences_cons,
    occurrences_given]

theorem notMem_token {c : Char} {field : Field} (hc : c ∉ pairSeparator.toList)
    (h : ∀ text ∈ field.texts, c ∉ text.toList) : c ∉ field.token.toList := by
  rw [← List.count_eq_zero, count_token hc, occurrences_eq_zero_iff]
  exact h

/-- Fields that the steps store are told apart by their tokens. -/
theorem token_inj {field other : Field} (hname : ':' ∉ field.name.toList)
    (hname' : ':' ∉ other.name.toList) (hlabel : field.label ≠ some "")
    (hlabel' : other.label ≠ some "") (h : field.token = other.token) : field = other := by
  rw [token_eq, token_eq] at h
  obtain ⟨hn, hl⟩ := intercalate_pair_inj (c := ':') rfl hname hname' h
  rw [given_of_ne_empty hlabel, given_of_ne_empty hlabel'] at hl
  cases field
  cases other
  simp_all

end Field

/-! ## Sort keys -/

namespace SortKey

/-- The sort key without its direction, only that there is one. -/
def normal (key : SortKey) : SortKey :=
  { key with direction := (given key.direction).map fun _ => directionMark }

/-- The column, and the mark if a direction is given. -/
def parts (key : SortKey) : List String := key.field :: key.normal.direction.toList

theorem token_eq (key : SortKey) : key.token = pairSeparator.intercalate key.parts := by
  unfold token parts normal
  cases given key.direction <;> simp

@[simp] theorem token_normal (key : SortKey) : key.normal.token = key.token := by
  unfold token normal
  cases given key.direction with
  | none => rfl
  | some direction => rfl

/-- The direction does not show, whatever characters it has. -/
theorem count_token {c : Char} (hc : c ∉ pairSeparator.toList) (hmark : c ∉ directionMark.toList)
    (key : SortKey) : key.token.toList.count c = key.field.toList.count c := by
  rw [token_eq, count_intercalate_of_notMem hc, parts, occurrences_cons, normal]
  cases given key.direction with
  | none => simp
  | some direction => simp [List.count_eq_zero.mpr hmark]

theorem token_inj {key other : SortKey} (hfield : ':' ∉ key.field.toList)
    (hfield' : ':' ∉ other.field.toList) (h : key.token = other.token) :
    key.normal = other.normal := by
  rw [token_eq, token_eq] at h
  obtain ⟨hf, hd⟩ := intercalate_pair_inj (c := ':') rfl hfield hfield' h
  rw [show key.normal = { field := key.field, direction := key.normal.direction } from rfl, hf, hd]
  rfl

end SortKey

/-! ## Limits -/

theorem isDigit_of_mem_decimal {c : Char} {n : UInt64} (h : c ∈ (decimal n).toList) : c.isDigit := by
  rw [decimal, Nat.toList_repr] at h
  exact Nat.isDigit_of_mem_toDigits (by decide) (by decide) h

theorem notMem_decimal {c : Char} (hc : c.isDigit = false) (n : UInt64) :
    c ∉ (decimal n).toList := by
  intro h
  rw [isDigit_of_mem_decimal h] at hc
  exact absurd hc (by decide)

/-- A number is read back from its digits. -/
theorem decimal_inj {n m : UInt64} (h : decimal n = decimal m) : n = m := by
  have hdigits : Nat.toDigits 10 n.toNat = Nat.toDigits 10 m.toNat := by
    rw [← Nat.toList_repr, ← Nat.toList_repr]
    exact congrArg String.toList h
  have hnat : n.toNat = m.toNat := by
    rw [← Nat.ofDigitChars_ten_toDigits (n := n.toNat), hdigits, Nat.ofDigitChars_ten_toDigits]
  exact UInt64.toNat_inj.mp hnat

namespace Limit

/-- The limit without an offset of zero. -/
def normal (limit : Limit) : Limit := { limit with offset := limit.offset.filter (· ≠ 0) }

/-- The count, and the offset if it is not zero. -/
def parts (limit : Limit) : List String :=
  decimal limit.count :: (limit.normal.offset.map decimal).toList

theorem token_eq (limit : Limit) : limit.token = pairSeparator.intercalate limit.parts := by
  unfold token parts normal
  cases limit.offset.filter (· ≠ 0) <;> simp

theorem token_of_none {limit : Limit} (h : limit.offset.filter (· ≠ 0) = none) :
    limit.token = decimal limit.count := by
  rw [token, h]

theorem token_of_some {limit : Limit} {offset : UInt64}
    (h : limit.offset.filter (· ≠ 0) = some offset) :
    limit.token = decimal limit.count ++ pairSeparator ++ decimal offset := by
  rw [token, h]

@[simp] theorem token_normal (limit : Limit) : limit.normal.token = limit.token := by
  unfold token normal
  rw [Option.filter_filter]
  simp

theorem count_token {c : Char} (hc : c ∉ pairSeparator.toList) (hdigit : c.isDigit = false)
    (limit : Limit) : limit.token.toList.count c = 0 := by
  rw [token_eq, count_intercalate_of_notMem hc, occurrences_eq_zero_iff]
  intro part hpart
  rcases List.mem_cons.mp hpart with rfl | hoffset
  · exact notMem_decimal hdigit _
  · obtain ⟨_, _, rfl⟩ := Option.map_eq_some_iff.mp (Option.mem_toList.mp hoffset)
    exact notMem_decimal hdigit _

theorem token_inj {limit other : Limit} (h : limit.token = other.token) :
    limit.normal = other.normal := by
  rw [token_eq, token_eq] at h
  obtain ⟨hc, ho⟩ := intercalate_pair_inj (c := ':') rfl (notMem_decimal (by decide) _)
    (notMem_decimal (by decide) _) h
  have hoffset : limit.normal.offset = other.normal.offset :=
    Option.map_injective (fun _ _ => decimal_inj) ho
  rw [show limit.normal = { count := limit.count, offset := limit.normal.offset } from rfl,
    decimal_inj hc, hoffset]
  rfl

end Limit

/-! ## Conditions and joins -/

namespace Condition

/-- The condition with an empty connector read as none. -/
def normal (condition : Condition) : Condition :=
  { condition with connector := given condition.connector }

def texts (condition : Condition) : List String :=
  condition.connector.toList ++ [condition.left, condition.op, condition.right]

/-- The connector if it is given, and the operands around the operator. -/
def atoms (condition : Condition) : List String :=
  (given condition.connector).toList ++ [condition.left, condition.op, condition.right]

theorem atoms_ne_nil (condition : Condition) : condition.atoms ≠ [] := by simp [atoms]

theorem mem_texts_of_mem_atoms {condition : Condition} {atom : String}
    (h : atom ∈ condition.atoms) : atom ∈ condition.texts := by
  rcases List.mem_append.mp h with hconnector | hoperand
  · have hgiven := given_eq_some_iff.mp (Option.mem_toList.mp hconnector)
    exact List.mem_append_left _ (Option.mem_toList.mpr hgiven.1)
  · exact List.mem_append_right _ hoperand

theorem token_eq (condition : Condition) :
    condition.token = partSeparator.intercalate condition.atoms := by
  unfold token atoms
  cases given condition.connector <;> simp [String.append_assoc]

theorem count_token {c : Char} (hc : c ∉ partSeparator.toList) (condition : Condition) :
    condition.token.toList.count c = occurrences c condition.texts := by
  rw [token_eq, count_intercalate_of_notMem hc, atoms, texts, occurrences_append,
    occurrences_append, occurrences_given]

@[simp] theorem token_normal (condition : Condition) : condition.normal.token = condition.token := by
  rw [token_eq, token_eq]
  simp [atoms, normal]

end Condition

namespace Join

def texts (join : Join) : List String := join.table :: join.conditions.flatMap Condition.texts

def normal (join : Join) : Join :=
  { join with conditions := join.conditions.map Condition.normal }

theorem count_token {c : Char} (hc : c ∉ partSeparator.toList) (join : Join) :
    join.token.toList.count c = occurrences c join.texts := by
  have hseam : c ∉ conditionSeparator.toList := by
    rw [show conditionSeparator = partSeparator ++ partSeparator by decide, String.toList_append,
      List.mem_append, or_self]
    exact hc
  rw [token, count_intercalate_of_notMem hseam, texts, occurrences_cons, occurrences_cons,
    occurrences_map (Condition.count_token hc)]

@[simp] theorem token_normal (join : Join) : join.normal.token = join.token := by
  simp [token, normal, Function.comp_def]

end Join

end CompactQuery
