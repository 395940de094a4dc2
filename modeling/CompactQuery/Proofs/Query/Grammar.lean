import CompactQuery.Proofs.Query.Clean
import CompactQuery.Proofs.Text.Decimal

/-!
# Grammar — the published grammar of the compact form

The compact form has a grammar of its own, apart from what renders it. Here are its derivations, one
structure for each production, with the text that each derives. Terminals may be empty and are free
of the separators that would be taken for structure where they stand:

    query      = "@" table joinSeg* fieldsSeg? filterSeg? orderSeg* limitSeg? groupsSeg?
    joinSeg    = "~" "+" table ("||" fragment)*
    fieldsSeg  = "~" "[" fieldToken ("," fieldToken)*
    filterSeg  = "~" "?" fragment ("||" fragment)*
    fragment   = (connector "|")? left "|" op "|" right
    orderSeg   = "~" ">" orderToken
    limitSeg   = "~" "-" count (":" offset)?
    groupsSeg  = "~" "[" field ("," field)*
    fieldToken = name (":" label)?
    orderToken = field (":dir")?

The grammar says nothing about which fragments of a filter have connectors: that rule is
**`Derivation.Chained`**.
-/

namespace CompactQuery.Grammar

/-! ## Terminals -/

/-- A terminal: any text without the given characters. -/
structure Terminal (banned : List Char) where
  text : String
  free : ∀ c ∈ banned, c ∉ text.toList

/-- A terminal that is not empty. -/
structure Word (banned : List Char) extends Terminal banned where
  ne_empty : text ≠ ""

/-- A number below 2^64 in canonical decimal digits. -/
structure Count where
  text : String
  canonical : Canonical text.toList
  bounded : Digit.number 10 text.toList < UInt64.size

/-! ## Repeated and optional parts -/

/-- The texts of the items, one after the other, each behind the separator. -/
def following {α : Type} (separator : String) (text : α → String) (items : List α) : String :=
  String.join (items.map fun item => separator ++ text item)

/-- The text of an optional part. -/
def optional {α : Type} (text : α → String) (item : Option α) : String := item.elim "" text

/-- One item or more. -/
structure Listed (α : Type) where
  first : α
  rest : List α

/-- The texts of the items with the separator between any two. -/
def Listed.text {α : Type} (separator : String) (text : α → String) (items : Listed α) : String :=
  text items.first ++ following separator text items.rest

/-! ## Productions -/

/-- A condition of a join or of a filter. -/
structure Fragment where
  connector : Option (Word ['~', '|'])
  left : Terminal ['~', '|']
  op : Terminal ['~', '|']
  right : Terminal ['~', '|']

def Fragment.text (fragment : Fragment) : String :=
  optional (fun connector => connector.text ++ "|") fragment.connector
    ++ fragment.left.text ++ "|" ++ fragment.op.text ++ "|" ++ fragment.right.text

structure JoinSegment where
  table : Terminal ['~', '|']
  fragments : List Fragment

def JoinSegment.text (join : JoinSegment) : String :=
  join.table.text ++ following "||" Fragment.text join.fragments

structure FieldToken where
  name : Terminal ['~', ',', ':']
  label : Option (Word ['~', ','])

def FieldToken.text (token : FieldToken) : String :=
  token.name.text ++ optional (fun label => ":" ++ label.text) token.label

structure OrderToken where
  field : Terminal ['~', ':']
  directed : Bool

def OrderToken.text (token : OrderToken) : String :=
  token.field.text ++ if token.directed then ":dir" else ""

structure LimitSegment where
  count : Count
  offset : Option { offset : Count // offset.text ≠ "0" }

def LimitSegment.text (limit : LimitSegment) : String :=
  limit.count.text ++ optional (fun offset => ":" ++ offset.val.text) limit.offset

/-- A derivation of a whole text. -/
structure Derivation where
  table : Terminal ['~']
  joins : List JoinSegment
  fields : Option (Listed FieldToken)
  filter : Option (Listed Fragment)
  order : List OrderToken
  limit : Option LimitSegment
  groups : Option (Listed (Terminal ['~', ',']))

/-- The text that is derived. -/
def Derivation.text (d : Derivation) : String :=
  "@" ++ d.table.text
    ++ following "~+" JoinSegment.text d.joins
    ++ optional (fun fields => "~[" ++ fields.text "," FieldToken.text) d.fields
    ++ optional (fun filter => "~?" ++ filter.text "||" Fragment.text) d.filter
    ++ following "~>" OrderToken.text d.order
    ++ optional (fun limit => "~-" ++ limit.text) d.limit
    ++ optional (fun groups => "~[" ++ groups.text "," Terminal.text) d.groups

/-- The rule on connectors: the first fragment of the filter has none, and every later one has
one. -/
def Derivation.Chained (d : Derivation) : Prop :=
  ∀ filter ∈ d.filter,
    filter.first.connector = none ∧ ∀ fragment ∈ filter.rest, fragment.connector ≠ none

/-! ## The query that a derivation stands for -/

def Fragment.condition (fragment : Fragment) : Condition :=
  ⟨fragment.left.text, fragment.op.text, fragment.right.text,
    fragment.connector.map fun connector => connector.text⟩

def JoinSegment.join (join : JoinSegment) : Join :=
  ⟨join.table.text, join.fragments.map Fragment.condition⟩

def FieldToken.field (token : FieldToken) : Field :=
  ⟨token.name.text, token.label.map fun label => label.text⟩

def OrderToken.key (token : OrderToken) : SortKey :=
  ⟨token.field.text, if token.directed then some directionMark else none⟩

def Count.value (count : Count) : UInt64 := UInt64.ofNat (Digit.number 10 count.text.toList)

def LimitSegment.limit (limit : LimitSegment) : Limit :=
  ⟨limit.count.value, limit.offset.map fun offset => offset.val.value⟩

/-- All items of a list that may be missing. -/
def itemsOf {α : Type} (items : Option (Listed α)) : List α :=
  items.elim [] fun items => items.first :: items.rest

namespace Derivation

/-- The query with the clauses that were derived. -/
def query (d : Derivation) : Query :=
  { table := d.table.text
    fields := (itemsOf d.fields).map FieldToken.field
    joins := d.joins.map JoinSegment.join
    conditions := (itemsOf d.filter).map Fragment.condition
    order := d.order.map OrderToken.key
    limit := d.limit.map LimitSegment.limit
    groups := (itemsOf d.groups).map Terminal.text }

end Derivation

/-! ## Tokens -/

theorem Word.map_text_ne_empty {banned : List Char} (word : Option (Word banned)) :
    (word.map fun w => w.text) ≠ some "" := by
  intro h
  obtain ⟨w, _, hw⟩ := Option.map_eq_some_iff.mp h
  exact w.ne_empty hw

theorem Word.given_map_text {banned : List Char} (word : Option (Word banned)) :
    given (word.map fun w => w.text) = word.map fun w => w.text :=
  given_of_ne_empty (Word.map_text_ne_empty word)

/-- A separated text is its first item and the others behind separators. -/
theorem intercalate_cons (separator first : String) (rest : List String) :
    separator.intercalate (first :: rest) = first ++ following separator id rest := by
  induction rest generalizing first with
  | nil => simp [following]
  | cons next rest ih =>
      rw [String.intercalate_cons_cons, ih]
      simp [following, String.append_assoc]

theorem following_map {α β : Type} (separator : String) (text : β → String) (f : α → β)
    (items : List α) :
    following separator text (items.map f) = following separator (fun item => text (f item)) items := by
  simp [following, Function.comp_def]

theorem Fragment.token_condition (fragment : Fragment) :
    fragment.condition.token = fragment.text := by
  rw [Condition.token, condition, Word.given_map_text, text]
  cases fragment.connector <;> simp [optional, partSeparator, String.append_assoc]

theorem JoinSegment.token_join (join : JoinSegment) : join.join.token = join.text := by
  rw [Join.token, intercalate_cons, JoinSegment.join, following_map, following_map, text]
  simp only [id, Fragment.token_condition]
  rfl

theorem FieldToken.token_field (token : FieldToken) : token.field.token = token.text := by
  rw [Field.token, field, Word.given_map_text, text]
  cases token.label <;> simp [optional, pairSeparator, String.append_assoc]

theorem OrderToken.token_key (token : OrderToken) : token.key.token = token.text := by
  have hmark : given (some directionMark) = some directionMark := by decide
  rw [SortKey.token, key, text]
  cases token.directed with
  | false => simp [given]
  | true =>
      simp only [if_true, hmark, String.append_assoc]
      rfl

theorem Count.decimal_value (count : Count) : decimal count.value = count.text := by
  have hbounded : Digit.number 10 count.text.toList < 2 ^ 64 := count.bounded
  rw [← String.toList_inj, decimal, Nat.toList_repr, value, UInt64.toNat_ofNat',
    Nat.mod_eq_of_lt hbounded, Digit.toDigits_number count.canonical]

theorem Count.value_ne_zero {count : Count} (h : count.text ≠ "0") : count.value ≠ 0 := by
  intro hzero
  apply h
  rw [← count.decimal_value, hzero]
  decide

theorem LimitSegment.token_limit (limit : LimitSegment) : limit.limit.token = limit.text := by
  -- an offset that is written is not zero, so none is left out
  have hoffset : (limit.offset.map fun offset => offset.val.value).filter (· ≠ 0)
      = limit.offset.map fun offset => offset.val.value := by
    cases h : limit.offset with
    | none => rfl
    | some offset => simp [Option.filter, Count.value_ne_zero offset.property]
  rw [Limit.token, LimitSegment.limit, hoffset, text]
  cases limit.offset <;> simp [optional, Count.decimal_value, pairSeparator, String.append_assoc]

end CompactQuery.Grammar
