import CompactQuery.Text.Quoted
import CompactQuery.Tree.Basic

/-!
# Faults — why a text does not hold the value that is wanted

* **`Expected`** — what a reader wants at a place; **`Mismatch`** — how a well-formed text can
  disagree with it; **`Mismatch.message`** — the words for it.
* **`Fault`** — a mismatch, or a defect of the text itself.
-/

namespace CompactQuery

/-- What a reader wants at a place. -/
inductive Expected where
  | text
  | flag
  | count
  | sequence
  /-- Nothing, which only the null value is. -/
  | unit
  | record (name : String)
deriving Repr, DecidableEq

/-- What is wanted, in words. -/
def Expected.message : Expected → String
  | .text => "a string"
  | .flag => "a boolean"
  | .count => "u64"
  | .sequence => "a sequence"
  | .unit => "unit"
  | .record name => "struct " ++ name

/-- An integer in decimal digits. -/
def integerText (i : Int) : String :=
  if i < 0 then "-" ++ Nat.repr i.natAbs else Nat.repr i.natAbs

/-- What was found, in words. -/
def Found.message : Found → String
  | .null => "null"
  | .flag b => if b then "boolean `true`" else "boolean `false`"
  | .number (.natural n) => "integer `" ++ Nat.repr n.toNat ++ "`"
  | .number (.negative i) => "integer `" ++ integerText i ++ "`"
  | .number (.float shown) => "floating point `" ++ shown ++ "`"
  | .text s => "string " ++ Quoted.quote s
  | .sequence => "sequence"
  | .map => "map"

/-- How a value differs from what is wanted. -/
inductive Mismatch where
  | wrongType (found : Found) (expected : Expected)
  /-- A number below zero where a count is wanted. -/
  | negativeCount (i : Int)
  | unknownForm (word : String)
  | missingKey (key : String)
  | duplicateKey (key : String)
  /-- A sequence that ends before a slot that may not be left out. -/
  | tooShort (length : Nat) (record : String) (slots : Nat)
  /-- A form that is neither a text nor a map. -/
  | noAlternative
  | noMember
  | manyMembers
  /-- A member that ought to be an empty table and is something else. -/
  | noTable (found : String)
  | notEmpty
  /-- The same under a header in double brackets. -/
  | notEmptyList
deriving Repr, DecidableEq

/-- The difference in words. -/
def Mismatch.message : Mismatch → String
  | .wrongType found expected =>
    "invalid type: " ++ found.message ++ ", expected " ++ expected.message
  | .negativeCount i => "invalid value: integer `" ++ integerText i ++ "`, expected u64"
  | .unknownForm word =>
    "unknown variant `" ++ word ++ "`, expected `plain` or `json`"
  | .missingKey key => "missing field `" ++ key ++ "`"
  | .duplicateKey key => "duplicate field `" ++ key ++ "`"
  | .tooShort length record slots =>
    "invalid length " ++ Nat.repr length ++ ", expected struct " ++ record ++ " with "
      ++ Nat.repr slots ++ (if slots = 1 then " element" else " elements")
  | .noAlternative => "wanted string or table"
  | .noMember => "wanted exactly 1 element, found 0 elements"
  | .manyMembers => "wanted exactly 1 element, more than 1 element"
  | .noTable found => "expected table, found " ++ found
  | .notEmpty => "expected empty table"
  | .notEmptyList => "expected empty array"

/-- Why a text cannot be read as the value that is wanted. -/
inductive Fault where
  | defect (defect : Defect)
  | mismatch (mismatch : Mismatch)
deriving Repr, DecidableEq

/-- The fault in words. -/
def Fault.message : Fault → String
  | .defect .malformed => "malformed text"
  | .defect .unfinished => "unexpected end of text"
  | .mismatch m => m.message

end CompactQuery
