import CompactQuery.Pattern.Basic
import CompactQuery.Query.Event
import CompactQuery.Text.Digit
import CompactQuery.Text.Extent
import CompactQuery.Text.Pieces

/-!
# Log directives — which records one rule of a filter is about

A directive sets how talkative the log is, for everything or for the sources that start with a given
name. It can also be about a span, or about a value by its name. There are no spans here, so a
directive about one is accepted and never applies; nor does one that asks for more of a value than
its name.

A directive is scanned without the blanks around it. What it says is then looked up at the places
found, and these are places in the text with its blanks: blanks in front make it read something
else, and most often wrong.

* **`Directive`** — what a directive sets.
* **`Place`** — where the scan stands; **`Draft.step`** — one character of it.
* **`Directive.parse?`** — the directive of a text.
* **`Directive.appliesTo`**, **`Directive.outranks`** — which directive decides about a record.
-/

namespace CompactQuery.Command

/-- How talkative a log is: from nothing, which is zero, to everything, which is five. -/
abbrev Verbosity := Nat

/-- The least verbosity that shows records of a level. -/
def verbosityOf : Level → Verbosity
  | .error => 1
  | .warn => 2
  | .info => 3
  | .debug => 4
  | .trace => 5

/-- Which verbosity applies to which records. -/
structure Directive where
  /-- What the source of a record has to start with. -/
  source : Option (List Char) := none
  /-- A value that a record has to have, by its name. -/
  field : Option (List Char) := none
  verbosity : Verbosity
deriving Repr, DecidableEq

namespace Directive

/-! ## Reading -/

/-- A character in lower case, within ASCII. -/
def lower (c : Char) : Char :=
  if 'A' ≤ c ∧ c ≤ 'Z' then Char.ofNat (c.toNat + 32) else c

/-- The verbosity that a word or a number stands for. -/
def verbosity? (word : List Char) : Option Verbosity :=
  let digits :=
    match word with
    | '+' :: rest => rest
    | rest => rest
  if digits ≠ [] ∧ digits.all Char.isDigit then
    let n := Digit.number 10 digits
    if n ≤ 5 then some n else none
  else
    match String.ofList (word.map lower) with
    | "off" => some 0
    | "error" => some 1
    | "warn" => some 2
    | "info" => some 3
    | "debug" => some 4
    | "trace" => some 5
    | _ => none

/-- The verbosity behind an equals sign. None at all means everything. -/
def assigned? : List Char → Option Verbosity
  | [] => some 5
  | word => verbosity? word

/-- Whether a text is a number without a sign: digits, perhaps with a point among them, and perhaps
an exponent behind them. -/
def isNumeral (text : List Char) : Bool :=
  let (mantissa, exponent) := text.span fun c => c ≠ 'e' && c ≠ 'E'
  let (whole, fraction) := mantissa.span (· ≠ '.')
  let digits := whole ++ fraction.drop 1
  let power :=
    match exponent with
    | [] => ['0']
    | _ :: '+' :: power => power
    | _ :: '-' :: power => power
    | _ :: power => power
  digits ≠ [] && digits.all Char.isDigit && power ≠ [] && power.all Char.isDigit

/-- Whether a text is a number with a sign in front, or a word for one. -/
def isSigned : List Char → Bool
  | [] => false
  | sign :: text =>
    (sign = '+' || sign = '-')
      && (isNumeral text || String.ofList (text.map lower) ∈ ["inf", "infinity", "nan"])

/-- Whether a directive can ask for a value to be like this text: a number or a pattern. Without a
sign a number is a pattern too. -/
def isWanted (text : List Char) : Bool := isSigned text || Pattern.wellFormed text

/-- Where the scan of a directive stands. Places are where the part at hand starts. -/
inductive Place where
  /-- In front of everything. -/
  | start
  /-- In the first word: a verbosity, or the name of a source. -/
  | word
  /-- In the name of a span. -/
  | span (place : Nat)
  /-- In the name of a value, or in the value behind it. -/
  | field (place : Nat)
  /-- Behind a closing brace. -/
  | fields
  /-- Behind a closing bracket. -/
  | closed
  /-- In a verbosity. -/
  | level (place : Nat)
deriving Repr, DecidableEq

/-- A directive that is being scanned. -/
structure Draft where
  place : Place := .start
  source : Option (List Char) := none
  /-- Whether it is about something that there never is here. -/
  idle : Bool := false
  field : Option (List Char) := none
deriving Repr, DecidableEq

namespace Draft

/-- Whether a character may start a directive: a letter, a numeral, or one of the marks in names. -/
def starts (c : Char) : Bool :=
  c = '-' || c = ':' || c = '_' || CharKind.isAlphanumeric c

/-- The name of a value, perhaps with what it is to be like behind an equals sign. What is behind
another equals sign does not count. -/
def withField (draft : Draft) (text : List Char) : Option Draft :=
  if text = [] then none
  else
    match pieces '=' text with
    | name :: wanted :: _ =>
      if isWanted wanted then some { draft with field := some name, idle := true } else none
    | _ => some { draft with field := some text }

/-- One character, at a place. The text is the one that parts are read from. -/
def step (text : List Char) (here : Nat) (c : Char) (draft : Draft) : Option Draft :=
  match draft.place with
  | .start =>
    if c = '[' then some { draft with place := .span (here + 1) }
    else if starts c then some { draft with place := .word }
    else none
  | .word =>
    if c = '=' then do
      some { draft with place := .level (here + 1), source := some (← Extent.between? 0 here text) }
    else if c = '[' then do
      some { draft with place := .span (here + 1), source := some (← Extent.between? 0 here text) }
    else some draft
  | .span place =>
    if c = ']' then do
      let _ ← Extent.between? place here text
      some { draft with place := .closed, idle := true }
    else if c = '\x7b' then do
      let name ← Extent.between? place here text
      some { draft with place := .field (here + 1), idle := name ≠ [] }
    else some draft
  | .field place =>
    if c = '\x7d' then do
      withField { draft with place := .fields } (← Extent.between? place here text)
    else some draft
  | .fields => if c = ']' then some { draft with place := .closed } else none
  | .closed => if c = '=' then some { draft with place := .level (here + 1) } else none
  | .level _ => some draft

/-- The characters of a directive from a place on. -/
def scan (text : List Char) : Nat → List Char → Draft → Option Draft
  | _, [], draft => some draft
  | here, c :: rest, draft => do scan text (here + c.utf8Size) rest (← draft.step text here c)

/-- The directive of a draft with a verbosity, or nothing if it never applies. -/
def settle (draft : Draft) (verbosity : Verbosity) : Option Directive :=
  if draft.idle then none else some { source := draft.source, field := draft.field, verbosity }

/-- The end of a directive. A word alone is a verbosity for everything if it is one, else the name
of a source that is shown in full. -/
def finish (text : List Char) (draft : Draft) : Option (Option Directive) :=
  match draft.place with
  | .word =>
    match verbosity? text with
    | some verbosity => some (draft.settle verbosity)
    | none => some (settle { draft with source := some text } 5)
  | .level place => do
    let verbosity ← assigned? (← Extent.drop? place text)
    some (draft.settle verbosity)
  | .closed => some (draft.settle 5)
  | _ => none

end Draft

/-- A text without the blanks around it. -/
def trimmed (text : List Char) : List Char :=
  ((text.dropWhile CharKind.isSpace).reverse.dropWhile CharKind.isSpace).reverse

/-- The directive of a text: `none` if it is wrong, and within that nothing if it never applies. -/
def parse? (text : List Char) : Option (Option Directive) := do
  (← Draft.scan text 0 (trimmed text) {}).finish text

/-! ## Applying -/

/-- Whether the directive applies to a record. -/
def appliesTo (directive : Directive) (record : LogRecord) : Bool :=
  directive.source.all (fun source => source.isPrefixOf record.source.toList)
    && directive.field.all fun field =>
      field = "message".toList || record.values.any fun value => value.1.toList = field

/-- Whether a directive is at least as specific as another one that applies to the same record. A
longer name counts for more, then the name of a value. -/
def outranks (a b : Directive) : Bool :=
  let size (d : Directive) : Nat := d.source.elim 0 fun source => source.length + 1
  let field (d : Directive) : List Char := d.field.elim [] fun field => '[' :: field
  size b < size a || (size a = size b && !(field a < field b : Bool))

end Directive

end CompactQuery.Command
