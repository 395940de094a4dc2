import CompactQuery.Text.Digit

/-!
# Texts and keys in TOML

Four kinds of text: between quotation marks with escapes, between apostrophes without, and both of
them in a form over several lines between three marks on either side. Line ends inside a text are
read as a single line feed, and one right behind the opening marks is dropped.

Every function here takes what follows its opening marks, and answers with what it read and what
follows that, or with `none` if the text is not well formed.

* **`basicBody`**, **`literalBody`**, **`basicLines`**, **`literalLines`** — the four kinds.
* **`text`** — any of them, from its opening marks on; **`key`** — a dotted key.
-/

namespace CompactQuery.Toml

/-- A blank that does not end a line. -/
def isBlank (c : Char) : Bool := c = ' ' || c = '\t'

/-- A character that may stand in a comment or a text for itself. -/
def isPlain (c : Char) : Bool :=
  c = '\t' || (0x20 ≤ c.toNat && c.toNat ≤ 0x7E) || 0x80 ≤ c.toNat

/-- What follows the blanks at the start. -/
def skipBlanks (text : List Char) : List Char := text.dropWhile isBlank

/-- What follows a line end, if the text starts with one. -/
def lineEnd? : List Char → Option (List Char)
  | '\n' :: rest => some rest
  | '\r' :: '\n' :: rest => some rest
  | _ => none

/-- What follows a line end, whether or not there is one. -/
def skipLineEnd (text : List Char) : List Char := (lineEnd? text).getD text

/-! ## Escapes -/

/-- The character whose number the hexadecimal digits are. Surrogates have none. -/
def codePoint? (digits : List Char) : Option Char := do
  let values ← digits.mapM Digit.value?
  let n := values.foldl (fun n v => 16 * n + v) 0
  if n < 0xD800 ∨ (0xDFFF < n ∧ n < 0x110000) then some (Char.ofNat n) else none

/-- The character that a one-letter escape stands for. -/
def escaped? : Char → Option Char
  | 'b' => some '\x08'
  | 't' => some '\t'
  | 'n' => some '\n'
  | 'f' => some '\x0c'
  | 'r' => some '\r'
  | '"' => some '"'
  | '\\' => some '\\'
  | _ => none

/-- A character, if there is one, in front of what has been read. -/
def before (c : Option Char) (read : Option (List Char × List Char)) :
    Option (List Char × List Char) := do
  let c ← c
  let (chars, rest) ← read
  some (c :: chars, rest)

/-! ## The four kinds of text -/

/-- A text of one line with escapes. -/
def basicBody : List Char → Option (List Char × List Char)
  | '"' :: rest => some ([], rest)
  | '\\' :: 'u' :: a :: b :: c :: d :: rest =>
    before (codePoint? [a, b, c, d]) (basicBody rest)
  | '\\' :: 'U' :: a :: b :: c :: d :: e :: f :: g :: h :: rest =>
    before (codePoint? [a, b, c, d, e, f, g, h]) (basicBody rest)
  | '\\' :: e :: rest => before (escaped? e) (basicBody rest)
  | c :: rest => if isPlain c && c != '\\' then before c (basicBody rest) else none
  | [] => none

/-- A text of one line without escapes. -/
def literalBody : List Char → Option (List Char × List Char)
  | '\'' :: rest => some ([], rest)
  | c :: rest => if isPlain c then before c (literalBody rest) else none
  | [] => none

/-- Whether nothing but blanks comes before the end of the line. -/
def isLineOver (text : List Char) : Bool := (lineEnd? (skipBlanks text)).isSome

/-- A text of several lines with escapes. A backslash at the end of a line drops that end with all
blanks and line ends behind it; `dropping` says that this is under way. -/
def basicLines (dropping : Bool) : List Char → Option (List Char × List Char)
  | '"' :: '"' :: '"' :: '"' :: '"' :: rest => some (['"', '"'], rest)
  | '"' :: '"' :: '"' :: '"' :: rest => some (['"'], rest)
  | '"' :: '"' :: '"' :: rest => some ([], rest)
  | '"' :: rest => before '"' (basicLines false rest)
  | '\\' :: 'u' :: a :: b :: c :: d :: rest =>
    before (codePoint? [a, b, c, d]) (basicLines false rest)
  | '\\' :: 'U' :: a :: b :: c :: d :: e :: f :: g :: h :: rest =>
    before (codePoint? [a, b, c, d, e, f, g, h]) (basicLines false rest)
  | '\\' :: e :: rest =>
    if isLineOver (e :: rest) then basicLines true (e :: rest)
    else before (escaped? e) (basicLines false rest)
  | '\r' :: '\n' :: rest =>
    if dropping then basicLines true rest else before '\n' (basicLines false rest)
  | '\n' :: rest => if dropping then basicLines true rest else before '\n' (basicLines false rest)
  | c :: rest =>
    if dropping && isBlank c then basicLines true rest
    else if isPlain c && c != '\\' then before c (basicLines false rest)
    else none
  | [] => none

/-- A text of several lines without escapes. -/
def literalLines : List Char → Option (List Char × List Char)
  | '\'' :: '\'' :: '\'' :: '\'' :: '\'' :: rest => some (['\'', '\''], rest)
  | '\'' :: '\'' :: '\'' :: '\'' :: rest => some (['\''], rest)
  | '\'' :: '\'' :: '\'' :: rest => some ([], rest)
  | '\r' :: '\n' :: rest => before '\n' (literalLines rest)
  | '\n' :: rest => before '\n' (literalLines rest)
  | c :: rest => if isPlain c then before c (literalLines rest) else none
  | [] => none

/-- Characters as a text. -/
def ofChars : Option (List Char × List Char) → Option (String × List Char)
  | some (chars, rest) => some (String.ofList chars, rest)
  | none => none

/-- A text of any kind, from its opening marks on. -/
def text : List Char → Option (String × List Char)
  | '"' :: '"' :: '"' :: rest => ofChars (basicLines false (skipLineEnd rest))
  | '"' :: rest => ofChars (basicBody rest)
  | '\'' :: '\'' :: '\'' :: rest => ofChars (literalLines (skipLineEnd rest))
  | '\'' :: rest => ofChars (literalBody rest)
  | _ => none

/-! ## Keys -/

/-- A character of a key without marks. -/
def isKeyChar (c : Char) : Bool := c.isAlphanum || c = '-' || c = '_'

/-- One part of a key: a text of one line, or one or more plain key characters. -/
def keyPart : List Char → Option (String × List Char)
  | '"' :: rest => ofChars (basicBody rest)
  | '\'' :: rest => ofChars (literalBody rest)
  | text =>
    match text.takeWhile isKeyChar with
    | [] => none
    | chars => some (String.ofList chars, text.dropWhile isKeyChar)

/-- The parts of a dotted key, with blanks around each. A key that does not get on is none. -/
def keyParts (text : List Char) : Option (List String × List Char) :=
  match keyPart (skipBlanks text) with
  | none => none
  | some (part, rest) =>
    match skipBlanks rest with
    | '.' :: more =>
      if _h : more.length < text.length then
        match keyParts more with
        | none => none
        | some (parts, rest) => some (part :: parts, rest)
      else none
    | rest => some ([part], rest)
termination_by text.length

/-- A dotted key as the parts before the last, and the last. It has fewer than eighty parts. -/
def key (text : List Char) : Option ((List String × String) × List Char) :=
  match keyParts text with
  | none => none
  | some (parts, rest) =>
    match parts.reverse with
    | [] => none
    | last :: before => if parts.length < 80 then some ((before.reverse, last), rest) else none

end CompactQuery.Toml
