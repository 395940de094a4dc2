/-!
# Styles — text for a terminal, with or without colours

A printed text is a list of spans. In colour a span that has a style stands between the sequence
that starts the style and the one that ends it; a text that itself ends all styles is put back into
its own right after. Without colour a span is its text.

* **`Style`** — the looks in use; **`Style.start`** — the sequence that starts one.
* **`Span`** — a text with a style or none; **`Span.shown`**, **`shownAll`** — what is printed.
* **`column`** — a text filled up to a width.
-/

namespace CompactQuery.Command

/-- How a text looks. -/
inductive Style where
  | boldCyan | boldGreen | boldRed | boldWhite | white | yellow | dimmed
deriving Repr, DecidableEq

/-- The codes of a style. -/
def Style.codes : Style → String
  | .boldCyan => "1;36"
  | .boldGreen => "1;32"
  | .boldRed => "1;31"
  | .boldWhite => "1;37"
  | .white => "37"
  | .yellow => "33"
  | .dimmed => "2"

/-- The sequence that starts a style. -/
def Style.start (style : Style) : String := "\x1b[" ++ style.codes ++ "m"

/-- The sequence that ends all styles. -/
def styleEnd : String := "\x1b[0m"

/-- A text whose every end of styles is followed by the start of this one. -/
def Style.restored (style : Style) : List Char → List Char
  | '\x1b' :: '[' :: '0' :: 'm' :: rest =>
    styleEnd.toList ++ style.start.toList ++ style.restored rest
  | c :: rest => c :: style.restored rest
  | [] => []

/-- A text with a style or none. -/
structure Span where
  text : String
  style : Option Style := none
deriving Repr, DecidableEq

namespace Span

/-- A text without a style. -/
def plain (text : String) : Span := { text }

/-- A text in a style. -/
def styled (style : Style) (text : String) : Span := { text, style := some style }

/-- What is printed of a span. -/
def shown (colours : Bool) (span : Span) : String :=
  match colours, span.style with
  | true, some style =>
    style.start ++ String.ofList (style.restored span.text.toList) ++ styleEnd
  | _, _ => span.text

end Span

/-- What is printed of spans, one behind the other. -/
def shownAll (colours : Bool) (spans : List Span) : String :=
  String.join (spans.map (Span.shown colours))

/-- A text filled up with blanks to so many characters. -/
def column (width : Nat) (text : String) : String :=
  text ++ String.ofList (List.replicate (width - text.length) ' ')

end CompactQuery.Command
