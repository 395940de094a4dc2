import CompactQuery.Text.Unseen

/-!
# Quoted text — how a message shows a text it complains about

A quoted text stands between two quotation marks. The quotation mark and the backslash get a
backslash before them, four control characters have a letter, and every other character that shows
nothing, or attaches itself to its neighbour, is written by its number: the backslash, `u`, and the
code point in lower-case hexadecimal digits between braces. All else stands for itself.
-/

namespace CompactQuery.Quoted

/-- A character as it stands between the quotation marks. -/
def encodeChar (c : Char) : List Char :=
  match c with
  | '\x00' => ['\\', '0']
  | '\t' => ['\\', 't']
  | '\n' => ['\\', 'n']
  | '\r' => ['\\', 'r']
  | '"' => ['\\', '"']
  | '\\' => ['\\', '\\']
  | c =>
    if Unseen.byNumber c then ['\\', 'u', '\x7b'] ++ Nat.toDigits 16 c.toNat ++ ['\x7d'] else [c]

/-- A text between quotation marks. -/
def quote (text : String) : String :=
  String.ofList ('"' :: text.toList.flatMap encodeChar ++ ['"'])

end CompactQuery.Quoted
