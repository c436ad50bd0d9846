import TypeBridge.Text.CharRange
import TypeBridge.Text.PrintTable

/-! # Quoted texts

A text between double quotes in which every character can be seen: the quote, the backslash and the
common controls have an escape of their own, and what cannot be printed alone is shown by its
number. -/

namespace TypeBridge.Text

/-- Whether a character shows as itself wherever it stands. -/
def isPlain (c : Char) : Bool :=
  !inRanges PrintTable.joiningMarks c && !inRanges PrintTable.defaultIgnorable c &&
    !inRanges PrintTable.unprintable c

def codePoint (c : Char) : List Char :=
  "\\u\x7b".toList ++ Nat.toDigits 16 c.toNat ++ ['}']

def quoteChar (c : Char) : List Char :=
  match c with
  | '\x00' => ['\\', '0']
  | '\t' => ['\\', 't']
  | '\n' => ['\\', 'n']
  | '\r' => ['\\', 'r']
  | '"' => ['\\', '"']
  | '\\' => ['\\', '\\']
  | c => if isPlain c then [c] else codePoint c

def quoted (s : String) : String :=
  String.ofList ('"' :: s.toList.flatMap quoteChar ++ ['"'])

end TypeBridge.Text
