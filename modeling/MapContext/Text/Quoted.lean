import MapContext.Text.HiddenTable

/-!
# Quoted text

A text between double quotes in which quotes, backslashes and characters without a shape of their
own are written as escapes.
-/

namespace MapContext.Text

/-- A character of one of the ranges of hidden characters. -/
def isHidden (c : Char) : Bool := inRanges hiddenRanges c

/-- A character inside quotes; a hidden one is given by its code in hexadecimal. -/
def quotedChar (c : Char) : List Char :=
  match c with
  | '"' => ['\\', '"']
  | '\\' => ['\\', '\\']
  | '\n' => ['\\', 'n']
  | '\r' => ['\\', 'r']
  | '\t' => ['\\', 't']
  | '\x00' => ['\\', '0']
  | c =>
    if isHidden c then ['\\', 'u', '\x7b'] ++ Nat.toDigits 16 c.toNat ++ ['\x7d'] else [c]

/-- The text between double quotes, with escapes. -/
def quoted (s : String) : String :=
  String.ofList ('"' :: s.toList.flatMap quotedChar ++ ['"'])

end MapContext.Text
