/-!
# Blank characters and pieces of text

A character is blank when it has the Unicode property White_Space. Trimming and cutting into
words use this class; the class is a table of ranges.
-/

namespace MapContext.Text

/-- First and last code points of the ranges with the property White_Space. -/
def blankRanges : List (Nat × Nat) :=
  [(0x9, 0xD), (0x20, 0x20), (0x85, 0x85), (0xA0, 0xA0), (0x1680, 0x1680), (0x2000, 0x200A),
   (0x2028, 0x2029), (0x202F, 0x202F), (0x205F, 0x205F), (0x3000, 0x3000)]

/-- A character of one of the blank ranges. -/
def isBlank (c : Char) : Bool :=
  blankRanges.any fun range => range.1 ≤ c.toNat && c.toNat ≤ range.2

/-- The list without the leading and trailing members that satisfy `p`. -/
def trimBoth {α : Type _} (p : α → Bool) (cs : List α) : List α :=
  ((cs.dropWhile p).reverse.dropWhile p).reverse

/-- The text without blanks at both ends. -/
def trim (s : String) : String :=
  String.ofList (trimBoth isBlank s.toList)

/-- The text without blanks at its end. -/
def trimEnd (s : String) : String :=
  String.ofList (s.toList.reverse.dropWhile isBlank).reverse

/-- The piece before the first member that satisfies `p`, and the pieces after it. -/
def cut {α : Type _} (p : α → Bool) : List α → List α × List (List α)
  | [] => ([], [])
  | c :: cs =>
    let rest := cut p cs
    if p c then ([], rest.1 :: rest.2) else (c :: rest.1, rest.2)

/-- The pieces between the members that satisfy `p`; there is always at least one. -/
def pieces {α : Type _} (p : α → Bool) (cs : List α) : List (List α) :=
  (cut p cs).1 :: (cut p cs).2

/-- The pieces of a text between occurrences of `separator`. -/
def splitAtChar (separator : Char) (s : String) : List String :=
  (pieces (· == separator) s.toList).map String.ofList

/-- The non-empty pieces of a text between blanks. -/
def words (s : String) : List String :=
  ((pieces isBlank s.toList).filter (! ·.isEmpty)).map String.ofList

/-- Equality of texts up to the case of ASCII letters. -/
def sameIgnoringCase (a b : String) : Bool :=
  a.toList.map Char.toLower == b.toList.map Char.toLower

/-- The text with ASCII capitals in lower case. -/
def lowerAscii (s : String) : String :=
  s.map Char.toLower

/-- The number written by decimal digits, most significant first. -/
def digitsValue (cs : List Char) : Nat :=
  cs.foldl (fun n c => 10 * n + (c.toNat - '0'.toNat)) 0

/-- The digit value of a hexadecimal digit of either case. -/
def hexDigit? (c : Char) : Option Nat :=
  if c.isDigit then some (c.toNat - '0'.toNat)
  else if 'a' ≤ c && c ≤ 'f' then some (c.toNat - 'a'.toNat + 10)
  else if 'A' ≤ c && c ≤ 'F' then some (c.toNat - 'A'.toNat + 10)
  else none

/-- The number written by hexadecimal digits, if all of them are digits. -/
def hexValue? (cs : List Char) : Option Nat :=
  cs.foldlM (fun n c => (hexDigit? c).map (16 * n + ·)) 0

/-- A byte as two hexadecimal digits in capitals. -/
def hexByte (b : UInt8) : List Char :=
  [Nat.digitChar (b.toNat / 16), Nat.digitChar (b.toNat % 16)].map Char.toUpper

end MapContext.Text
