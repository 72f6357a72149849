import MapContext.Text.Blank

/-!
# Tables of characters

Properties of characters are tables, which are written as text: code points are hexadecimal
numbers, and the entries of a table stand between blanks. A range is one code point, or its first
and last one with a hyphen between. An expansion is a range, a colon and the characters that
replace those of the range, with points between; the range may have only every second code point,
which is written `/2`. The first character of an expansion moves along with the range.
-/

namespace MapContext.Text

/-- A code point in hexadecimal; malformed text counts as zero. -/
def codeOf (cs : List Char) : Nat := (hexValue? cs).getD 0

/-- First and last code point of a range. -/
def rangeOf (cs : List Char) : Nat × Nat :=
  match pieces (· == '-') cs with
  | [first, last] => (codeOf first, codeOf last)
  | _ => (codeOf cs, codeOf cs)

/-- The ranges of a table. -/
def rangesOf (table : String) : List (Nat × Nat) :=
  (words table).map fun w => rangeOf w.toList

/-- Whether a character is in one of the ranges. -/
def inRanges (ranges : List (Nat × Nat)) (c : Char) : Bool :=
  ranges.any fun range => range.1 ≤ c.toNat && c.toNat ≤ range.2

/-- What the characters of a range are replaced by. -/
structure Expansion where
  /-- The first code point of the range. -/
  first : Nat
  /-- The last code point of the range. -/
  last : Nat
  /-- The distance of neighbouring members. -/
  step : Nat
  /-- What the first member is replaced by. -/
  target : List Nat
  deriving DecidableEq

/-- The expansion that is written as the given text. -/
def expansionOf (cs : List Char) : Expansion :=
  let source := cs.takeWhile (· != ':')
  let target := (pieces (· == '.') ((cs.dropWhile (· != ':')).drop 1)).map codeOf
  let range := rangeOf (source.takeWhile (· != '/'))
  ⟨range.1, range.2, if source.contains '/' then 2 else 1, target⟩

/-- The expansions of a table. -/
def expansionsOf (table : String) : List Expansion :=
  (words table).map fun w => expansionOf w.toList

/-- What a character of the range is replaced by. -/
def Expansion.expand? (e : Expansion) (c : Char) : Option (List Char) :=
  let n := c.toNat
  if e.first ≤ n && n ≤ e.last && (n - e.first) % e.step == 0 then
    match e.target with
    | [] => some []
    | code :: codes => some (((code + (n - e.first)) :: codes).map Char.ofNat)
  else none

/-- What a character is replaced by, if there is an expansion for it. -/
def expand? (table : List Expansion) (c : Char) : Option (List Char) :=
  table.findSome? (·.expand? c)

end MapContext.Text
