import MapContext.Decimal.Shortest

/-!
# Decimal text of floating-point numbers

A layout says which numbers are written with a point and which with a power of ten. The digits
are always the shortest ones.
-/

namespace MapContext.Decimal

/-- Where positional writing begins and ends, and how a power of ten is signed. The point of a
number is the power of ten just above its first digit. -/
structure Layout where
  /-- Least point written positionally. -/
  leastPoint : Int
  /-- Greatest point written positionally. -/
  greatestPoint : Int
  /-- Whether a power of ten that is not negative carries a plus sign. -/
  signedPower : Bool
  /-- Which of two shortest decimals is taken that are equally near. -/
  tie : Tie

/-- Digits with a point among them, or padded with zeros up to it; at least one digit stands on
either side. -/
def positional (digits : List Char) (point : Int) : List Char :=
  if point ≤ 0 then ['0', '.'] ++ List.replicate (-point).toNat '0' ++ digits
  else
    let n := point.toNat
    if n < digits.length then digits.take n ++ '.' :: digits.drop n
    else digits ++ List.replicate (n - digits.length) '0' ++ ['.', '0']

/-- The decimal digits of an integer with its sign. -/
def signedDigits (plus : Bool) (n : Int) : List Char :=
  (if n < 0 then ['-'] else if plus then ['+'] else []) ++ Nat.toDigits 10 n.natAbs

/-- One digit before the point, and a power of ten. -/
def scientific (plus : Bool) (digits : List Char) (point : Int) : List Char :=
  (match digits with
    | [] => []
    | [d] => [d]
    | d :: rest => d :: '.' :: rest) ++ 'e' :: signedDigits plus (point - 1)

/-- The text of digits without a sign. -/
def Layout.digitsText (layout : Layout) (d : Digits) : List Char :=
  let digits := Nat.toDigits 10 d.significand
  let point := digits.length + d.exponent
  if layout.leastPoint ≤ point && point ≤ layout.greatestPoint then positional digits point
  else scientific layout.signedPower digits point

/-- The text of a finite number. Zero keeps its sign. -/
def Layout.text (layout : Layout) (x : Float) : String :=
  let magnitude := x.abs
  let sign := if x.toBits = magnitude.toBits then [] else ['-']
  let body :=
    if magnitude == 0 then ['0', '.', '0']
    else layout.digitsText ((Binary.ofBits magnitude.toBits).shortest layout.tie)
  String.ofList (sign ++ body)

end MapContext.Decimal
