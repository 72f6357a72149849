import MapContext.Json.Tree
import MapContext.Text.Blank

/-!
# JSON numbers in text

An integer that fits into 64 bits stays an integer; every other number, and `-0`, becomes a
floating-point number. Its digits are collected into a significand of at most 64 bits, digits that
no longer fit are dropped, and the significand is then multiplied or divided by a power of ten in
floating-point arithmetic.
-/

namespace MapContext.Json

/-- The first number that does not fit into 64 bits. -/
def wordLimit : Nat := 18446744073709551616

/-- A significand of at most 64 bits and a power of ten. -/
structure Scaled where
  /-- The digits that were kept. -/
  significand : Nat
  /-- The power of ten. -/
  exponent : Int
  /-- Whether a digit was dropped. -/
  full : Bool

/-- The number with one more digit, unless it no longer fits. -/
def Scaled.push (s : Scaled) (place : Int) (kept dropped : Int) : Scaled :=
  let next := 10 * s.significand + place.toNat
  if s.full || wordLimit ≤ next then { s with exponent := s.exponent + dropped, full := true }
  else { s with significand := next, exponent := s.exponent + kept }

/-- The digits before the point; a dropped one raises the power of ten. -/
def Scaled.ofWhole (digits : List Char) : Scaled :=
  digits.foldl (fun s c => s.push (c.toNat - '0'.toNat) 0 1) ⟨0, 0, false⟩

/-- Adds the digits after the point; a kept one lowers the power of ten. -/
def Scaled.addFraction (s : Scaled) (digits : List Char) : Scaled :=
  digits.foldl (fun s c => s.push (c.toNat - '0'.toNat) (-1) 0) { s with full := false }

/-- A power of ten, correctly rounded. -/
def powerOfTen (n : Nat) : Float :=
  Float.ofScientific 1 false n

/-- Multiplies or divides by a power of ten. A power beyond the greatest one is divided out in
steps, and a result beyond the greatest number is out of range. -/
def scale (x : Float) (e : Int) : Nat → Option Float
  | 0 => some x
  | n + 1 =>
    if e.natAbs ≤ 308 then
      if 0 ≤ e then
        let y := x * powerOfTen e.toNat
        if y.isInf then none else some y
      else some (x / powerOfTen e.natAbs)
    else if x == 0 then some x
    else if 0 ≤ e then none
    else scale (x / powerOfTen 308) (e + 308) n

/-- The floating-point number; a significand is zero after four steps of division. -/
def Scaled.float? (s : Scaled) : Option Float :=
  scale (Float.ofNat s.significand) s.exponent 4

/-- A number in range, or one that can only be passed over. -/
def floatTree (negative : Bool) (x? : Option Float) : Tree :=
  match x?.map fun x => if negative then -x else x with
  | some x =>
    if h : x.isFinite = true then .number (.float ⟨x, h⟩) else .blocked .malformed .null
  | none => .blocked .malformed .null

/-- An integer from its digits, or the floating-point number if it is too large. -/
def integerTree (negative : Bool) (digits : List Char) : Tree :=
  let n := Text.digitsValue digits
  if negative then
    if 0 < n && n ≤ wordLimit / 2 then .number (.integer (-n))
    else floatTree true (Scaled.ofWhole digits).float?
  else if n < wordLimit then .number (.integer n)
  else floatTree false (Scaled.ofWhole digits).float?

/-- A number cut off at the end of the text. Who passes over it sees malformed text. -/
def cutNumber : Tree := .blocked .endOfInput (.broken .malformed)

/-- A tree with the text after it, or without if reading stops there. -/
abbrev Step := Tree × Option (List Char)

/-- Stops where a digit is missing. -/
def noDigit (rest : List Char) : Step :=
  (if rest.isEmpty then cutNumber else .broken .malformed, none)

/-- Reads an optional power of ten and finishes a number that is no integer. -/
def readPower (negative : Bool) (s : Scaled) : List Char → Step
  | [] => (floatTree negative s.float?, some [])
  | c :: cs =>
    if c == 'e' || c == 'E' then
      let minus := cs.head? == some '-'
      let body := if minus || cs.head? == some '+' then cs.tail else cs
      let digits := body.takeWhile Char.isDigit
      let rest := body.dropWhile Char.isDigit
      if digits.isEmpty then noDigit rest
      else
        let power : Int := Text.digitsValue digits
        let s := { s with exponent := if minus then s.exponent - power else s.exponent + power }
        (floatTree negative s.float?, some rest)
    else (floatTree negative s.float?, some (c :: cs))

/-- Reads a number after its sign. -/
def readNumber (negative : Bool) (cs : List Char) : Step :=
  let whole := cs.takeWhile Char.isDigit
  let rest := cs.dropWhile Char.isDigit
  if whole.isEmpty then noDigit rest
  else if whole.head? == some '0' && 1 < whole.length then (.broken .malformed, none)
  else match rest with
    | '.' :: more =>
      let fraction := more.takeWhile Char.isDigit
      let rest := more.dropWhile Char.isDigit
      if fraction.isEmpty then noDigit rest
      else readPower negative ((Scaled.ofWhole whole).addFraction fraction) rest
    | 'e' :: _ => readPower negative (Scaled.ofWhole whole) rest
    | 'E' :: _ => readPower negative (Scaled.ofWhole whole) rest
    | _ => (integerTree negative whole, some rest)

end MapContext.Json
