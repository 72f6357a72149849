import MapContext.Text.Blank

/-!
# Reading decimal text

A decimal is rounded to the nearest floating-point number, whatever the length of its text. Beside
digits the words `inf`, `infinity` and `nan` are numbers, in any case.
-/

namespace MapContext.Decimal

/-- The floating-point number nearest to `significand · 10 ^ exponent`. -/
def nearest (significand : Nat) (exponent : Int) : Float :=
  if significand = 0 then 0
  else
    let point := exponent + (significand.log2 / 3 + 1)
    if 700 < exponent then 1 / 0
    else if point < -400 then 0
    else if 0 ≤ exponent then Float.ofScientific significand false exponent.toNat
    else Float.ofScientific significand true (-exponent).toNat

/-- The number after the letter `e`: an optional sign and at least one digit. -/
def power? (cs : List Char) : Option Int :=
  let negative := cs.head? == some '-'
  let digits := if negative || cs.head? == some '+' then cs.tail else cs
  if digits.isEmpty || !digits.all Char.isDigit then none
  else some (if negative then -Text.digitsValue digits else Text.digitsValue digits)

/-- A number without a sign: digits with an optional point, at least one digit in all, and an
optional power of ten. -/
def unsigned? (cs : List Char) : Option Float :=
  let whole := cs.takeWhile Char.isDigit
  let rest := cs.dropWhile Char.isDigit
  let hasPoint := rest.head? == some '.'
  let fraction := if hasPoint then rest.tail.takeWhile Char.isDigit else []
  let rest := if hasPoint then rest.tail.dropWhile Char.isDigit else rest
  if whole.isEmpty && fraction.isEmpty then none
  else
    let power : Option Int :=
      match rest with
      | [] => some 0
      | c :: more => if c == 'e' || c == 'E' then power? more else none
    power.map fun e => nearest (Text.digitsValue (whole ++ fraction)) (e - fraction.length)

/-- The number that a text denotes. -/
def read? (s : String) : Option Float :=
  let cs := s.toList
  let negative := cs.head? == some '-'
  let body := if negative || cs.head? == some '+' then cs.tail else cs
  let word := String.ofList (body.map Char.toLower)
  let magnitude : Option Float :=
    if word == "inf" || word == "infinity" then some (1 / 0)
    else if word == "nan" then some (0 / 0)
    else unsigned? body
  magnitude.map fun x => if negative then -x else x

end MapContext.Decimal
