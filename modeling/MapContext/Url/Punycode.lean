import MapContext.Text.Blank

/-!
# Punycode

Names with characters outside of ASCII are written in ASCII: the ASCII characters first, then the
places of the other ones as numbers of variable length whose digits are letters and digits.
-/

namespace MapContext.Url.Punycode

/-- The character of a digit to base 36. -/
def digitChar (d : Nat) : Char :=
  if d < 26 then Char.ofNat ('a'.toNat + d) else Char.ofNat ('0'.toNat + (d - 26))

/-- The value of a digit to base 36. -/
def digitValue? (c : Char) : Option Nat :=
  let c := c.toLower
  if 'a' ≤ c && c ≤ 'z' then some (c.toNat - 'a'.toNat)
  else if c.isDigit then some (c.toNat - '0'.toNat + 26)
  else none

/-- The least value of a digit that does not end a number. -/
def threshold (place bias : Nat) : Nat :=
  if place ≤ bias then 1 else if bias + 26 ≤ place then 26 else place - bias

/-- Divides until the distance is small, counting the divisions by 36. -/
def shrink (delta place : Nat) : Nat → Nat
  | 0 => place
  | n + 1 =>
    if 455 < delta then shrink (delta / 35) (place + 36) n
    else place + 36 * delta / (delta + 38)

/-- The bias after a distance, among the given number of characters. -/
def adapt (delta count : Nat) (first : Bool) : Nat :=
  let delta := if first then delta / 700 else delta / 2
  let delta := delta + delta / count
  shrink delta 0 delta

/-- A number as digits, least significant one first. -/
def numberDigits (bias place q : Nat) : Nat → List Char
  | 0 => []
  | n + 1 =>
    let t := threshold place bias
    if q < t then [digitChar q]
    else
      digitChar (t + (q - t) % (36 - t))
        :: numberDigits bias (place + 36) ((q - t) / (36 - t)) n

/-- The state of writing: text so far, distance, bias and characters written. -/
structure Writing where
  /-- The digits so far, last pieces at the end. -/
  out : List Char
  /-- The distance since the last written character. -/
  delta : Nat
  /-- The current bias. -/
  bias : Nat
  /-- How many characters were written. -/
  done : Nat

/-- Meets a character while those of code `m` are being written. -/
def Writing.meet (basic m : Nat) (w : Writing) (c : Char) : Writing :=
  if c.toNat < m then { w with delta := w.delta + 1 }
  else if c.toNat = m then
    { out := w.out ++ numberDigits w.bias 36 w.delta (w.delta + 1)
      delta := 0
      bias := adapt w.delta (w.done + 1) (w.done == basic)
      done := w.done + 1 }
  else w

/-- Writes the characters of the given codes, in ascending order. -/
def writeCodes (name : List Char) (basic : Nat) : List Nat → Nat → Writing → Writing
  | [], _, w => w
  | m :: rest, n, w =>
    let w := { w with delta := w.delta + (m - n) * (w.done + 1) }
    let w := name.foldl (Writing.meet basic m) w
    writeCodes name basic rest (m + 1) { w with delta := w.delta + 1 }

/-- A name in ASCII. -/
def encode (name : List Char) : List Char :=
  let basic := name.filter (·.toNat < 128)
  let codes := ((name.map Char.toNat).filter (128 ≤ ·)).mergeSort (fun a b => decide (a ≤ b))
  let w := writeCodes name basic.length codes.eraseDups 128 ⟨[], 0, 72, basic.length⟩
  basic ++ (if basic.isEmpty then [] else ['-']) ++ w.out

/-- The least number that is too great. -/
def numberLimit : Nat := 4294967296

/-- Reads a number; gives it with the text after it. -/
def readNumber (bias : Nat) : List Char → Nat → Nat → Nat → Option (Nat × List Char)
  | [], _, _, _ => none
  | c :: rest, place, weight, i => do
    let d ← digitValue? c
    let t := threshold place bias
    if numberLimit ≤ weight || numberLimit ≤ i + d * weight then none
    else if d < t then return (i + d * weight, rest)
    else readNumber bias rest (place + 36) (weight * (36 - t)) (i + d * weight)

/-- Reads the places of characters and inserts these; the fuel is the length of the text. -/
def readCodes (n i bias : Nat) (done : List Char) : Nat → List Char → Option (List Char)
  | _, [] => some done
  | 0, _ => none
  | fuel + 1, cs => do
    let (j, rest) ← readNumber bias cs 36 1 i
    let count := done.length + 1
    let bias := adapt (j - i) count (i == 0)
    let n := n + j / count
    let place := j % count
    if n.isValidChar then
      readCodes n (place + 1) bias (done.take place ++ Char.ofNat n :: done.drop place) fuel rest
    else none

/-- The name that a text in ASCII stands for. The last hyphen ends the ASCII characters of the name,
of which there is at least one. -/
def decode? (text : List Char) : Option (List Char) :=
  let tail := (text.reverse.takeWhile (· != '-')).reverse
  let basic := (text.take (text.length - tail.length)).dropLast
  if basic.isEmpty then readCodes 128 0 72 [] text.length text
  else readCodes 128 0 72 basic tail.length tail

end MapContext.Url.Punycode
