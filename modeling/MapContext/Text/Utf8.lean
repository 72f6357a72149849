/-!
# Text as bytes

Reading bytes in UTF-8 of which some may be wrong: each longest piece that could have begun a
character, but does not go on as one, is read as U+FFFD.
-/

namespace MapContext.Text

/-- An unfinished character: how many bytes it still needs, the bounds of the next of them, and
the bits read so far. -/
structure PartialChar where
  /-- Bytes still needed, at least one. -/
  owed : Nat
  /-- Least next byte. -/
  low : Nat
  /-- Greatest next byte. -/
  high : Nat
  /-- The bits read so far. -/
  bits : Nat

/-- Stands for bytes that are no character. -/
def replacement : Char := '\uFFFD'

/-- What a byte at the start of a character gives: a character, or an unfinished one. -/
def leadByte (b : Nat) : List Char × Option PartialChar :=
  if b < 0x80 then ([Char.ofNat b], none)
  else if 0xC2 ≤ b && b ≤ 0xDF then ([], some ⟨1, 0x80, 0xBF, b - 0xC0⟩)
  else if b = 0xE0 then ([], some ⟨2, 0xA0, 0xBF, 0⟩)
  else if b = 0xED then ([], some ⟨2, 0x80, 0x9F, 0xD⟩)
  else if 0xE1 ≤ b && b ≤ 0xEF then ([], some ⟨2, 0x80, 0xBF, b - 0xE0⟩)
  else if b = 0xF0 then ([], some ⟨3, 0x90, 0xBF, 0⟩)
  else if b = 0xF4 then ([], some ⟨3, 0x80, 0x8F, 4⟩)
  else if 0xF1 ≤ b && b ≤ 0xF3 then ([], some ⟨3, 0x80, 0xBF, b - 0xF0⟩)
  else ([replacement], none)

/-- Reads bytes, possibly in the middle of a character. -/
def decodeBytes : Option PartialChar → List Nat → List Char
  | none, [] => []
  | some _, [] => [replacement]
  | none, b :: bs =>
    let start := leadByte b
    start.1 ++ decodeBytes start.2 bs
  | some p, b :: bs =>
    if p.low ≤ b && b ≤ p.high then
      let bits := 64 * p.bits + (b - 0x80)
      if p.owed ≤ 1 then Char.ofNat bits :: decodeBytes none bs
      else decodeBytes (some ⟨p.owed - 1, 0x80, 0xBF, bits⟩) bs
    else
      let start := leadByte b
      replacement :: (start.1 ++ decodeBytes start.2 bs)

/-- The text of bytes in UTF-8, with U+FFFD for wrong pieces. -/
def ofUtf8 (bytes : List UInt8) : String :=
  String.ofList (decodeBytes none (bytes.map UInt8.toNat))

end MapContext.Text
