import MapContext.Text.Blank

/-!
# Numeric hosts

Addresses of the internet protocol, versions 4 and 6. A host whose last part is a number must be
an address of version 4, in which parts may be octal or hexadecimal and the last one may fill
several bytes.
-/

namespace MapContext.Url

/-- The machine that an address names. -/
inductive Host where
  /-- A name, possibly empty. -/
  | name (name : String)
  /-- An address of version 4. -/
  | ipv4 (address : Nat)
  /-- An address of version 6, as eight pieces of 16 bits. -/
  | ipv6 (pieces : List Nat)
  deriving DecidableEq

/-- The value of a part of a version 4 address: decimal, octal after `0`, hexadecimal after
`0x`. -/
def ipv4Part? (cs : List Char) : Option Nat :=
  match cs with
  | [] => none
  | '0' :: 'x' :: digits => Text.hexValue? digits
  | '0' :: 'X' :: digits => Text.hexValue? digits
  | ['0'] => some 0
  | '0' :: digits =>
    if digits.all fun c => '0' ≤ c && c ≤ '7' then
      some (digits.foldl (fun n c => 8 * n + (c.toNat - '0'.toNat)) 0)
    else none
  | digits => if digits.all Char.isDigit then some (Text.digitsValue digits) else none

/-- The parts between dots, without an empty last one. -/
def ipv4Parts (cs : List Char) : List (List Char) :=
  let parts := Text.pieces (· == '.') cs
  if 1 < parts.length && parts.getLast? == some [] then parts.dropLast else parts

/-- Whether the last part of a host is a number. -/
def endsInNumber (cs : List Char) : Bool :=
  match (ipv4Parts cs).getLast? with
  | none => false
  | some last => (!last.isEmpty && last.all Char.isDigit) || (ipv4Part? last).isSome

/-- The version 4 address written by a host that ends in a number. -/
def ipv4? (cs : List Char) : Option Nat :=
  let parts := ipv4Parts cs
  if 4 < parts.length then none
  else do
    let numbers ← parts.mapM ipv4Part?
    let last ← numbers.getLast?
    let bytes := numbers.dropLast
    if bytes.any (255 < ·) || Nat.pow 256 (4 - bytes.length) ≤ last then none
    else
      let leading := bytes.foldl (fun n b => 256 * n + b) 0
      return leading * Nat.pow 256 (4 - bytes.length) + last

/-- A version 4 address as four decimal bytes. -/
def ipv4Text (address : Nat) : List Char :=
  ".".toList.intercalate
    ([3, 2, 1, 0].map fun i => Nat.toDigits 10 (address / Nat.pow 256 i % 256))

/-- A version 4 address at the end of one of version 6: four decimal bytes without leading zeros,
as two pieces. -/
def embeddedIpv4? (cs : List Char) : Option (List Nat) := do
  let bytes ← (Text.pieces (· == '.') cs).mapM fun part =>
    if part.isEmpty || !part.all Char.isDigit || (1 < part.length && part.head? == some '0')
    then none
    else
      let n := Text.digitsValue part
      if n ≤ 255 then some n else none
  match bytes with
  | [a, b, c, d] => return [256 * a + b, 256 * c + d]
  | _ => none

/-- Pieces between colons; the last one may be a version 4 address. -/
def ipv6Pieces? : List (List Char) → Option (List Nat)
  | [] => some []
  | [part] =>
    if part.contains '.' then embeddedIpv4? part
    else if part.isEmpty || 4 < part.length then none
    else (Text.hexValue? part).map ([·])
  | part :: rest =>
    if part.isEmpty || 4 < part.length then none
    else do
      let n ← Text.hexValue? part
      let ns ← ipv6Pieces? rest
      return n :: ns

/-- The pieces before and after the first double colon, if there is one. -/
def cutDoubleColon (done : List Char) : List Char → Option (List Char × List Char)
  | ':' :: ':' :: rest => some (done.reverse, rest)
  | c :: rest => cutDoubleColon (c :: done) rest
  | [] => none

/-- Pieces of a side of a double colon, which may be empty. -/
def ipv6Side? (cs : List Char) : Option (List Nat) :=
  if cs.isEmpty then some [] else ipv6Pieces? (Text.pieces (· == ':') cs)

/-- The version 6 address written between brackets. A double colon stands for at least one zero
piece; a version 4 address stands only at the end. -/
def ipv6? (cs : List Char) : Option (List Nat) :=
  match cutDoubleColon [] cs with
  | none => do
    let pieces ← ipv6Side? cs
    if pieces.length = 8 then return pieces else none
  | some (left, right) =>
    if left.contains '.' then none
    else do
      let before ← ipv6Side? left
      let after ← ipv6Side? right
      let missing := 8 - (before.length + after.length)
      if missing = 0 then none else return before ++ List.replicate missing 0 ++ after

/-- The first longest run of zeros among pieces, as start and length. -/
def longestZeros (pieces : List Nat) : Nat × Nat :=
  let starts := List.range pieces.length
  let runs := starts.map fun i => (i, ((pieces.drop i).takeWhile (· == 0)).length)
  runs.foldl (fun best run => if best.2 < run.2 then run else best) (0, 0)

/-- A version 6 address in hexadecimal, with a double colon for its longest run of at least two
zeros. -/
def ipv6Text (pieces : List Nat) : List Char :=
  let join (ps : List Nat) : List Char := ":".toList.intercalate (ps.map (Nat.toDigits 16))
  let (start, length) := longestZeros pieces
  if length < 2 then join pieces
  else join (pieces.take start) ++ "::".toList ++ join (pieces.drop (start + length))

/-- A host as text. -/
def Host.text : Host → String
  | .name n => n
  | .ipv4 address => String.ofList (ipv4Text address)
  | .ipv6 pieces => String.ofList ('[' :: ipv6Text pieces ++ [']'])

end MapContext.Url
