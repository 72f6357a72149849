/-!
# Shortest decimal digits

Every finite floating-point number is an integer times a power of two, and the reals that round to
it form an interval. The decimal chosen for it has the fewest digits of all decimals in that
interval; of two candidates with equally many digits the nearer one is taken. All comparisons are
made on natural numbers.
-/

namespace MapContext.Decimal

/-- Which of two equally near candidates is taken. -/
inductive Tie where
  /-- The one with an even last digit. -/
  | toEven
  /-- The greater one. -/
  | up
  deriving DecidableEq

/-- The number `significand · 10 ^ exponent`. -/
structure Digits where
  /-- The digits as a natural number. -/
  significand : Nat
  /-- The power of ten of the last digit. -/
  exponent : Int
  deriving Repr, DecidableEq

/-- The number `significand · 2 ^ exponent` with the reals that round to it. The interval reaches
from `lowGap / 4` below to `1 / 2` above, in units of the last binary place. -/
structure Binary where
  /-- The binary digits as a natural number. -/
  significand : Nat
  /-- The power of two of the last binary digit. -/
  exponent : Int
  /-- Two, or one where the spacing below is half of the spacing above. -/
  lowGap : Nat
  deriving Repr, DecidableEq

/-- Decodes the bits of a finite number without its sign. -/
def Binary.ofBits (bits : UInt64) : Binary :=
  let fraction := bits.toNat % Nat.pow 2 52
  let scale : Nat := bits.toNat / Nat.pow 2 52 % Nat.pow 2 11
  if scale = 0 then ⟨fraction, -1074, 2⟩
  else ⟨Nat.pow 2 52 + fraction, (scale : Int) - 1075, if fraction = 0 && 1 < scale then 1 else 2⟩

/-- `n · 2 ^ e / 4`, scaled by the powers that make both sides of a comparison natural. -/
def scaledQuarters (b : Binary) (grid : Int) (n : Nat) : Nat :=
  n * Nat.pow 2 b.exponent.toNat * Nat.pow 10 (-grid).toNat

/-- `n · 10 ^ grid`, scaled in the same way. -/
def scaledGrid (b : Binary) (grid : Int) (n : Nat) : Nat :=
  4 * n * Nat.pow 10 grid.toNat * Nat.pow 2 (-b.exponent).toNat

/-- Whether `n · 10 ^ grid` rounds to the number. The ends of the interval round to an even
significand. -/
def Binary.roundsFrom (b : Binary) (grid : Int) (n : Nat) : Bool :=
  let low := scaledQuarters b grid (4 * b.significand - b.lowGap)
  let high := scaledQuarters b grid (4 * b.significand + 2)
  let value := scaledGrid b grid n
  if b.significand % 2 = 0 then low ≤ value && value ≤ high else low < value && value < high

/-- The better of the two neighbours of the number on the grid of multiples of `10 ^ grid`. -/
def Binary.onGrid? (b : Binary) (tie : Tie) (grid : Int) : Option Nat :=
  let value := scaledQuarters b grid (4 * b.significand)
  let below := value / scaledGrid b grid 1
  let above := below + 1
  match b.roundsFrom grid below, b.roundsFrom grid above with
  | true, true =>
    let left := value - scaledGrid b grid below
    let right := scaledGrid b grid above - value
    if left < right || (left = right && tie = .toEven && below % 2 = 0) then some below
    else some above
  | true, false => some below
  | false, true => some above
  | false, false => none

/-- The power of ten of the first digit of a number other than zero. -/
def Binary.magnitude (b : Binary) : Int :=
  let estimate := (b.significand.log2 + b.exponent) * 315653 / 1048576
  if scaledGrid b (estimate + 1) 1 ≤ scaledQuarters b (estimate + 1) (4 * b.significand)
  then estimate + 1 else estimate

/-- The first grid with a hit, from coarse to fine. -/
def Binary.search (b : Binary) (tie : Tie) (grid : Int) : Nat → Digits
  | 0 => ⟨b.significand, b.exponent⟩
  | n + 1 =>
    match b.onGrid? tie grid with
    | some digits => ⟨digits, grid⟩
    | none => b.search tie (grid - 1) n

/-- Drops trailing zeros. -/
def Digits.strip (d : Digits) : Nat → Digits
  | 0 => d
  | n + 1 =>
    if d.significand % 10 = 0 then strip ⟨d.significand / 10, d.exponent + 1⟩ n else d

/-- The shortest decimal that rounds to a number other than zero; 17 digits always suffice. -/
def Binary.shortest (b : Binary) (tie : Tie) : Digits :=
  (b.search tie b.magnitude 18).strip 18

end MapContext.Decimal
