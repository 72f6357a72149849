import MapContext.Resource.Basic

/-!
# Generated identifiers

New resources get identifiers in the form of random UUIDs: 122 free bits, with a version and a
variant at fixed places.
-/

namespace MapContext.Resource.Id

/-- The number of free bits. -/
def freeBits : Nat := 122

/-- The last `count` hexadecimal digits of a number. -/
def hexDigits (count n : Nat) : List Char :=
  (List.range count).reverse.map fun i => Nat.digitChar (n / Nat.pow 16 i % 16)

/-- The identifier whose free bits are those of a number. -/
def ofNumber (n : Nat) : Id :=
  let digits :=
    hexDigits 12 (n / Nat.pow 2 74) ++ '4' :: hexDigits 3 (n / Nat.pow 2 62)
      ++ Nat.digitChar (8 + n / Nat.pow 2 60 % 4) :: hexDigits 15 n
  let group (start length : Nat) : String := String.ofList ((digits.drop start).take length)
  "-".intercalate [group 0 8, group 8 4, group 12 4, group 16 4, group 20 12]

/-- Identifiers from a random number on. -/
def supply (seed index : Nat) : Id :=
  ofNumber ((seed + index) % Nat.pow 2 freeBits)

end MapContext.Resource.Id
