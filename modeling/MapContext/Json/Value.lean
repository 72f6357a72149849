import MapContext.Decimal.Layout

/-!
# JSON values

A number is an integer of at most 64 bits or a finite floating-point number, and the two kinds
differ: `5` and `5.0` are different values. The members of an object stand in the order in which
they are written.
-/

namespace MapContext.Json

/-- A floating-point number that is neither infinite nor NaN. -/
structure FiniteFloat where
  /-- The number. -/
  value : Float
  /-- It is finite. -/
  isFinite : value.isFinite = true
  deriving DecidableEq

/-- A JSON number. -/
inductive Number where
  /-- A number written without point and power, from `-2 ^ 63` to `2 ^ 64 - 1`. -/
  | integer (n : Int)
  /-- Any other number. -/
  | float (x : FiniteFloat)
  deriving DecidableEq

/-- A JSON value. -/
inductive Value where
  /-- The value `null`. -/
  | null
  /-- A truth value. -/
  | boolean (b : Bool)
  /-- A number. -/
  | number (n : Number)
  /-- A string. -/
  | text (s : String)
  /-- An array. -/
  | array (items : List Value)
  /-- An object. -/
  | object (members : List (String × Value))

/-- Members of an object. -/
abbrev Members := List (String × Value)

/-- Numbers of one kind are compared as numbers, so that zeros of both signs are equal. -/
def Number.same : Number → Number → Bool
  | .integer a, .integer b => a == b
  | .float a, .float b => a.value == b.value
  | _, _ => false

mutual

/-- Equality of values; members of objects are compared in order. -/
def Value.same : Value → Value → Bool
  | .null, .null => true
  | .boolean a, .boolean b => a == b
  | .number a, .number b => a.same b
  | .text a, .text b => a == b
  | .array a, .array b => Value.sameItems a b
  | .object a, .object b => Value.sameMembers a b
  | _, _ => false
termination_by structural v => v

/-- Equality of lists of values. -/
def Value.sameItems : List Value → List Value → Bool
  | [], [] => true
  | v :: vs, w :: ws => v.same w && Value.sameItems vs ws
  | _, _ => false
termination_by structural v => v

/-- Equality of lists of members. -/
def Value.sameMembers : List (String × Value) → List (String × Value) → Bool
  | [], [] => true
  | (k, v) :: vs, (l, w) :: ws => k == l && v.same w && Value.sameMembers vs ws
  | _, _ => false
termination_by structural v => v

end

instance : BEq Value := ⟨Value.same⟩

/-- A floating-point number; JSON has no infinities and no NaN and writes `null` for them. -/
def Value.ofFloat (x : Float) : Value :=
  if h : x.isFinite = true then .number (.float ⟨x, h⟩) else .null

/-- An array of strings. -/
def Value.texts (items : List String) : Value :=
  .array (items.map .text)

/-- A string, or `null`. -/
def Value.optionalText : Option String → Value
  | some s => .text s
  | none => .null

/-- Puts a member into a list sorted by key; an old member of the same key is dropped. -/
def Members.put (key : String) (value : Value) : Members → Members
  | [] => [(key, value)]
  | (k, v) :: rest =>
    if key < k then (key, value) :: (k, v) :: rest
    else if key = k then (key, value) :: rest
    else (k, v) :: Members.put key value rest

/-- The member of a key. -/
def Members.get? (members : Members) (key : String) : Option Value :=
  members.lookup key

end MapContext.Json
