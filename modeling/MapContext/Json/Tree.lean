import MapContext.Json.Value

/-!
# JSON text as it is met by a reader

A tree keeps everything that a typed reader can notice: members in document order, repeated keys,
the place where reading stops, and values that are well formed but can only be passed over.
-/

namespace MapContext.Json

/-- Why the text cannot be read further. -/
inductive Problem where
  /-- The text ends too early. -/
  | endOfInput
  /-- The text is not JSON. -/
  | malformed
  deriving DecidableEq

/-- How an array ends. -/
inductive ListEnding where
  /-- By its bracket. -/
  | closed
  /-- By a problem in place of a comma or the bracket. -/
  | afterItem (p : Problem)
  /-- By a problem after a comma. -/
  | afterComma (p : Problem)
  deriving DecidableEq

/-- JSON text in document order. -/
inductive Tree where
  /-- The value `null`. -/
  | null
  /-- A truth value. -/
  | boolean (b : Bool)
  /-- A number in range. -/
  | number (n : Number)
  /-- A string. -/
  | text (s : String)
  /-- An array with its items as far as they were met. -/
  | array (items : List Tree) (ending : ListEnding)
  /-- An object with its members as far as they were met. A key without text can only be passed
  over. Without a problem the object is closed. -/
  | object (members : List (Option String × Tree)) (ending : Option Problem)
  /-- The text stops here. -/
  | broken (p : Problem)
  /-- Reading the value stops with a problem; one who passes over it meets what is inside. -/
  | blocked (p : Problem) (inside : Tree)

/-- Members as met in an object. -/
abbrev TreeMembers := List (Option String × Tree)

/-- The problem of an ending, if it is one. -/
def ListEnding.problem? : ListEnding → Option Problem
  | .closed => none
  | .afterItem p => some p
  | .afterComma p => some p

mutual

/-- The problem met by one who only passes over the value. -/
def Tree.stop? : Tree → Option Problem
  | .broken p => some p
  | .blocked _ inside => inside.stop?
  | .array items ending => (Tree.stopItems? items).or ending.problem?
  | .object members ending => (Tree.stopMembers? members).or ending
  | _ => none
termination_by structural t => t

/-- The first problem in items. -/
def Tree.stopItems? : List Tree → Option Problem
  | [] => none
  | t :: ts => t.stop?.or (Tree.stopItems? ts)
termination_by structural t => t

/-- The first problem in members. -/
def Tree.stopMembers? : List (Option String × Tree) → Option Problem
  | [] => none
  | (_, t) :: ts => t.stop?.or (Tree.stopMembers? ts)
termination_by structural t => t

end

mutual

/-- The value as the tree of its own text. -/
def Value.toTree : Value → Tree
  | .null => .null
  | .boolean b => .boolean b
  | .number n => .number n
  | .text s => .text s
  | .array items => .array (Value.itemTrees items) .closed
  | .object members => .object (Value.memberTrees members) none
termination_by structural v => v

/-- The trees of items. -/
def Value.itemTrees : List Value → List Tree
  | [] => []
  | v :: vs => v.toTree :: Value.itemTrees vs
termination_by structural v => v

/-- The trees of members. -/
def Value.memberTrees : List (String × Value) → TreeMembers
  | [] => []
  | (k, v) :: vs => (some k, v.toTree) :: Value.memberTrees vs
termination_by structural v => v

end

end MapContext.Json
