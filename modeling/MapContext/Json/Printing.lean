import MapContext.Json.Value

/-!
# JSON text of values

A value is written compactly on one line, or with one item or member per line and two blanks of
indentation for each level.
-/

namespace MapContext.Json

/-- Numbers are written with a point from `1e-5` up to below `1e16`, and with a signed power of
ten outside. -/
def layout : Decimal.Layout := ⟨-4, 16, true, .toEven⟩

/-- The text of a number. -/
def Number.print : Number → String
  | .integer n => toString n
  | .float x => layout.text x.value

/-- A character inside a string. -/
def escapedChar (c : Char) : List Char :=
  match c with
  | '"' => ['\\', '"']
  | '\\' => ['\\', '\\']
  | '\x08' => ['\\', 'b']
  | '\x0c' => ['\\', 'f']
  | '\n' => ['\\', 'n']
  | '\r' => ['\\', 'r']
  | '\t' => ['\\', 't']
  | c =>
    if c.toNat < 0x20 then
      ['\\', 'u', '0', '0', Nat.digitChar (c.toNat / 16), Nat.digitChar (c.toNat % 16)]
    else [c]

/-- A string with its quotes. -/
def printText (s : String) : String :=
  String.ofList ('"' :: s.toList.flatMap escapedChar ++ ['"'])

mutual

/-- The text of a value on one line, without blanks. -/
def Value.compact : Value → String
  | .null => "null"
  | .boolean b => if b then "true" else "false"
  | .number n => n.print
  | .text s => printText s
  | .array items => "[" ++ ",".intercalate (Value.compactItems items) ++ "]"
  | .object members => "\x7b" ++ ",".intercalate (Value.compactMembers members) ++ "\x7d"
termination_by structural v => v

/-- The texts of the items of an array. -/
def Value.compactItems : List Value → List String
  | [] => []
  | v :: vs => v.compact :: Value.compactItems vs
termination_by structural v => v

/-- The texts of the members of an object. -/
def Value.compactMembers : List (String × Value) → List String
  | [] => []
  | (k, v) :: vs => (printText k ++ ":" ++ v.compact) :: Value.compactMembers vs
termination_by structural v => v

end

/-- A line break and the indentation of a level. -/
def newLine (level : Nat) : String :=
  "\n" ++ String.ofList (List.replicate (2 * level) ' ')

/-- Lines between an opening and a closing bracket, or only the brackets if there are none. -/
def block (opening closing : String) (level : Nat) (lines : List String) : String :=
  if lines.isEmpty then opening ++ closing
  else
    opening ++ newLine (level + 1) ++ ("," ++ newLine (level + 1)).intercalate lines
      ++ newLine level ++ closing

mutual

/-- The text of a value at a level of indentation. -/
def Value.prettyAt (level : Nat) : Value → String
  | .null => "null"
  | .boolean b => if b then "true" else "false"
  | .number n => n.print
  | .text s => printText s
  | .array items => block "[" "]" level (Value.prettyItems (level + 1) items)
  | .object members => block "\x7b" "\x7d" level (Value.prettyMembers (level + 1) members)
termination_by structural v => v

/-- The texts of the items of an array. -/
def Value.prettyItems (level : Nat) : List Value → List String
  | [] => []
  | v :: vs => v.prettyAt level :: Value.prettyItems level vs
termination_by structural v => v

/-- The texts of the members of an object. -/
def Value.prettyMembers (level : Nat) : List (String × Value) → List String
  | [] => []
  | (k, v) :: vs => (printText k ++ ": " ++ v.prettyAt level) :: Value.prettyMembers level vs
termination_by structural v => v

end

/-- The text of a value over several lines. -/
def Value.pretty (v : Value) : String :=
  v.prettyAt 0

end MapContext.Json
