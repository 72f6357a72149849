import MapContext.Json.Printing
import MapContext.Json.Reading
import MapContext.Text.Quoted

/-!
# Decoding JSON

A decoder walks through a tree in document order and stops at the first thing that is wrong: the
end of the text, malformed text, or a value that does not fit. A record lists its fields in
declaration order; members are decoded when they are met, and missing ones are noticed at the end.
-/

namespace MapContext.Json

/-- Why decoding stops. -/
inductive Error where
  /-- The text ends too early. -/
  | endOfInput
  /-- The text is not JSON. -/
  | malformed
  /-- A value does not fit what is expected. -/
  | mismatch (message : String)
  deriving DecidableEq

/-- The error of a place where reading stops. -/
def Problem.error : Problem → Error
  | .endOfInput => .endOfInput
  | .malformed => .malformed

/-- A sentence about the error. -/
def Error.message : Error → String
  | .endOfInput => "unexpected end of text"
  | .malformed => "malformed text"
  | .mismatch message => message

/-- Reads a value of a type from a tree. -/
abbrev Decoder (α : Type) := Tree → Except Error α

/-- A value of the wrong type, in words. -/
def Tree.describe : Tree → Except Error String
  | .null => .ok "null"
  | .boolean b => .ok ("boolean `" ++ (if b then "true" else "false") ++ "`")
  | .number (.integer n) => .ok ("integer `" ++ toString n ++ "`")
  | .number (.float x) => .ok ("floating point `" ++ layout.text x.value ++ "`")
  | .text s => .ok ("string " ++ Text.quoted s)
  | .array _ _ => .ok "sequence"
  | .object _ _ => .ok "map"
  | .broken p => .error p.error
  | .blocked p inside =>
    match inside with
    | .array _ _ => .ok "sequence"
    | .object _ _ => .ok "map"
    | _ => .error p.error

/-- Refuses a value where something else is expected. -/
def Tree.refuse {α : Type} (t : Tree) (expected : String) : Except Error α :=
  t.describe.bind fun found =>
    .error (.mismatch ("invalid type: " ++ found ++ ", expected " ++ expected))

/-- Passes over a value. -/
def Tree.skip (t : Tree) : Except Error Unit :=
  match t.stop? with
  | some p => .error p.error
  | none => .ok ()

/-- Stops at the problem of an ending. -/
def ListEnding.check : ListEnding → Except Error Unit
  | .closed => .ok ()
  | .afterItem p => .error p.error
  | .afterComma p => .error p.error

mutual

/-- Any value. Of repeated keys the last one counts, and members are sorted by key. -/
def Tree.value : Tree → Except Error Value
  | .null => .ok .null
  | .boolean b => .ok (.boolean b)
  | .number n => .ok (.number n)
  | .text s => .ok (.text s)
  | .array items ending => do
    let values ← Tree.values items
    ending.check
    return .array values
  | .object members ending => do
    let members ← Tree.members members []
    match ending with
    | some p => .error p.error
    | none => return .object members
  | .broken p => .error p.error
  | .blocked p _ => .error p.error
termination_by structural t => t

/-- The values of items. -/
def Tree.values : List Tree → Except Error (List Value)
  | [] => .ok []
  | t :: ts => do
    let v ← t.value
    let vs ← Tree.values ts
    return v :: vs
termination_by structural t => t

/-- The members of an object, added to those before them. -/
def Tree.members : List (Option String × Tree) → Members → Except Error Members
  | [], done => .ok done
  | (none, _) :: _, _ => .error .malformed
  | (some k, t) :: ts, done => do
    let v ← t.value
    Tree.members ts (Members.put k v done)
termination_by structural t => t

end

/-- A string. -/
def string : Decoder String
  | .text s => .ok s
  | t => t.refuse "a string"

/-- A truth value. -/
def boolean : Decoder Bool
  | .boolean b => .ok b
  | t => t.refuse "a boolean"

/-- A number; an integer is rounded to the nearest floating-point number. -/
def float : Decoder Float
  | .number (.float x) => .ok x.value
  | .number (.integer n) =>
    let x := Float.ofInt n
    if x.isFinite then .ok x else .error .malformed
  | t => t.refuse "f64"

/-- A value or `null`. -/
def optional {α : Type} (d : Decoder α) : Decoder (Option α)
  | .null => .ok none
  | t => (d t).map some

/-- A name out of a list; others are refused. -/
def variant {α : Type} (names : List (String × α)) (name : String) : Except Error α :=
  match names.lookup name with
  | some a => .ok a
  | none =>
    .error (.mismatch ("unknown variant `" ++ name ++ "`, expected one of "
      ++ ", ".intercalate (names.map fun n => "`" ++ n.1 ++ "`")))

/-- Items of one kind, in order. -/
def list {α : Type} (d : Decoder α) : Decoder (List α)
  | .array items ending => do
    let values ← items.mapM d
    ending.check
    return values
  | t => t.refuse "a sequence"

/-- Checks the end of an array of a fixed number of items, all of which were read. -/
def closeFixed (surplus : List Tree) (ending : ListEnding) : Except Error Unit :=
  match surplus, ending with
  | [], .closed => .ok ()
  | [], .afterItem p => .error p.error
  | _, _ => .error .malformed

/-- Items of a fixed number. -/
def fixed {α : Type} (n : Nat) (d : Decoder α) : Decoder (List α)
  | .array items ending => do
    let values ← (items.take n).mapM d
    if values.length < n then
      ending.check
      .error (.mismatch ("invalid length " ++ toString values.length
        ++ ", expected an array of length " ++ toString n))
    else
      closeFixed (items.drop n) ending
      return values
  | t => t.refuse ("an array of length " ++ toString n)

/-- Items of a fixed number in an array that was met as a whole. -/
def buffered {α : Type} (n : Nat) (d : Decoder α) : Decoder (List α)
  | .array items ending => do
    let values ← (items.take n).mapM d
    ending.check
    if values.length < n then
      .error (.mismatch ("invalid length " ++ toString values.length
        ++ ", expected an array of length " ++ toString n))
    else if n < items.length then
      .error (.mismatch ("invalid length " ++ toString items.length
        ++ ", expected " ++ toString n ++ " elements in sequence"))
    else return values
  | t => t.refuse ("an array of length " ++ toString n)

/-- A field of a record: its key, and the change that its value makes. -/
structure Field (α : Type) where
  /-- The key. -/
  key : String
  /-- The change made by a value. -/
  read : Tree → Except Error (α → α)

/-- A field that is stored by `put`. -/
def field {α β : Type} (key : String) (d : Decoder β) (put : β → α → α) : Field α :=
  ⟨key, fun t => (d t).map put⟩

/-- The form of a record in JSON. -/
structure Schema (α : Type) where
  /-- What the record is called when something else is met. -/
  title : String
  /-- The fields in declaration order. -/
  fields : List (Field α)
  /-- How many of the first fields must be present. -/
  required : Nat
  /-- The record before any field is read. -/
  start : α
  /-- Where members of other keys go; without it they are passed over. -/
  keep : Option (Members → α → α)

/-- What has been read of a record: the keys met, other members, and the record. -/
structure Draft (α : Type) where
  /-- Known keys met so far. -/
  seen : List String
  /-- Members of other keys. -/
  others : Members
  /-- The record so far. -/
  record : α

/-- Reads one member. -/
def Schema.member {α : Type} (s : Schema α) (draft : Draft α) (key : String) (t : Tree) :
    Except Error (Draft α) :=
  match s.fields.find? (·.key == key) with
  | some f =>
    if draft.seen.contains key then
      .error (.mismatch ("duplicate field `" ++ key ++ "`"))
    else do
      let change ← f.read t
      return { draft with seen := key :: draft.seen, record := change draft.record }
  | none =>
    match s.keep with
    | some _ => do
      let v ← t.value
      return { draft with others := Members.put key v draft.others }
    | none => do
      t.skip
      return draft

/-- Reads the members of an object. -/
def Schema.members {α : Type} (s : Schema α) :
    Draft α → List (Option String × Tree) → Except Error (Draft α)
  | draft, [] => .ok draft
  | _, (none, _) :: _ => .error .malformed
  | draft, (some key, t) :: rest => do
    let draft ← s.member draft key t
    s.members draft rest

/-- The record of a draft without missing fields. -/
def Schema.finish {α : Type} (s : Schema α) (draft : Draft α) : Except Error α :=
  match (s.fields.take s.required).find? (fun f => !draft.seen.contains f.key) with
  | some f => .error (.mismatch ("missing field `" ++ f.key ++ "`"))
  | none =>
    match s.keep with
    | some keep => .ok (keep draft.others draft.record)
    | none => .ok draft.record

/-- Reads a record from its fields in declaration order. -/
def Schema.sequence {α : Type} (s : Schema α) (ending : ListEnding) (index : Nat) (record : α) :
    List (Field α) → List Tree → Except Error α
  | [], surplus => do
    closeFixed surplus ending
    return record
  | _ :: _, [] => do
    ending.check
    if index < s.required then
      .error (.mismatch ("invalid length " ++ toString index ++ ", expected " ++ s.title
        ++ " with " ++ toString s.fields.length ++ " elements"))
    else return record
  | f :: fs, t :: ts => do
    let change ← f.read t
    s.sequence ending (index + 1) (change record) fs ts

/-- Reads a record from an object, or from an array if no other members are kept. -/
def Schema.decode {α : Type} (s : Schema α) : Decoder α
  | .object members ending => do
    let draft ← s.members ⟨[], [], s.start⟩ members
    match ending with
    | some p => .error p.error
    | none => s.finish draft
  | .array items ending =>
    match s.keep with
    | some _ => Tree.refuse (.array items ending) s.title
    | none => s.sequence ending 0 s.start s.fields items
  | t => t.refuse s.title

/-- Decodes a whole text. -/
def decode {α : Type} (d : Decoder α) (text : String) : Except Error α :=
  let (t, trailing) := readText text
  match d t with
  | .error e => .error e
  | .ok a =>
    match trailing with
    | some p => .error p.error
    | none => .ok a

end MapContext.Json
