import MapContext.Yaml.Event

/-!
# Documents of YAML text

In a document every alias is known by a number. A name gets the number of names before it; of two
nodes with one number, the later one counts.
-/

namespace MapContext.Yaml

/-- A document. -/
structure Document where
  /-- Its events; there are none if the text holds no document. -/
  events : List (Event Nat)
  /-- The scalars for which the numbers of aliases stand, latest first. A collection is none. -/
  targets : List (Nat × Option Scalar)

/-- The names so far and what they stand for. -/
structure Anchors where
  /-- The numbers of the names, latest first. -/
  numbers : List (String × Nat) := []
  /-- The scalars of the numbers, latest first. -/
  targets : List (Nat × Option Scalar) := []

/-- Gives a name to a node. -/
def Anchors.add (a : Anchors) (name : Option String) (target : Option Scalar) : Anchors :=
  match name with
  | none => a
  | some name =>
    let number := a.numbers.length
    ⟨(name, number) :: a.numbers.filter (·.1 != name), (number, target) :: a.targets⟩

/-- The document of events after others with anchors. Aliases have to be known. -/
def link? (a : Anchors) : List (Event String) → Option Document
  | [] => some ⟨[], a.targets⟩
  | e :: rest => do
    let (e, a) ←
      match e with
      | .alias name => (a.numbers.lookup name).map fun n => (Event.alias n, a)
      | .scalar anchor s => pure (.scalar anchor s, a.add anchor (some s))
      | .begins anchor isMapping => pure (.begins anchor isMapping, a.add anchor none)
      | .ends => pure (.ends, a)
    let d ← link? a rest
    return { d with events := e :: d.events }

/-- Reads a text as one document. -/
def read? (text : String) : Option Document := do
  link? {} (← events? (← tokens? text))

/-- The scalar for which an event stands. -/
def Document.scalar? (d : Document) : Event Nat → Option Scalar
  | .scalar _ s => some s
  | .alias n => (d.targets.lookup n).join
  | _ => none

/-- The events after a node; `depth` collections are open. -/
def skipNode (depth : Nat) : List (Event Nat) → List (Event Nat)
  | [] => []
  | e :: rest =>
    let depth :=
      match e with
      | .begins _ _ => depth + 1
      | .ends => depth - 1
      | _ => depth
    if depth = 0 then rest else skipNode depth rest

end MapContext.Yaml
