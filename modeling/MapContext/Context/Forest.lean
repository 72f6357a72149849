import MapContext.Context.Basic

/-!
# The nested layer tree

The flat list of resources as nodes with children. A resource whose parent has not been met is an
error; nothing is guessed.
-/

namespace MapContext

/-- A resource with the nodes below it. -/
inductive Node where
  /-- A node. -/
  | mk (resource : Resource) (children : List Node)

namespace Node

/-- The resource of a node. -/
def resource : Node → Resource
  | mk r _ => r

/-- The nodes directly below. -/
def children : Node → List Node
  | mk _ ns => ns

mutual

/-- The resources of a node in document order. -/
def flatten : Node → List Resource
  | mk r ns => r :: flattenAll ns
termination_by structural n => n

/-- The resources of nodes in document order. -/
def flattenAll : List Node → List Resource
  | [] => []
  | n :: ns => flatten n ++ flattenAll ns
termination_by structural ns => ns

end

mutual

/-- The number of resources of a node. -/
def count : Node → Nat
  | mk _ ns => 1 + countAll ns
termination_by structural n => n

/-- The number of resources of nodes. -/
def countAll : List Node → Nat
  | [] => 0
  | n :: ns => count n + countAll ns
termination_by structural ns => ns

end

/-- The nodes before the last one that satisfies `p`, that node, and those after it. -/
def splitLast? (p : Node → Bool) : List Node → Option (List Node × Node × List Node)
  | [] => none
  | n :: ns =>
    match splitLast? p ns with
    | some (before, found, after) => some (n :: before, found, after)
    | none => if p n then some ([], n, ns) else none

/-- Puts a resource below the nodes of the given folders, outermost first. -/
def place (index : Nat) (r : Resource) :
    List FolderPath → List Node → Except Context.Error (List Node)
  | [], level => .ok (level ++ [mk r []])
  | p :: ps, level =>
    match splitLast? (·.resource.folder == p) level with
    | none => .error (.parentNotFound index r.folder p)
    | some (before, found, after) => do
      let inner ← place index r ps found.children
      return before ++ mk found.resource inner :: after

/-- Puts resources into a forest, one after another. -/
def placeAll (index : Nat) (forest : List Node) :
    List Resource → Except Context.Error (List Node)
  | [] => .ok forest
  | r :: rs => do
    let forest ← place index r r.folder.ancestors.reverse forest
    placeAll (index + 1) forest rs

/-- The forest that the folders of resources describe. -/
def forest (features : List Resource) : Except Context.Error (List Node) :=
  placeAll 0 [] features

end Node

/-- The layer tree of a context. -/
def Context.forest (c : Context) : Except Context.Error (List Node) :=
  Node.forest c.features

end MapContext
