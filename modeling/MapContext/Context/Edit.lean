import MapContext.Context.Query
import MapContext.Context.Renumbering
import MapContext.Position

/-!
# Moving, inserting and removing resources

Every edit works on a copy of the resources, which replaces them only if its order is valid. An
edit that fails gives no new context.
-/

namespace MapContext.Context

/-- The resources before a place, the subtree at the place, and the resources after it. -/
def cutSubtree (features : List Resource) (place : Nat) :
    List Resource × List Resource × List Resource :=
  match features.drop place with
  | [] => (features, [], [])
  | root :: rest =>
    let below (r : Resource) : Bool := root.isAncestorOf r
    (features.take place, root :: rest.takeWhile below, rest.dropWhile below)

/-- A direction in which siblings are shifted. -/
inductive Shift where
  /-- Towards greater indices. -/
  | up
  /-- Towards smaller indices. -/
  | down

/-- The shifted index; it stays within the range of indices. -/
def Shift.apply : Shift → Nat → Nat
  | .up, i => min (i + 1) FolderPath.maxIndex
  | .down, i => i - 1

/-- Whether a folder lies below a parent, at or after a child index. -/
def isAtOrAfter (parent : Option FolderPath) (index : Nat) (folder : FolderPath) : Bool :=
  (match parent with
    | some p => p.isAncestorOf folder
    | none => true)
  && (folder.segment? (FolderPath.segmentsOf parent).length).any (index ≤ ·)

/-- Shifts the children of a parent from an index on, with all that is below them. -/
def shiftSiblings (shift : Shift) (parent : Option FolderPath) (index : Nat)
    (features : List Resource) : List Resource :=
  let depth := (FolderPath.segmentsOf parent).length
  features.map fun r =>
    if isAtOrAfter parent index r.folder then
      r.atFolder (r.folder.withSegment depth (shift.apply ((r.folder.segment? depth).getD 0)))
    else r

/-- The number of children of a folder. -/
def childCount (features : List Resource) (parent : FolderPath) : Nat :=
  features.countP fun r => r.depth == parent.depth + 1 && parent.isAncestorOf r.folder

/-- The parent and the index of a resource at a position relative to a target. -/
def destination (features : List Resource) (target : FolderPath) :
    Position → Option FolderPath × Nat
  | .left => (target.parent?, target.index)
  | .right => (target.parent?, target.index + 1)
  | .firstChild => (some target, 0)
  | .lastChild => (some target, childCount features target)

/-- What a move did. -/
inductive MoveOutcome where
  /-- Nothing had to be done. -/
  | unchanged
  /-- The resource has another folder now. -/
  | moved (source destination : FolderPath)
  deriving DecidableEq

/-- Moves the subtree at a place to a position relative to a target. -/
def moveSubtree (c : Context) (place : Nat) (root : Resource) (target : Resource.Id)
    (position : Position) : Except Error (Context × MoveOutcome) := do
  let (before, subtree, after) := cutSubtree c.features place
  let source := root.folder
  let staged := shiftSiblings .down source.parent? (source.index + 1) (before ++ after)
  match staged.find? (·.id == target) with
  | none => .error (.resourceNotFound target)
  | some t =>
    let (parent, index) := destination staged t.folder position
    let result := FolderPath.under parent index
    if result = source then return (c, .unchanged)
    else
      let staged := shiftSiblings .up parent index staged
      let subtree ← renumbered parent index subtree
      let c ← c.commit (staged ++ subtree)
      return (c, .moved source result)

/-- Moves a resource with all below it to a position relative to a target. Without a target, and
onto itself, nothing is moved; a resource cannot be moved below itself. -/
def move (c : Context) (source : Resource.Id) (target : Option Resource.Id)
    (position : Position) : Except Error (Context × MoveOutcome) :=
  match target with
  | none => .ok (c, .unchanged)
  | some target =>
    if source = target then .ok (c, .unchanged)
    else match c.position? source with
      | none => .error (.resourceNotFound source)
      | some place => do
        let root ← c.require source
        let t ← c.require target
        if t.isDescendantOf root then .error (.moveIntoOwnSubtree source target)
        else c.moveSubtree place root target position

/-- Inserts a resource at a position relative to a target, or as the last root. The folder that it
comes with does not count. -/
def insert (c : Context) (target : Option Resource.Id) (resource : Resource)
    (position : Position) : Except Error Context :=
  match c.get? resource.id with
  | some _ => .error (.duplicateId resource.id)
  | none => do
    let (parent, index) ←
      match target with
      | none => pure (none, c.nextRoot)
      | some id => do
        let t ← c.require id
        pure (destination c.features t.folder position)
    let staged := shiftSiblings .up parent index c.features
    let folder := FolderPath.under parent index
    let before (r : Resource) : Bool := r.folder < folder
    let staged := staged.takeWhile before ++ resource.atFolder folder :: staged.dropWhile before
    let c ← c.commit staged
    return c.refreshCrs

/-- The services without the given resources; one without resources is dropped. -/
def dropFromServices (removed : List Resource) (services : List (String × Service)) :
    List (String × Service) :=
  let pruned := services.map fun (href, s) =>
    (href, { s with resources := s.resources.filter fun id => !removed.any (·.id == id) })
  pruned.filter fun (_, s) => !s.resources.isEmpty

/-- Removes a resource with all below it and numbers the others anew; gives the removed ones. -/
def remove (c : Context) (target : Resource.Id) : Except Error (Context × List Resource) :=
  match c.position? target with
  | none => .error (.resourceNotFound target)
  | some place => do
    let (before, removed, after) := cutSubtree c.features place
    let staged ← renumbered none 0 (before ++ after)
    let c ← c.commit staged
    return ({ c with services := dropFromServices removed c.services }.refreshCrs, removed)

end MapContext.Context
