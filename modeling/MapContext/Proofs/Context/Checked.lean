import MapContext.Proofs.Context.Depths
import MapContext.Proofs.Context.Reachable

/-!
# Edits with checked indices

On a machine an index can be too great to be counted on, a shift can end at either end of the range
instead of going on, and a position can be past the end of a path. Here edits, validation and
queries are stated once more as programs that stop where this happens. Renumbering keeps its two
stacks of counters.
-/

namespace MapContext.Context.Checked

open FolderPath

/-- What can go wrong with an index. -/
inductive Trap where
  /-- One more than the greatest index is asked for. -/
  | overflow
  /-- A shift ends at the first or the last index instead of going on. -/
  | clipped
  /-- A position is past the end. -/
  | outside
  deriving DecidableEq

/-- A program that may stop at an index or fail as an edit does. -/
abbrev Run (α : Type) : Type := ExceptT Error (Except Trap) α

/-! ### Indices and paths -/

/-- One more. -/
def increment (i : Nat) : Except Trap Nat :=
  if i < maxIndex then .ok (i + 1) else .error .overflow

/-- The shifted index, if the shift goes all the way. -/
def shift : Shift → Nat → Except Trap Nat
  | .up, i => if i < maxIndex then .ok (i + 1) else .error .clipped
  | .down, i => if 0 < i then .ok (i - 1) else .error .clipped

/-- The entry at a position. -/
def entry (indices : List Nat) (position : Nat) : Except Trap Nat :=
  match indices[position]? with
  | some i => .ok i
  | none => .error .outside

/-- The first entries. -/
def initial (indices : List Nat) (length : Nat) : Except Trap (List Nat) :=
  if length ≤ indices.length then .ok (indices.take length) else .error .outside

/-- The path with the segment at a depth exchanged. -/
def withSegment (p : FolderPath) (depth value : Nat) : Except Trap FolderPath :=
  if depth < p.segments.length then .ok (p.withSegment depth value) else .error .outside

/-- Whether a folder lies below a parent, at or after a child index. -/
def isAtOrAfter (parent : Option FolderPath) (index : Nat) (folder : FolderPath) :
    Except Trap Bool :=
  let below :=
    match parent with
    | some p => p.isAncestorOf folder
    | none => true
  if below then do
    let i ← entry folder.segments (segmentsOf parent).length
    return decide (index ≤ i)
  else return false

/-- A resource shifted with its sibling, if it lies below a parent at or after a child index. -/
def shifted (direction : Shift) (parent : Option FolderPath) (index : Nat) (r : Resource) :
    Except Trap Resource := do
  if ← isAtOrAfter parent index r.folder then
    let depth := (segmentsOf parent).length
    let i ← entry r.folder.segments depth
    let j ← shift direction i
    let folder ← withSegment r.folder depth j
    return r.atFolder folder
  else return r

/-- Shifts the children of a parent from an index on, with all that is below them. -/
def shiftSiblings (direction : Shift) (parent : Option FolderPath) (index : Nat)
    (features : List Resource) : Except Trap (List Resource) :=
  features.mapM (shifted direction parent index)

/-! ### Places -/

/-- The number of children of a folder. -/
def childCount (features : List Resource) (parent : FolderPath) : Except Trap Nat := do
  let depth ← increment parent.depth
  return features.countP fun r => r.depth == depth && parent.isAncestorOf r.folder

/-- The parent and the index of a resource at a position relative to a target. -/
def destination (features : List Resource) (target : FolderPath) :
    Position → Except Trap (Option FolderPath × Nat)
  | .left => return (target.parent?, target.index)
  | .right => do
    let index ← increment target.index
    return (target.parent?, index)
  | .firstChild => return (some target, 0)
  | .lastChild => do
    let index ← childCount features target
    return (some target, index)

/-- The index of a new root. -/
def nextRoot (c : Context) : Except Trap Nat := do
  let indices ← c.roots.mapM fun r => increment r.index
  return indices.foldl max 0

/-- The resources that pass a test. -/
def pick (test : Resource → Except Trap Bool) : List Resource → Except Trap (List Resource)
  | [] => return []
  | r :: rs => do
    let kept ← test r
    let rest ← pick test rs
    return if kept then r :: rest else rest

/-- The siblings after a resource, and the resource itself if it is included. -/
def rightSiblings (c : Context) (target : Resource) (includeSelf withSubtrees : Bool) :
    Except Trap (List Resource) :=
  pick (fun r => do
    let index ← entry r.folder.segments target.depth
    return if includeSelf then decide (target.index ≤ index) else decide (target.index < index))
    (c.siblings target includeSelf withSubtrees)

/-! ### Validation -/

/-- Why `next` cannot directly follow `previous`, if it cannot. -/
def violation? (previous next : FolderPath) : Except Trap (Option StructureFault) := do
  let p := previous.segments
  let n := next.segments
  let deeper ← increment p.length
  if deeper < n.length then return some (.skipsLevel previous)
  else if n.length = deeper then
    let above ← initial n p.length
    if above ≠ p then return some (.outOfOrder previous)
    else
      let first ← entry n p.length
      return if first ≠ 0 then some (.firstChildIndex previous) else none
  else
    let k := n.length - 1
    let above ← initial n k
    let abovePrevious ← initial p k
    if above ≠ abovePrevious then return some (.outOfOrder previous)
    else
      let last ← entry p k
      let expected ← increment last
      let index ← entry n k
      return if index = expected then none
        else if index < expected then some (.notAfter previous)
        else some (.siblingGap previous)

/-- Why a folder cannot stand where it does, given the one before. -/
def misplaced? (previous : Option FolderPath) (folder : FolderPath) :
    Except Trap (Option StructureFault) :=
  match previous with
  | none => return if folder = .root 0 then none else some .firstNotRoot
  | some p => violation? p folder

/-- Checks resources from an index on, given the identifiers and the folder before them. -/
def validateFrom (seen : List Resource.Id) (previous : Option FolderPath) (index : Nat) :
    List Resource → Run Unit
  | [] => return ()
  | r :: rs =>
    if seen.contains r.id then throw (.duplicateId r.id)
    else do
      match ← (misplaced? previous r.folder : Except Trap _) with
      | some fault => throw (.invalidStructure index r.folder fault)
      | none => validateFrom (r.id :: seen) (some r.folder) (index + 1) rs

/-- Checks that identifiers differ and that the order describes a tree. -/
def validate (features : List Resource) : Run Unit :=
  validateFrom [] none 0 features

/-- Sorts resources into document order and puts them into the context, if their order is valid. -/
def commit (c : Context) (staged : List Resource) : Run Context := do
  let features := staged.mergeSort fun a b => decide (a.folder ≤ b.folder)
  validate features
  return { c with features }

/-! ### Renumbering -/

/-- One more resource at a level: both stacks are cut off there, a missing counter starts anew, and
the index is taken. -/
def count (start level : Nat) (c : Counters) : Except Trap Counters := do
  let kept := c.free.take (level + 1)
  let free := if kept.length = level then kept ++ [if level = 0 then start else 0] else kept
  let index ← entry free level
  let next ← increment index
  return { free := free.set level next, current := c.current.take level ++ [index] }

/-- The path that is put together from a parent and the indices in use. -/
def joined (parent : Option FolderPath) (current : List Nat) : Except Trap FolderPath :=
  match join? parent current with
  | some folder => .ok folder
  | none => .error .outside

/-- Renumbers resources, of which the first had depth `base`, with the counters. -/
def renumberFrom (parent : Option FolderPath) (start base : Nat) (c : Counters) (offset : Nat) :
    List Resource → Run (List Resource)
  | [] => return []
  | r :: rs =>
    if r.depth < base then throw (.invalidSubtree offset (.aboveFirst r.folder))
    else
      let level := r.depth - base
      if c.current.length < level then throw (.invalidSubtree offset (.skipsLevel r.folder))
      else do
        let c ← (count start level c : Except Trap _)
        let folder ← (joined parent c.current : Except Trap _)
        let rest ← renumberFrom parent start base c (offset + 1) rs
        return r.atFolder folder :: rest

/-- Makes the first resource child number `start` of a parent, or a root, and renumbers the others
after it. -/
def renumbered (parent : Option FolderPath) (start : Nat) (rs : List Resource) :
    Run (List Resource) :=
  match rs with
  | [] => return []
  | first :: _ => renumberFrom parent start first.depth ⟨[], []⟩ 0 rs

/-! ### Edits -/

/-- Moves the subtree at a place to a position relative to a target. -/
def moveSubtree (c : Context) (place : Nat) (root : Resource) (target : Resource.Id)
    (position : Position) : Run (Context × MoveOutcome) := do
  let (before, subtree, after) := cutSubtree c.features place
  let source := root.folder
  let gap ← (increment source.index : Except Trap _)
  let staged ← (shiftSiblings .down source.parent? gap (before ++ after) : Except Trap _)
  match staged.find? (·.id == target) with
  | none => throw (.resourceNotFound target)
  | some t =>
    let (parent, index) ← (destination staged t.folder position : Except Trap _)
    let result := FolderPath.under parent index
    if result = source then return (c, .unchanged)
    else
      let staged ← (shiftSiblings .up parent index staged : Except Trap _)
      let subtree ← renumbered parent index subtree
      let c ← commit c (staged ++ subtree)
      return (c, .moved source result)

/-- Moves a resource with all below it to a position relative to a target. -/
def move (c : Context) (source : Resource.Id) (target : Option Resource.Id)
    (position : Position) : Run (Context × MoveOutcome) :=
  match target with
  | none => return (c, .unchanged)
  | some target =>
    if source = target then return (c, .unchanged)
    else match c.position? source with
      | none => throw (.resourceNotFound source)
      | some place => do
        let root ← c.require source
        let t ← c.require target
        if t.isDescendantOf root then throw (.moveIntoOwnSubtree source target)
        else moveSubtree c place root target position

/-- The parent and the index at which a resource is inserted. -/
def landing (c : Context) (target : Option Resource.Id) (position : Position) :
    Run (Option FolderPath × Nat) :=
  match target with
  | none => do
    let index ← (nextRoot c : Except Trap _)
    return (none, index)
  | some id => do
    let t ← c.require id
    (destination c.features t.folder position : Except Trap _)

/-- Inserts a resource at a position relative to a target, or as the last root. -/
def insert (c : Context) (target : Option Resource.Id) (resource : Resource)
    (position : Position) : Run Context :=
  match c.get? resource.id with
  | some _ => throw (.duplicateId resource.id)
  | none => do
    let (parent, index) ← landing c target position
    let staged ← (shiftSiblings .up parent index c.features : Except Trap _)
    let folder := FolderPath.under parent index
    let before (r : Resource) : Bool := r.folder < folder
    let staged := staged.takeWhile before ++ resource.atFolder folder :: staged.dropWhile before
    let c ← commit c staged
    return c.refreshCrs

/-- Removes a resource with all below it and numbers the others anew. -/
def remove (c : Context) (target : Resource.Id) : Run (Context × List Resource) :=
  match c.position? target with
  | none => throw (.resourceNotFound target)
  | some place => do
    let (before, removed, after) := cutSubtree c.features place
    let staged ← renumbered none 0 (before ++ after)
    let c ← commit c staged
    return ({ c with services := dropFromServices removed c.services }.refreshCrs, removed)

/-- The resources of a service below a root of the given index. -/
def resourcesOf (href : String) (c : Capabilities) (root : Nat) (fresh : Nat → Resource.Id) :
    Run (List Resource) := do
  let base := c.capabilitiesHref.getD href
  let u ← addressed base (MapRequest.capabilitiesUrl base c.version)
  let rs ← layerResources href c u.display fresh 0 c.rootLayer.preorder
  renumbered none root rs

/-- Appends the layers of a service as a new root. -/
def append (context : Context) (href : String) (c : Capabilities) (fresh : Nat → Resource.Id) :
    Run (Context × List Resource.Id) := do
  let root ← (nextRoot context : Except Trap _)
  let rs ← resourcesOf href c root fresh
  let ids := rs.map (·.id)
  let context ← commit context (context.features ++ rs)
  return ({ context with services := addService href c ids context.services }.refreshCrs, ids)

/-- The context after an edit. Switching a resource counts on no index. -/
def apply (c : Context) : Edit → Run Context
  | .move source target position => return (← move c source target position).1
  | .insert target resource position => insert c target resource position
  | .remove target => return (← remove c target).1
  | .activate target active => c.activate target active
  | .append href capabilities fresh => return (← append c href capabilities fresh).1

end MapContext.Context.Checked
