import MapContext.Context.Error
import MapContext.Resource.Basic

/-!
# Valid orders of resources

The resources of a context stand in document order without gaps: every folder is the first child
of the one before, or the next sibling of it or of one of its ancestors. It is enough to compare
neighbours.
-/

namespace MapContext.Context

/-- Why `next` cannot directly follow `previous`, if it cannot. -/
def violation? (previous next : FolderPath) : Option StructureFault :=
  let p := previous.segments
  let n := next.segments
  if p.length + 1 < n.length then some (.skipsLevel previous)
  else if n.length = p.length + 1 then
    if n.take p.length ≠ p then some (.outOfOrder previous)
    else if n[p.length]? ≠ some 0 then some (.firstChildIndex previous)
    else none
  else
    let k := n.length - 1
    if n.take k ≠ p.take k then some (.outOfOrder previous)
    else
      let expected := (p[k]?).getD 0 + 1
      if next.index = expected then none
      else if next.index < expected then some (.notAfter previous)
      else some (.siblingGap previous)

/-- Why a folder cannot stand where it does, given the one before. -/
def misplaced? (previous : Option FolderPath) (folder : FolderPath) : Option StructureFault :=
  match previous with
  | none => if folder = .root 0 then none else some .firstNotRoot
  | some p => violation? p folder

/-- Checks resources from an index on, given the identifiers and the folder before them. -/
def validateFrom (seen : List Resource.Id) (previous : Option FolderPath) (index : Nat) :
    List Resource → Except Error Unit
  | [] => .ok ()
  | r :: rs =>
    if seen.contains r.id then .error (.duplicateId r.id)
    else match misplaced? previous r.folder with
      | some fault => .error (.invalidStructure index r.folder fault)
      | none => validateFrom (r.id :: seen) (some r.folder) (index + 1) rs

/-- Checks that identifiers differ and that the order describes a tree. -/
def validate (features : List Resource) : Except Error Unit :=
  validateFrom [] none 0 features

end MapContext.Context
