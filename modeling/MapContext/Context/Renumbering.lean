import MapContext.Context.Error
import MapContext.Resource.Basic

/-!
# Renumbering resources

Resources in document order are moved below another parent, or numbered anew, without changing
their shape: each keeps its depth relative to the first one, and gaps among siblings close.
-/

namespace MapContext.Context

/-- Renumbers resources after one that was put at `previous`; `top` is the new folder of the first
one, whose depth was `base`. -/
def renumberFrom (base : Nat) (top previous : FolderPath) (offset : Nat) :
    List Resource → List Resource × Option Error
  | [] => ([], none)
  | r :: rs =>
    if r.depth < base then (r :: rs, some (.invalidSubtree offset (.aboveFirst r.folder)))
    else
      let depth := top.depth + (r.depth - base)
      if previous.depth + 1 < depth then
        (r :: rs, some (.invalidSubtree offset (.skipsLevel r.folder)))
      else
        let folder := previous.successorAt depth
        let (rest, error) := renumberFrom base top folder (offset + 1) rs
        (r.atFolder folder :: rest, error)

/-- Makes the first resource child number `start` of a parent, or a root, and renumbers the others
after it. Where this fails the resources before are already renumbered. -/
def renumber (parent : Option FolderPath) (start : Nat) :
    List Resource → List Resource × Option Error
  | [] => ([], none)
  | first :: rs =>
    let top := FolderPath.under parent start
    let (rest, error) := renumberFrom first.depth top top 1 rs
    (first.atFolder top :: rest, error)

/-- The renumbered resources, or why there are none. -/
def renumbered (parent : Option FolderPath) (start : Nat) (rs : List Resource) :
    Except Error (List Resource) :=
  match renumber parent start rs with
  | (rs, none) => .ok rs
  | (_, some e) => .error e

end MapContext.Context
