import MapContext.Context.Basic

/-!
# Questions about the layer tree

Answers are read off the flat list of resources. The resource asked about need not belong to the
context; only its folder counts, and its identifier where it is left out of an answer.
-/

namespace MapContext.Context

/-- The resource of an identifier. -/
def get? (c : Context) (id : Resource.Id) : Option Resource :=
  c.features.find? (·.id == id)

/-- The place of an identifier in the list. -/
def position? (c : Context) (id : Resource.Id) : Option Nat :=
  c.features.findIdx? (·.id == id)

/-- The resource of an identifier, which must be known. -/
def require (c : Context) (id : Resource.Id) : Except Error Resource :=
  match c.get? id with
  | some r => .ok r
  | none => .error (.resourceNotFound id)

/-- The resource at a folder. -/
def atFolder? (c : Context) (folder : FolderPath) : Option Resource :=
  c.features.find? (·.folder == folder)

/-- The resources without parents. -/
def roots (c : Context) : List Resource :=
  c.features.filter (·.depth == 0)

/-- The index of a new root: one past the greatest index of a root. -/
def nextRoot (c : Context) : Nat :=
  (c.roots.map (·.index + 1)).foldl max 0

/-- The resources below a resource, after itself if it is included. -/
def descendants (c : Context) (target : Resource) (includeSelf : Bool) : List Resource :=
  (if includeSelf then [target] else []) ++ c.features.filter target.isAncestorOf

/-- The resources directly below a resource. -/
def children (c : Context) (target : Resource) : List Resource :=
  c.features.filter (·.isChildOf target)

/-- The resources with the same parent, for a root the other roots; with what is below them on
request. The resource and what is below it are left out unless it is included. -/
def siblings (c : Context) (target : Resource) (includeSelf withSubtrees : Bool) :
    List Resource :=
  c.features.filter fun r =>
    (match target.parentFolder? with
      | some p => p.isAncestorOf r.folder
      | none => true)
    && (withSubtrees || r.depth == target.depth)
    && (includeSelf || (r.id != target.id && !target.isAncestorOf r))

/-- The siblings after a resource, and the resource itself if it is included. -/
def rightSiblings (c : Context) (target : Resource) (includeSelf withSubtrees : Bool) :
    List Resource :=
  (c.siblings target includeSelf withSubtrees).filter fun r =>
    let index := (r.folder.segment? target.depth).getD 0
    if includeSelf then target.index ≤ index else target.index < index

/-- The parent of a resource. -/
def parent? (c : Context) (target : Resource) : Option Resource :=
  target.parentFolder?.bind c.atFolder?

/-- The resources above a resource, from the root down. -/
def ancestors (c : Context) (target : Resource) : List Resource :=
  c.features.filter (·.isAncestorOf target)

/-- The first child of a resource. -/
def firstChild? (c : Context) (target : Resource) : Option Resource :=
  c.features.find? (·.isChildOf target)

/-- The last child of a resource. -/
def lastChild? (c : Context) (target : Resource) : Option Resource :=
  c.features.reverse.find? (·.isChildOf target)

/-- The place of the first child in the list. -/
def firstChildPosition? (c : Context) (target : Resource) : Option Nat :=
  c.features.findIdx? (·.isChildOf target)

/-- The place of the last child in the list. -/
def lastChildPosition? (c : Context) (target : Resource) : Option Nat :=
  (c.features.reverse.findIdx? (·.isChildOf target)).map fun i => c.features.length - 1 - i

/-- Whether nothing is below a resource. -/
def isLeaf (c : Context) (target : Resource) : Bool :=
  !c.features.any target.isAncestorOf

/-- Whether a resource is inactive, but something below it is active. -/
def isIndeterminate (c : Context) (target : Resource) : Bool :=
  !target.isActive && c.features.any fun r => target.isAncestorOf r && r.isActive

end MapContext.Context
