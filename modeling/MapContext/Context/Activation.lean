import MapContext.Context.Query

/-!
# Switching resources on and off

A switch acts on a resource and all below it. Switching on the last inactive child switches on the
parent, and so on upwards; switching off also switches off everything above.
-/

namespace MapContext.Context

/-- Switches all resources at or below a folder. -/
def switchSubtree (active : Bool) (folder : FolderPath) (features : List Resource) :
    List Resource :=
  features.map fun r => if r.folder.startsWith folder then r.switched active else r

/-- Whether all children of a folder are active. -/
def allChildrenActive (folder : FolderPath) (features : List Resource) : Bool :=
  (features.filter fun r =>
    r.depth == folder.depth + 1 && folder.isAncestorOf r.folder).all (·.isActive)

/-- Switches on folders, from the parent upwards, as long as all their children are active. -/
def promote (features : List Resource) : List FolderPath → List Resource
  | [] => features
  | p :: ps =>
    if allChildrenActive p features then promote (switchSubtree true p features) ps
    else features

/-- Switches off everything above a folder. -/
def demote (folder : FolderPath) (features : List Resource) : List Resource :=
  features.map fun r => if r.folder.isAncestorOf folder then r.switched false else r

/-- The resources after a switch. -/
def activated (folder : FolderPath) (active : Bool) (features : List Resource) : List Resource :=
  let switched := switchSubtree active folder features
  if active then promote switched folder.ancestors else demote folder switched

/-- Switches a resource on or off. -/
def activate (c : Context) (target : Resource.Id) (active : Bool) : Except Error Context := do
  let t ← c.require target
  return { c with features := activated t.folder active c.features }.refreshCrs

end MapContext.Context
