import MapContext.FolderPath
import MapContext.Geometry
import MapContext.Instant
import MapContext.Resource.Offering

/-!
# Resources

A resource is one node of the layer tree. Its position is the folder among its properties; it has
no references to parents or children.
-/

namespace MapContext

/-- Identifies a resource within a context. -/
abbrev Resource.Id := String

/-- The properties of a resource. Members of unknown meaning are kept. -/
structure Resource.Properties where
  /-- The position in the layer tree. -/
  folder : FolderPath
  /-- The displayed title. -/
  title : String := ""
  /-- Whether the resource is switched on. -/
  active : Bool := false
  /-- A description. -/
  description : Option String := none
  /-- The time of the last change. -/
  updated : Option Instant := none
  /-- Services that can display the resource. -/
  offerings : List Offering := []
  /-- The least scale denominator of the display. -/
  minScale : Option Float := none
  /-- The greatest scale denominator of the display. -/
  maxScale : Option Float := none
  /-- Reference systems in which the resource can be drawn. -/
  crs : List String := []
  /-- Other members, sorted by key. -/
  extension : Json.Members := []
  deriving BEq

/-- One node of the layer tree. -/
structure Resource where
  /-- The type announced in documents, always `Feature` within a context. -/
  kind : String := "Feature"
  /-- The identifier. -/
  id : Resource.Id
  /-- The properties. -/
  properties : Resource.Properties
  /-- The extent. -/
  bbox : Option BoundingBox := none
  /-- The shape. -/
  geometry : Option Geometry := none
  deriving BEq

namespace Resource

/-- An inactive resource without services at a folder. -/
def new (id : Id) (folder : FolderPath) (title : String) : Resource :=
  { id, properties := { folder, title } }

/-- The position in the layer tree. -/
def folder (r : Resource) : FolderPath := r.properties.folder

/-- The displayed title. -/
def title (r : Resource) : String := r.properties.title

/-- Whether the resource is switched on. -/
def isActive (r : Resource) : Bool := r.properties.active

/-- The number of ancestors. -/
def depth (r : Resource) : Nat := r.folder.depth

/-- The index among siblings. -/
def index (r : Resource) : Nat := r.folder.index

/-- The folder of the parent; roots have none. -/
def parentFolder? (r : Resource) : Option FolderPath := r.folder.parent?

/-- The resource at another folder. -/
def atFolder (r : Resource) (folder : FolderPath) : Resource :=
  { r with properties := { r.properties with folder } }

/-- The resource switched on or off. -/
def switched (r : Resource) (active : Bool) : Resource :=
  { r with properties := { r.properties with active } }

/-- The resource with an extent, and the polygon that covers it as its shape. -/
def withBox (r : Resource) (b : BoundingBox) : Resource :=
  { r with bbox := some b, geometry := some (.ofBox b) }

/-- The resource with one more service. -/
def withOffering (r : Resource) (o : Offering) : Resource :=
  { r with properties := { r.properties with offerings := r.properties.offerings ++ [o] } }

/-- The resource with the given reference systems. -/
def withCrs (r : Resource) (crs : List String) : Resource :=
  { r with properties := { r.properties with crs } }

/-- Whether the resource is properly above the other one. -/
def isAncestorOf (r other : Resource) : Bool := r.folder.isAncestorOf other.folder

/-- Whether the resource is properly below the other one. -/
def isDescendantOf (r other : Resource) : Bool := r.folder.isDescendantOf other.folder

/-- Whether the resource is directly below the other one. -/
def isChildOf (r other : Resource) : Bool :=
  r.isDescendantOf other && r.depth == other.depth + 1

/-- Whether the resource is directly above the other one. -/
def isParentOf (r other : Resource) : Bool := other.isChildOf r

/-- Whether both are different children of one parent. Roots are never siblings. -/
def isSiblingOf (r other : Resource) : Bool :=
  r.id != other.id && 1 ≤ r.depth && 1 ≤ other.depth && r.parentFolder? == other.parentFolder?

/-- The first offering of a web map service. -/
def wmsOffering? (r : Resource) : Option Offering :=
  r.properties.offerings.find? (·.code == Offering.wmsCode)

/-- The address of a request to the map service. -/
def wmsHref? (r : Resource) (code : String) : Option String :=
  (r.wmsOffering?.bind (·.operation? code)).map (·.href)

/-- The address of a map request. -/
def mapHref? (r : Resource) : Option String := r.wmsHref? "GetMap"

/-- The address of a capabilities request. -/
def capabilitiesHref? (r : Resource) : Option String := r.wmsHref? "GetCapabilities"

end Resource

end MapContext
