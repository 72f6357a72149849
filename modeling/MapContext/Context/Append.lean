import MapContext.Context.Query
import MapContext.Context.Renumbering
import MapContext.MapRequest

/-!
# Appending the layers of a service

Every layer of a service becomes a resource, in document order below a new root. Layers with a
name can be requested and get an offering; the others only group.
-/

namespace MapContext.Context

/-- The media type that is requested where the service has it. -/
def preferredFormat : String := "image/png"

/-- The media type requested from a service: the preferred one, unless only others are named. -/
def mapFormat (c : Capabilities) : String :=
  match c.mapFormats with
  | [] => preferredFormat
  | first :: _ => if c.mapFormats.contains preferredFormat then preferredFormat else first

/-- Reads an address, of which the text is kept for the error. -/
def addressed {α : Type} (href : String) (read : Except Url.Error α) : Except Error α :=
  match read with
  | .ok a => .ok a
  | .error e => .error (.invalidUrl href e)

/-- The resource of a layer at a depth, before it has its place. -/
def layerResource (id : Resource.Id) (depth : Nat) (layer : Layer) : Resource :=
  let title := if layer.title.isEmpty then layer.name.getD "" else layer.title
  let placeholder : FolderPath := ⟨List.replicate (depth + 1) 0, by simp⟩
  let r := (Resource.new id placeholder title).withCrs layer.crs
  let r :=
    { r with properties :=
      { r.properties with
        description := layer.description
        minScale := layer.minScale
        maxScale := layer.maxScale } }
  match layer.bbox with
  | some b => r.withBox b
  | none => r

/-- The offering of a layer, if it has a name. -/
def layerOffering (href : String) (c : Capabilities) (capabilitiesHref : String) (layer : Layer) :
    Except Error (Option Offering) :=
  match layer.name with
  | none => .ok none
  | some name => do
    let base := c.mapHref.getD href
    let u ← addressed base
      (MapRequest.mapUrl base c.version name layer.styles.head? (mapFormat c))
    return some (.wms capabilitiesHref u.display (mapFormat c))

/-- The resources of layers; the supply gives each its identifier. -/
def layerResources (href : String) (c : Capabilities) (capabilitiesHref : String)
    (fresh : Nat → Resource.Id) (index : Nat) : List (Nat × Layer) → Except Error (List Resource)
  | [] => .ok []
  | (depth, layer) :: rest => do
    let r := layerResource (fresh index) depth layer
    let r := match ← layerOffering href c capabilitiesHref layer with
      | some o => r.withOffering o
      | none => r
    let rs ← layerResources href c capabilitiesHref fresh (index + 1) rest
    return r :: rs

/-- The resources of a service below a root of the given index. -/
def resourcesOf (href : String) (c : Capabilities) (root : Nat) (fresh : Nat → Resource.Id) :
    Except Error (List Resource) := do
  let base := c.capabilitiesHref.getD href
  let u ← addressed base (MapRequest.capabilitiesUrl base c.version)
  let rs ← layerResources href c u.display fresh 0 c.rootLayer.preorder
  renumbered none root rs

/-- Records the resources built from a service; its description is the latest one. -/
def addService (href : String) (c : Capabilities) (ids : List Resource.Id) :
    List (String × Service) → List (String × Service)
  | [] => [(href, ⟨c, ids⟩)]
  | (h, s) :: rest =>
    if h = href then (h, ⟨c, s.resources ++ ids⟩) :: rest
    else (h, s) :: addService href c ids rest

/-- Appends the layers of a service as a new root; gives the identifiers of the new resources. -/
def append (context : Context) (href : String) (c : Capabilities) (fresh : Nat → Resource.Id) :
    Except Error (Context × List Resource.Id) := do
  let rs ← resourcesOf href c context.nextRoot fresh
  let ids := rs.map (·.id)
  let context ← context.commit (context.features ++ rs)
  return ({ context with services := addService href c ids context.services }.refreshCrs, ids)

end MapContext.Context
