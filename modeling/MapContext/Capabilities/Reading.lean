import MapContext.Capabilities.Basic
import MapContext.Crs
import MapContext.Decimal.Reading
import MapContext.Xml.Reader

/-!
# Reading capabilities

A document is read event by event. The reading knows the open elements and, among them, the open
layers; an element takes effect when it is closed, by its name and that of the element around it.
-/

namespace MapContext.Capabilities

/-- The edges of a bounding box met so far. -/
structure PartialBox where
  /-- The western edge. -/
  west : Option Float := none
  /-- The eastern edge. -/
  east : Option Float := none
  /-- The southern edge. -/
  south : Option Float := none
  /-- The northern edge. -/
  north : Option Float := none

/-- The box, if all edges were met. -/
def PartialBox.box? (b : PartialBox) : Option BoundingBox :=
  match b.west, b.south, b.east, b.north with
  | some w, some s, some e, some n => some ⟨w, s, e, n⟩
  | _, _, _, _ => none

/-- What has been read of a document. -/
structure Reading where
  /-- Names of the open elements, innermost first. -/
  path : List String := []
  /-- The text since the last tag. -/
  text : String := ""
  /-- The announced version. -/
  version : Option String := none
  /-- The title of the service. -/
  serviceTitle : Option String := none
  /-- A description of the service. -/
  serviceDescription : Option String := none
  /-- Where capabilities are requested. -/
  capabilitiesHref : Option String := none
  /-- Where maps are requested. -/
  mapHref : Option String := none
  /-- Media types of maps. -/
  mapFormats : List String := []
  /-- The open layers, innermost first. -/
  openLayers : List Layer := []
  /-- The first outermost layer, once it is closed. -/
  rootLayer : Option Layer := none
  /-- The bounding box whose edges are being read. -/
  pendingBox : Option PartialBox := none
  /-- The error that the service reports. -/
  exception : Option String := none

namespace Reading

/-- Whether an element of a name is open. -/
def within (r : Reading) (name : String) : Bool := r.path.contains name

/-- Changes the innermost open layer, if there is one. -/
def updateLayer (r : Reading) (f : Layer → Layer) : Reading :=
  match r.openLayers with
  | [] => r
  | layer :: outer => { r with openLayers := f layer :: outer }

/-- The value of an attribute. -/
def attribute? (tag : Xml.Tag) (key : String) : Except Error (Option String) :=
  match tag.attribute? key with
  | .ok v => .ok v
  | .error defect => .error (.badAttribute defect)

/-- The number that a text denotes, blanks at its ends apart. -/
def number (element value : String) : Except Error Float :=
  match Decimal.read? (Text.trim value) with
  | some x => .ok x
  | none => .error (.badNumber element value)

/-- An edge of a bounding box given by attributes. -/
def edge (tag : Xml.Tag) (key : String) : Except Error Float := do
  match ← attribute? tag key with
  | some raw => number "LatLonBoundingBox" raw
  | none => .error (.missingEdge key)

/-- What an outermost element does when it begins. -/
def beginRoot (r : Reading) (name : String) (tag : Xml.Tag) : Except Error Reading :=
  if name = "WMS_Capabilities" || name = "WMT_MS_Capabilities" then do
    let version ← attribute? tag "version"
    return { r with version }
  else if name = "ServiceExceptionReport" || name = "ExceptionReport" then .ok r
  else .error (.unexpectedRoot name)

/-- What an inner element does when it begins. -/
def beginInner (r : Reading) (name : String) (tag : Xml.Tag) : Except Error Reading :=
  if name = "Layer" then do
    let value ← attribute? tag "queryable"
    let queryable := value.any fun v => v == "1" || Text.sameIgnoringCase v "true"
    return { r with openLayers := { queryable } :: r.openLayers }
  else if name = "EX_GeographicBoundingBox" && r.path.head? = some "Layer" then
    .ok { r with pendingBox := some {} }
  else if name = "LatLonBoundingBox" && r.path.head? = some "Layer" then do
    let minX ← edge tag "minx"
    let minY ← edge tag "miny"
    let maxX ← edge tag "maxx"
    let maxY ← edge tag "maxy"
    return r.updateLayer fun l => { l with bbox := some ⟨minX, minY, maxX, maxY⟩ }
  else if name = "OnlineResource" && r.within "DCPType" && r.within "Get" then do
    let href ← attribute? tag "href"
    if r.within "GetMap" then return { r with mapHref := href }
    else if r.within "GetCapabilities" then return { r with capabilitiesHref := href }
    else return r
  else .ok r

/-- An element begins. -/
def begin (r : Reading) (tag : Xml.Tag) : Except Error Reading := do
  let name := tag.localName
  let r ← if r.path.isEmpty then r.beginRoot name tag else r.beginInner name tag
  return { r with path := name :: r.path, text := "" }

/-- A layer is complete and goes into the layer around it; of outermost layers only the first
one counts. -/
def closeLayer (r : Reading) : Reading :=
  match r.openLayers with
  | [] => r
  | [layer] => { r with openLayers := [], rootLayer := r.rootLayer.or (some layer) }
  | layer :: outer :: rest =>
    { r with openLayers := { outer with layers := outer.layers ++ [layer] } :: rest }

/-- An edge of the pending bounding box is complete. -/
def closeEdge (r : Reading) (text name : String) (put : Float → PartialBox → PartialBox) :
    Except Error Reading := do
  let x ← number name text
  return { r with pendingBox := r.pendingBox.map (put x) }

/-- The pending bounding box is complete; it counts if all its edges were met. -/
def closeBox (r : Reading) : Reading :=
  let done := { r with pendingBox := none }
  match r.pendingBox.bind PartialBox.box? with
  | some box => done.updateLayer fun l => { l with bbox := some box }
  | none => done

/-- What the text of an element directly inside a layer does. -/
def closeField (r : Reading) (text name : String) : Except Error Reading :=
  match name with
  | "Name" => .ok (r.updateLayer fun l => { l with name := some text })
  | "Title" => .ok (r.updateLayer fun l => { l with title := text })
  | "Abstract" => .ok (r.updateLayer fun l => { l with description := some text })
  | "CRS" | "SRS" =>
    let codes := (Text.words text).map Crs.normalize
    .ok (r.updateLayer fun l => { l with crs := Layer.addNew l.crs codes })
  | "MinScaleDenominator" => do
    let x ← number name text
    return r.updateLayer fun l => { l with minScale := some x }
  | "MaxScaleDenominator" => do
    let x ← number name text
    return r.updateLayer fun l => { l with maxScale := some x }
  | _ => .ok r

/-- What the text of an element directly inside the description of the service does. -/
def closeService (r : Reading) (text name : String) : Reading :=
  match name with
  | "Title" => { r with serviceTitle := some text }
  | "Abstract" => { r with serviceDescription := some text }
  | _ => r

/-- What the text of an edge of a bounding box does. -/
def closeInBox (r : Reading) (text name : String) : Except Error Reading :=
  match name with
  | "westBoundLongitude" => r.closeEdge text name fun x b => { b with west := some x }
  | "eastBoundLongitude" => r.closeEdge text name fun x b => { b with east := some x }
  | "southBoundLatitude" => r.closeEdge text name fun x b => { b with south := some x }
  | "northBoundLatitude" => r.closeEdge text name fun x b => { b with north := some x }
  | _ => .ok r

/-- What an element does when it ends, by its name and that of the element around it. -/
def closeElement (r : Reading) (text name : String) (parent : Option String) :
    Except Error Reading :=
  if name = "ServiceException" || name = "ExceptionText" then
    .ok { r with exception := some text }
  else if name = "Layer" then .ok r.closeLayer
  else if name = "EX_GeographicBoundingBox" then .ok r.closeBox
  else match parent with
    | some "Service" => .ok (r.closeService text name)
    | some "GetMap" =>
      .ok (if name = "Format" then { r with mapFormats := r.mapFormats ++ [text] } else r)
    | some "Layer" => r.closeField text name
    | some "Style" =>
      .ok (if name = "Name" && r.within "Layer" then
        r.updateLayer fun l => { l with styles := l.styles ++ [text] } else r)
    | some "EX_GeographicBoundingBox" => r.closeInBox text name
    | _ => .ok r

/-- The innermost element ends. -/
def close (r : Reading) : Except Error Reading :=
  match r.path with
  | [] => .ok r
  | name :: outer => { r with path := outer }.closeElement (Text.trim r.text) name outer.head?

/-- What an event does. -/
def step (r : Reading) : Xml.Event → Except Error Reading
  | .start tag => r.begin tag
  | .empty tag => do
    let r ← r.begin tag
    r.close
  | .text s => .ok { r with text := r.text ++ s }
  | .characters s => .ok { r with text := r.text ++ s }
  | .finish => do
    let r ← r.close
    return { r with text := "" }

/-- What several events do. -/
def run (r : Reading) (events : List Xml.Event) : Except Error Reading :=
  events.foldlM step r

/-- The capabilities at the end of a document. -/
def result (r : Reading) : Except Error Capabilities :=
  match r.exception, r.rootLayer with
  | some reason, _ => .error (.exception reason)
  | none, none => .error .missingRootLayer
  | none, some layer =>
    .ok
      { version := r.version.getD defaultVersion
        serviceTitle := r.serviceTitle
        serviceDescription := r.serviceDescription
        capabilitiesHref := r.capabilitiesHref
        mapHref := r.mapHref
        mapFormats := r.mapFormats
        rootLayer := layer.inherit [] none [] }

end Reading

/-- The capabilities described by events. -/
def ofStream (stream : Xml.Stream) : Except Error Capabilities := do
  let r ← Reading.run {} stream.events
  match stream.fault with
  | some fault => .error (.xml fault)
  | none => r.result

/-- Reads a capabilities document. -/
def read (document : String) : Except Error Capabilities :=
  ofStream (Xml.read document)

end Capabilities

end MapContext
