import MapContext.Resource.Basic

/-!
# Resources in JSON

A resource is a GeoJSON feature. Fields stand in a fixed order, absent and empty ones are left
out, and members of unknown meaning follow the properties.
-/

namespace MapContext.Resource

/-- Reads a folder from a string. -/
def decodeFolder (t : Json.Tree) : Except Json.Error FolderPath := do
  let text ← Json.string t
  match FolderPath.read text with
  | .ok p => return p
  | .error e => .error (.mismatch e.message)

/-- Reads an instant from a string. -/
def decodeInstant : Json.Decoder Instant
  | .text s =>
    match Instant.read? s with
    | some t => .ok t
    | none => .error (.mismatch "no date and time")
  | t => t.refuse "an RFC 3339 formatted date and time string"

/-- The form of properties in JSON. -/
def Properties.schema : Json.Schema Properties where
  title := "struct ResourceProperties"
  fields :=
    [Json.field "folder" decodeFolder fun v p => { p with folder := v },
     Json.field "title" Json.string fun v p => { p with title := v },
     Json.field "active" Json.boolean fun v p => { p with active := v },
     Json.field "abstract" (Json.optional Json.string) fun v p => { p with description := v },
     Json.field "updated" (Json.optional decodeInstant) fun v p => { p with updated := v },
     Json.field "offerings" (Json.list Offering.schema.decode)
       fun v p => { p with offerings := v },
     Json.field "minscaledenominator" (Json.optional Json.float)
       fun v p => { p with minScale := v },
     Json.field "maxscaledenominator" (Json.optional Json.float)
       fun v p => { p with maxScale := v },
     Json.field "crs" (Json.list Json.string) fun v p => { p with crs := v }]
  required := 1
  start := { folder := .root 0 }
  keep := some fun members p => { p with extension := members }

/-- A member that is left out when it is absent. -/
def optionalMember {α : Type} (key : String) (toJson : α → Json.Value) (v : Option α) :
    Json.Members :=
  (v.map fun v => (key, toJson v)).toList

/-- A member that is left out when it is empty. -/
def listMember {α : Type} (key : String) (toJson : α → Json.Value) (vs : List α) : Json.Members :=
  if vs.isEmpty then [] else [(key, .array (vs.map toJson))]

/-- The properties in JSON. -/
def Properties.toJson (p : Properties) : Json.Value :=
  .object ([("folder", .text p.folder.display), ("title", .text p.title),
      ("active", .boolean p.active)]
    ++ optionalMember "abstract" .text p.description
    ++ optionalMember "updated" (fun t => .text t.display) p.updated
    ++ listMember "offerings" Offering.toJson p.offerings
    ++ optionalMember "minscaledenominator" .ofFloat p.minScale
    ++ optionalMember "maxscaledenominator" .ofFloat p.maxScale
    ++ listMember "crs" .text p.crs
    ++ p.extension)

/-- The form of a resource in JSON. -/
def schema : Json.Schema Resource where
  title := "struct Resource"
  fields :=
    [Json.field "type" Json.string fun v r => { r with kind := v },
     Json.field "id" Json.string fun v r => { r with id := v },
     Json.field "properties" Properties.schema.decode fun v r => { r with properties := v },
     Json.field "bbox" (Json.optional BoundingBox.decode) fun v r => { r with bbox := v },
     Json.field "geometry" (Json.optional Geometry.decode) fun v r => { r with geometry := v }]
  required := 3
  start := .new "" (.root 0) ""
  keep := none

/-- The resource in JSON. A missing shape is `null`, a missing extent is left out. -/
def toJson (r : Resource) : Json.Value :=
  .object ([("type", .text r.kind), ("id", .text r.id), ("properties", r.properties.toJson)]
    ++ optionalMember "bbox" BoundingBox.toJson r.bbox
    ++ [("geometry", (r.geometry.map Geometry.toJson).getD .null)])

end MapContext.Resource
