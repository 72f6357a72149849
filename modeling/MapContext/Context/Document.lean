import MapContext.Context.Basic
import MapContext.Resource.Json

/-!
# Context documents

A context is saved as a GeoJSON feature collection whose features are its resources in document
order.
-/

namespace MapContext.Context

/-- The conformance profile announced in saved documents. -/
def profile : String := "http://www.opengis.net/spec/owc-geojson/1.0/req/core"

/-- A saved context. -/
structure Document where
  /-- The identifier. -/
  id : String
  /-- The announced type. -/
  kind : String
  /-- The metadata. -/
  properties : Properties
  /-- The extent. -/
  bbox : Option BoundingBox
  /-- The resources. -/
  features : List Resource
  deriving BEq

/-- The form of metadata in JSON. -/
def Properties.schema : Json.Schema Properties where
  title := "struct ContextProperties"
  fields :=
    [Json.field "title" Json.string fun v p => { p with title := v },
     Json.field "subtitle" (Json.optional Json.string) fun v p => { p with subtitle := v },
     Json.field "updated" (Json.optional Resource.decodeInstant)
       fun v p => { p with updated := v },
     Json.field "lang" (Json.optional Json.string) fun v p => { p with lang := v }]
  required := 0
  start := {}
  keep := some fun members p => { p with extension := members }

/-- The metadata in JSON. -/
def Properties.toJson (p : Properties) : Json.Value :=
  .object ([("title", .text p.title)]
    ++ Resource.optionalMember "subtitle" .text p.subtitle
    ++ Resource.optionalMember "updated" (fun t => .text t.display) p.updated
    ++ Resource.optionalMember "lang" .text p.lang
    ++ p.extension)

/-- The form of a document in JSON. -/
def Document.schema : Json.Schema Document where
  title := "struct OwsContextDocument"
  fields :=
    [Json.field "id" Json.string fun v d => { d with id := v },
     Json.field "type" Json.string fun v d => { d with kind := v },
     Json.field "properties" Properties.schema.decode fun v d => { d with properties := v },
     Json.field "bbox" (Json.optional BoundingBox.decode) fun v d => { d with bbox := v },
     Json.field "features" (Json.list Resource.schema.decode)
       fun v d => { d with features := v }]
  required := 3
  start := ⟨"", "", {}, none, []⟩
  keep := none

/-- The document in JSON. -/
def Document.toJson (d : Document) : Json.Value :=
  .object ([("id", .text d.id), ("type", .text d.kind), ("properties", d.properties.toJson)]
    ++ Resource.optionalMember "bbox" BoundingBox.toJson d.bbox
    ++ [("features", .array (d.features.map Resource.toJson))])

/-- Reads the text of a document. -/
def Document.read (text : String) : Except Json.Error Document :=
  Json.decode schema.decode text

/-- The text of a document. -/
def Document.text (d : Document) : String := d.toJson.pretty

/-- The type of a document. -/
def documentKind : String := "FeatureCollection"

/-- The type of a resource. -/
def resourceKind : String := "Feature"

/-- The context of a document. The order of the resources is checked, not repaired. -/
def ofDocument (d : Document) : Except Error Context :=
  if d.kind ≠ documentKind then .error (.invalidDocument (.documentKind d.kind))
  else match d.features.find? (·.kind != resourceKind) with
    | some r => .error (.invalidDocument (.resourceKind r.id r.kind))
    | none => do
      let c ← new d.id d.features
      return { c with properties := d.properties }

/-- The smallest box that covers all extents of resources. -/
def extent? (features : List Resource) : Option BoundingBox :=
  match features.filterMap (·.bbox) with
  | [] => none
  | first :: rest => some (rest.foldl BoundingBox.union first)

/-- The document of a context; it announces a profile unless it already has one. -/
def toDocument (c : Context) : Document :=
  let extension :=
    match c.properties.extension.get? "profile" with
    | some _ => c.properties.extension
    | none => c.properties.extension.put "profile" (.text profile)
  { id := c.id
    kind := documentKind
    properties := { c.properties with extension }
    bbox := extent? c.features
    features := c.features }

/-- Reads the text of a context. -/
def read (text : String) : Except Error Context :=
  match Document.read text with
  | .ok d => ofDocument d
  | .error e => .error (.json e)

/-- The text of a context. -/
def text (c : Context) : String := c.toDocument.text

end MapContext.Context
