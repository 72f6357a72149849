import MapContext.Capabilities.Basic

/-!
# Capabilities in JSON

All fields are written; absent ones are `null`.
-/

namespace MapContext

namespace Layer

mutual

/-- The layer in JSON. -/
def toJson : Layer → Json.Value
  | ⟨name, title, description, crs, bbox, styles, minScale, maxScale, queryable, layers⟩ =>
    .object
      [("name", .optionalText name), ("title", .text title),
       ("abstract_", .optionalText description), ("crs", .texts crs),
       ("geographic_bbox", (bbox.map BoundingBox.toJson).getD .null), ("styles", .texts styles),
       ("min_scale_denominator", (minScale.map Json.Value.ofFloat).getD .null),
       ("max_scale_denominator", (maxScale.map Json.Value.ofFloat).getD .null),
       ("queryable", .boolean queryable), ("layers", .array (toJsonAll layers))]
termination_by structural layer => layer

/-- The layers in JSON. -/
def toJsonAll : List Layer → List Json.Value
  | [] => []
  | layer :: rest => toJson layer :: toJsonAll rest
termination_by structural layers => layers

end

/-- The form of a layer in JSON, given a reader of the layers inside. -/
def schema (inner : Json.Decoder Layer) : Json.Schema Layer where
  title := "struct CapabilityLayer"
  fields :=
    [Json.field "name" (Json.optional Json.string) fun v l => { l with name := v },
     Json.field "title" Json.string fun v l => { l with title := v },
     Json.field "abstract_" (Json.optional Json.string) fun v l => { l with description := v },
     Json.field "crs" (Json.list Json.string) fun v l => { l with crs := v },
     Json.field "geographic_bbox" (Json.optional BoundingBox.decode)
       fun v l => { l with bbox := v },
     Json.field "styles" (Json.list Json.string) fun v l => { l with styles := v },
     Json.field "min_scale_denominator" (Json.optional Json.float)
       fun v l => { l with minScale := v },
     Json.field "max_scale_denominator" (Json.optional Json.float)
       fun v l => { l with maxScale := v },
     Json.field "queryable" Json.boolean fun v l => { l with queryable := v },
     Json.field "layers" (Json.list inner) fun v l => { l with layers := v }]
  required := 10
  start := {}
  keep := none

/-- Reads a layer with at most the given number of levels. -/
def decode : Nat → Json.Decoder Layer
  | 0 => fun t => t.refuse "a layer"
  | n + 1 => (schema (decode n)).decode

end Layer

namespace Capabilities

/-- The capabilities in JSON. -/
def toJson (c : Capabilities) : Json.Value :=
  .object
    [("version", .text c.version), ("service_title", .optionalText c.serviceTitle),
     ("service_abstract", .optionalText c.serviceDescription),
     ("get_capabilities_href", .optionalText c.capabilitiesHref),
     ("get_map_href", .optionalText c.mapHref), ("get_map_formats", .texts c.mapFormats),
     ("root_layer", c.rootLayer.toJson)]

/-- The form of capabilities in JSON, with layers of at most the given number of levels. -/
def schema (levels : Nat) : Json.Schema Capabilities where
  title := "struct WmsCapabilities"
  fields :=
    [Json.field "version" Json.string fun v c => { c with version := v },
     Json.field "service_title" (Json.optional Json.string)
       fun v c => { c with serviceTitle := v },
     Json.field "service_abstract" (Json.optional Json.string)
       fun v c => { c with serviceDescription := v },
     Json.field "get_capabilities_href" (Json.optional Json.string)
       fun v c => { c with capabilitiesHref := v },
     Json.field "get_map_href" (Json.optional Json.string) fun v c => { c with mapHref := v },
     Json.field "get_map_formats" (Json.list Json.string) fun v c => { c with mapFormats := v },
     Json.field "root_layer" (Layer.decode levels) fun v c => { c with rootLayer := v }]
  required := 7
  start := ⟨"", none, none, none, none, [], {}⟩
  keep := none

/-- Reads capabilities from JSON. -/
def decode (levels : Nat) : Json.Decoder Capabilities :=
  (schema levels).decode

end Capabilities

end MapContext
