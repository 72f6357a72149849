import MapContext.Json.Decode

/-!
# Offerings

An offering is a service through which a resource can be displayed, with the requests that a
client can issue to it.
-/

namespace MapContext

/-- A request to a service. -/
structure Operation where
  /-- What is requested, such as `GetMap`. -/
  code : String
  /-- The method of the request. -/
  method : String
  /-- The address of the request. -/
  href : String
  /-- The media type of the answer. -/
  mediaType : Option String
  deriving DecidableEq

namespace Operation

/-- A request by the method `GET`. -/
def get (code href : String) (mediaType : Option String) : Operation :=
  ⟨code, "GET", href, mediaType⟩

/-- The form of a request in JSON. -/
def schema : Json.Schema Operation where
  title := "struct Operation"
  fields :=
    [Json.field "code" Json.string fun v o => { o with code := v },
     Json.field "method" Json.string fun v o => { o with method := v },
     Json.field "href" Json.string fun v o => { o with href := v },
     Json.field "type" (Json.optional Json.string) fun v o => { o with mediaType := v }]
  required := 3
  start := ⟨"", "", "", none⟩
  keep := none

/-- The request in JSON. -/
def toJson (o : Operation) : Json.Value :=
  .object ([("code", .text o.code), ("method", .text o.method), ("href", .text o.href)]
    ++ (o.mediaType.map fun v => ("type", Json.Value.text v)).toList)

end Operation

/-- A service through which a resource can be displayed. -/
structure Offering where
  /-- The kind of service. -/
  code : String
  /-- Requests to the service. -/
  operations : List Operation
  /-- Other members, sorted by key. -/
  extension : Json.Members
  deriving BEq

namespace Offering

/-- The kind of a web map service. -/
def wmsCode : String := "http://www.opengis.net/spec/owc-geojson/1.0/req/wms"

/-- An offering of a web map service. -/
def wms (capabilitiesHref mapHref format : String) : Offering :=
  { code := wmsCode
    operations :=
      [.get "GetCapabilities" capabilitiesHref (some "text/xml"),
       .get "GetMap" mapHref (some format)]
    extension := [] }

/-- The first request of a code, in any case of ASCII letters. -/
def operation? (o : Offering) (code : String) : Option Operation :=
  o.operations.find? fun op => Text.sameIgnoringCase op.code code

/-- The form of an offering in JSON. -/
def schema : Json.Schema Offering where
  title := "struct Offering"
  fields :=
    [Json.field "code" Json.string fun v o => { o with code := v },
     Json.field "operations" (Json.list Operation.schema.decode)
       fun v o => { o with operations := v }]
  required := 1
  start := ⟨"", [], []⟩
  keep := some fun members o => { o with extension := members }

/-- The offering in JSON; an empty list of requests is left out. -/
def toJson (o : Offering) : Json.Value :=
  .object ([("code", .text o.code)]
    ++ (if o.operations.isEmpty then []
      else [("operations", .array (o.operations.map Operation.toJson))])
    ++ o.extension)

end Offering

end MapContext
