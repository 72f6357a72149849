import MapContext.Text.Casing
import MapContext.Url.Query
import MapContext.Url.Origin

/-!
# Requests to web map services

Requests carry their parameters in the query. Parameters that are not set stay as they are and in
their order, so an address may come with parameters of its own.
-/

namespace MapContext.MapRequest

/-- Sets parameters one after another. -/
def setAll (u : Url) (params : List (String × String)) : Url :=
  params.foldl (fun u p => u.setParam p.1 p.2) u

/-- A request for a map of one layer. Without a style the default one is requested. -/
def mapUrl (base version layer : String) (style : Option String) (format : String) :
    Except Url.Error Url := do
  let u ← Url.read base
  return setAll u
    [("SERVICE", "WMS"), ("VERSION", version), ("REQUEST", "GetMap"), ("LAYERS", layer),
     ("STYLES", style.getD ""), ("FORMAT", format), ("TRANSPARENT", "TRUE")]

/-- A request for the description of a service. -/
def capabilitiesUrl (base version : String) : Except Url.Error Url := do
  let u ← Url.read base
  return setAll u [("SERVICE", "WMS"), ("VERSION", version), ("REQUEST", "GetCapabilities")]

/-- What two map requests have in common if one request can answer both. -/
structure Endpoint where
  /-- The origin of the address. -/
  origin : String
  /-- The path of the address. -/
  path : String
  /-- The kind of service in capitals. -/
  service : String
  /-- The protocol version. -/
  version : String
  deriving DecidableEq

/-- The endpoint of a map request. -/
def Endpoint.of (u : Url) : Endpoint :=
  { origin := u.origin
    path := u.path
    service := Text.upper ((u.param? "SERVICE").getD "")
    version := (u.param? "VERSION").getD "" }

/-- The entries of a list separated by commas; an empty list has none. -/
def entries (value : Option String) : List String :=
  match value with
  | none => []
  | some v => if v.isEmpty then [] else Text.splitAtChar ',' v

/-- The requested layers. -/
def layers (u : Url) : List String := entries (u.param? "LAYERS")

/-- The requested styles. -/
def styles (u : Url) : List String := entries (u.param? "STYLES")

/-- As many styles as there are layers; missing ones are default styles. -/
def alignedStyles (u : Url) : List String :=
  let n := (layers u).length
  (styles u).take n ++ List.replicate (n - (styles u).length) ""

/-- Appends the layers and styles of another request. -/
def merge (u other : Url) : Url :=
  let join (xs : List String) : String := ",".intercalate xs
  (u.setParam "LAYERS" (join (layers u ++ layers other))).setParam "STYLES"
    (join (alignedStyles u ++ alignedStyles other))

end MapContext.MapRequest
