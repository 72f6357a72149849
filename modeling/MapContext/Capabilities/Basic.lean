import MapContext.Capabilities.Layer
import MapContext.ServiceError
import MapContext.Xml.Event

/-!
# Capabilities of a service

What a map context needs to know of a web map service: where its requests go, and which layers it
has.
-/

namespace MapContext

/-- The description of a web map service. -/
structure Capabilities where
  /-- The protocol version. -/
  version : String
  /-- The title of the service. -/
  serviceTitle : Option String
  /-- A description of the service. -/
  serviceDescription : Option String
  /-- Where capabilities are requested. -/
  capabilitiesHref : Option String
  /-- Where maps are requested. -/
  mapHref : Option String
  /-- Media types of maps. -/
  mapFormats : List String
  /-- The outermost layer. -/
  rootLayer : Layer
  deriving BEq

namespace Capabilities

/-- The protocol version where none is announced. -/
def defaultVersion : String := "1.3.0"

/-- Why a document gives no capabilities. -/
inductive Error where
  /-- The document is not well formed. -/
  | xml (fault : Xml.Fault)
  /-- An attribute is malformed. -/
  | badAttribute (defect : Xml.Defect)
  /-- An edge of a bounding box is missing. -/
  | missingEdge (key : String)
  /-- A text is no number. -/
  | badNumber (element value : String)
  /-- The service reports an error. -/
  | exception (reason : String)
  /-- The outermost element is neither a description nor an error report. -/
  | unexpectedRoot (name : String)
  /-- There is no layer. -/
  | missingRootLayer
  deriving DecidableEq

/-- A sentence about the error. -/
def Error.message : Error → String
  | .xml fault => "XML parsing error: " ++ fault.message
  | .badAttribute defect => "Invalid attribute: " ++ defect.message
  | .missingEdge key => "Invalid attribute: LatLonBoundingBox is missing '" ++ key ++ "'"
  | .badNumber element value => "Invalid number in <" ++ element ++ ">: " ++ value
  | .exception reason => "Service exception: " ++ reason
  | .unexpectedRoot name =>
    "Document is not a WMS capabilities document (root element <" ++ name ++ ">)"
  | .missingRootLayer => "Capabilities document has no root layer"

/-- The error as one of the service: an error that it reports itself may be gone later. -/
def Error.toService : Error → ServiceError
  | .exception reason => .unavailable reason
  | e => .invalidCapabilities e.message

end Capabilities

end MapContext
