/-!
# Service errors

Errors at the boundary between a map context and the services it talks to, with the exception
codes of OGC services.
-/

namespace MapContext

/-- Why a service cannot be used. -/
inductive ServiceError where
  /-- A parameter has no valid value. -/
  | invalidParameter (name reason : String)
  /-- A layer is unknown. -/
  | layerNotFound (id : String)
  /-- A capabilities document is invalid. -/
  | invalidCapabilities (reason : String)
  /-- A context document is invalid. -/
  | invalidContext (reason : String)
  /-- Something else went wrong. -/
  | internal (reason : String)
  /-- The service does not answer as it should. -/
  | unavailable (reason : String)
  deriving DecidableEq

namespace ServiceError

/-- A sentence about the error. -/
def message : ServiceError → String
  | .invalidParameter name reason => "Invalid parameter value for '" ++ name ++ "': " ++ reason
  | .layerNotFound id => "Layer not found: " ++ id
  | .invalidCapabilities reason => "Invalid capabilities document: " ++ reason
  | .invalidContext reason => "Invalid context document: " ++ reason
  | .internal reason => "Internal error: " ++ reason
  | .unavailable reason => "Service unavailable: " ++ reason

/-- The OGC exception code of the error. -/
def exceptionCode : ServiceError → String
  | .invalidParameter _ _ => "InvalidParameterValue"
  | .layerNotFound _ => "LayerNotDefined"
  | _ => "NoApplicableCode"

/-- Whether the same request could succeed later. -/
def isTransient : ServiceError → Bool
  | .unavailable _ => true
  | _ => false

end ServiceError

end MapContext
