import MapContext.Capabilities.Basic
import MapContext.Context.Error
import MapContext.Host
import MapContext.Settings

/-!
# Why a command fails

A failure names what was attempted, and its cause where something else failed first.
-/

namespace MapContext

/-- Why a command fails. -/
inductive Failure where
  /-- A file cannot be read. -/
  | unreadable (path : String) (fault : FileFault)
  /-- A file cannot be written. -/
  | unwritable (path : String) (fault : FileFault)
  /-- A file is no context document. -/
  | invalidDocument (path : String) (cause : Context.Error)
  /-- A file is no capabilities document. -/
  | invalidCapabilities (path : String) (cause : Capabilities.Error)
  /-- An operation on the context fails. -/
  | context (cause : Context.Error)
  /-- A service does not answer as it should. -/
  | service (cause : ServiceError)
  /-- A capabilities document does not tell the address of its service. -/
  | noAddress (source : String)
  /-- There is no preferred reference system. -/
  | noPreferredCrs
  /-- A settings file cannot be used; without a fault its text is malformed. -/
  | unusableSettings (path : String) (fault : Option FileFault)
  /-- A setting has a bad value. -/
  | badSetting (value : Settings.BadValue)
  deriving DecidableEq

/-- A sentence about the failure, without its cause. -/
def Failure.message : Failure → String
  | .unreadable path _ => "Failed to read " ++ path
  | .unwritable path _ => "Failed to write " ++ path
  | .invalidDocument path _ => path ++ " is not a valid OWS Context document"
  | .invalidCapabilities path _ => "Failed to parse " ++ path
  | .context cause => cause.message
  | .service cause => cause.message
  | .noAddress source => source ++ " names no service URL, pass --href"
  | .noPreferredCrs => "active layers share no supported reference system"
  | .unusableSettings path _ => "Failed to load " ++ path
  | .badSetting value => value.message

end MapContext
