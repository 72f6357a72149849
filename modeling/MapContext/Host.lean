import MapContext.Url.Basic

/-!
# The surroundings of the program

Files, variables and services are reached through a host. What a command does is stated for every
host, so it can be run on a machine and on a model of one.
-/

namespace MapContext

/-- Why a file cannot be read or written. -/
inductive FileFault where
  /-- There is no such file, or no directory for it. -/
  | notFound
  /-- It is a directory. -/
  | isDirectory
  /-- A file stands where a directory is needed. -/
  | notDirectory
  /-- No file can have the name. -/
  | invalidName
  /-- The name or the path is too long. -/
  | nameTooLong
  /-- The content is no text. -/
  | notText
  /-- Access is denied. -/
  | denied
  /-- Any other reason. -/
  | other
  deriving DecidableEq

/-- A request to a service. -/
structure Request where
  /-- The address. -/
  url : Url
  /-- How the program calls itself. -/
  userAgent : String
  /-- How long the answer may take. -/
  timeoutSeconds : Nat
  deriving DecidableEq

/-- What becomes of a request. -/
inductive Reply where
  /-- An answer with its status and its text. -/
  | answer (status : Nat) (body : String)
  /-- An answer of which the text breaks off. -/
  | brokenOff (status : Nat) (reason : String)
  /-- No answer. -/
  | none (reason : String)
  deriving DecidableEq

/-- The reply where there is no network. -/
def Reply.unreachable : Reply :=
  .none "error trying to connect: tcp connect error: Network is unreachable (os error 101)"

/-- Access to the surroundings, with effects in `m`. -/
structure Host (m : Type → Type) where
  /-- Reads the text of a file. -/
  read : String → m (Except FileFault String)
  /-- Replaces the text of a file, or makes a new file. -/
  write : String → String → m (Except FileFault Unit)
  /-- The value of a variable. -/
  getVariable : String → m (Option String)
  /-- Sends a request. -/
  send : Request → m Reply

end MapContext
