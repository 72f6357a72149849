import MapContext.Command.Answer
import MapContext.Context.Activation
import MapContext.Context.Append
import MapContext.Context.Document
import MapContext.Context.Edit
import MapContext.Remote

/-!
# Running commands

A command reads everything it needs, then computes its result, and writes at most one file as its
last step.
-/

namespace MapContext

variable {m : Type → Type} [Monad m]

/-- Reads a file as something, with a failure for each thing that can go wrong. -/
def Host.readAs {ε α : Type} (host : Host m) (path : String) (read : String → Except ε α)
    (failure : ε → Failure) : ExceptT Failure m α := do
  match ← host.read path with
  | .error fault => throw (.unreadable path fault)
  | .ok text =>
    match read text with
    | .ok a => return a
    | .error e => throw (failure e)

/-- Reads a context document. -/
def Host.readContext (host : Host m) (path : String) : ExceptT Failure m Context :=
  host.readAs path Context.read (.invalidDocument path)

/-- Reads a capabilities document. -/
def Host.readCapabilities (host : Host m) (path : String) : ExceptT Failure m Capabilities :=
  host.readAs path Capabilities.read (.invalidCapabilities path)

/-- The address under which the service of a capabilities file is recorded: the given one, or else
one that the document tells. -/
def recordedAddress (source : String) (given : Option String) (c : Capabilities) :
    Except Failure String :=
  match given.or (c.capabilitiesHref.or c.mapHref) with
  | some href => .ok href
  | none => .error (.noAddress source)

/-- The capabilities of a source, with the address under which its service is recorded. -/
def Host.service (host : Host m) (settings : Settings) (source : String)
    (given : Option String) : ExceptT Failure m (String × Capabilities) := do
  if Remote.isAddress source then
    let received ← (Remote.capabilities host settings source : m _)
    match received with
    | .ok c => return (given.getD source, c)
    | .error e => throw (.service e)
  else
    let c ← host.readCapabilities source
    let href ← recordedAddress source given c
    return (href, c)

/-- Makes a change to a context. Nobody else has the context that a command has read, so an append
does without an announcement. -/
def Edit.apply (host : Host m) (settings : Settings) (fresh : Nat → Resource.Id)
    (c : Context) : Edit → ExceptT Failure m Context
  | .move source target position => do
    let (c, _) ← Failure.ofContext (c.move source target position)
    return c
  | .insert title id target position => do
    let r := Resource.new (id.getD (fresh 0)) (.root 0) title
    Failure.ofContext (c.insert target r position)
  | .remove id => do
    let (c, _) ← Failure.ofContext (c.remove id)
    return c
  | .activate id active => Failure.ofContext (c.activate id active)
  | .append source href => do
    let (href, capabilities) ← host.service settings source href
    let (c, _) ← Failure.ofContext (c.append href capabilities fresh)
    return c

/-- Sends the text of a context to its destination; gives what is left to print. -/
def Destination.send (host : Host m) (document text : String) (d : Destination) :
    ExceptT Failure m String := do
  match d.path? document with
  | none => return text
  | some path =>
    match ← host.write path text with
    | .ok () => return ""
    | .error fault => throw (.unwritable path fault)

/-- Runs a command; gives what is to be printed. -/
def Command.run (host : Host m) (settings : Settings) (fresh : Nat → Resource.Id) :
    Command → ExceptT Failure m String
  | .report document r => do
    let c ← host.readContext document
    r.answer document c
  | .edit document e destination => do
    let c ← host.readContext document
    let c ← e.apply host settings fresh c
    destination.send host document c.text

end MapContext
