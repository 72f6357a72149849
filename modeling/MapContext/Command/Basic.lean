import MapContext.Position

/-!
# Commands

A command reads a context document. A report answers a question about it; an edit changes it and
sends it somewhere.
-/

namespace MapContext

/-- A question about a context. -/
inductive Report where
  /-- How many resources there are; that the document is valid follows from an answer. -/
  | summary
  /-- The layer tree, as JSON or as text. -/
  | tree (json : Bool)
  /-- The map requests for the active resources, as JSON or as addresses. -/
  | mapRequests (json : Bool)
  /-- The common reference systems, or only the preferred one. -/
  | referenceSystems (onlyPreferred : Bool)
  deriving DecidableEq

/-- A change of a context. -/
inductive Edit where
  /-- Moves a resource relative to another one. -/
  | move (source : String) (target : Option String) (position : Position)
  /-- Inserts an empty resource; without an identifier it gets a new one. -/
  | insert (title : String) (id target : Option String) (position : Position)
  /-- Removes a resource with all below it. -/
  | remove (id : String)
  /-- Switches a resource with all below it. -/
  | activate (id : String) (active : Bool)
  /-- Appends the layers of a service; the source is its address or a capabilities file. -/
  | append (source : String) (href : Option String)
  deriving DecidableEq

/-- Where an edited context goes. -/
inductive Destination where
  /-- To the output of the program. -/
  | output
  /-- Into the document that was read. -/
  | inPlace
  /-- Into another file. -/
  | file (path : String)
  deriving DecidableEq

/-- A command on the document at a path. -/
inductive Command where
  /-- Answers a question. -/
  | report (document : String) (r : Report)
  /-- Makes a change. -/
  | edit (document : String) (e : Edit) (destination : Destination)
  deriving DecidableEq

/-- The file into which an edited context is written, if it is written into one. -/
def Destination.path? (document : String) : Destination → Option String
  | .output => none
  | .inPlace => some document
  | .file path => some path

end MapContext
