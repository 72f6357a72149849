import MapContext.FolderPath
import MapContext.Json.Decode
import MapContext.ServiceError
import MapContext.Url.Basic

/-!
# Errors of context operations

Every error names its cause; the wording is in one place.
-/

namespace MapContext.Context

/-- Why a folder cannot follow another one in document order. -/
inductive StructureFault where
  /-- The first folder is not the first root. -/
  | firstNotRoot
  /-- The folder is more than one level deeper. -/
  | skipsLevel (previous : FolderPath)
  /-- The folder lies elsewhere in the tree. -/
  | outOfOrder (previous : FolderPath)
  /-- The first child has an index other than zero. -/
  | firstChildIndex (parent : FolderPath)
  /-- The folder does not come after the other one. -/
  | notAfter (previous : FolderPath)
  /-- A sibling is missing in between. -/
  | siblingGap (previous : FolderPath)
  deriving DecidableEq

/-- The fault in words. -/
def StructureFault.message : StructureFault → String
  | .firstNotRoot => "first resource must be /0"
  | .skipsLevel p => "skips a depth level after " ++ p.display
  | .outOfOrder p => "out of pre-order after " ++ p.display
  | .firstChildIndex p => "first child of " ++ p.display ++ " must have index 0"
  | .notAfter p => "not after " ++ p.display ++ " in sibling order"
  | .siblingGap p => "sibling index gap after " ++ p.display

/-- Why resources cannot be renumbered. -/
inductive SubtreeFault where
  /-- A folder is above the first one. -/
  | aboveFirst (folder : FolderPath)
  /-- A folder is more than one level deeper than the one before. -/
  | skipsLevel (folder : FolderPath)
  deriving DecidableEq

/-- The fault in words. -/
def SubtreeFault.message : SubtreeFault → String
  | .aboveFirst p => p.display ++ " is above the first resource's depth"
  | .skipsLevel p => p.display ++ " skips a depth level"

/-- Why a document is no context. -/
inductive DocumentFault where
  /-- The document has another type. -/
  | documentKind (kind : String)
  /-- A resource has another type. -/
  | resourceKind (id kind : String)
  deriving DecidableEq

/-- The fault in words. -/
def DocumentFault.message : DocumentFault → String
  | .documentKind kind => "expected type FeatureCollection, got '" ++ kind ++ "'"
  | .resourceKind id kind =>
    "resource " ++ id ++ " has type '" ++ kind ++ "', expected Feature"

/-- Why an operation on a context fails. -/
inductive Error where
  /-- A text is no folder path. -/
  | folderPath (e : FolderPath.Error)
  /-- The order of the resources describes no tree. -/
  | invalidStructure (index : Nat) (folder : FolderPath) (fault : StructureFault)
  /-- A resource stands before its parent. -/
  | parentNotFound (index : Nat) (folder parent : FolderPath)
  /-- Resources cannot be renumbered. -/
  | invalidSubtree (offset : Nat) (fault : SubtreeFault)
  /-- A resource is unknown. -/
  | resourceNotFound (id : String)
  /-- Two resources share an identifier. -/
  | duplicateId (id : String)
  /-- The target of a move is inside of what is moved. -/
  | moveIntoOwnSubtree (moved target : String)
  /-- A text is no address. -/
  | invalidUrl (href : String) (e : Url.Error)
  /-- A document is no context. -/
  | invalidDocument (fault : DocumentFault)
  /-- A text is not the JSON of a context. -/
  | json (e : Json.Error)
  deriving DecidableEq

/-- A sentence about the error. -/
def Error.message : Error → String
  | .folderPath e => "Invalid folder path: " ++ e.message
  | .invalidStructure index folder fault =>
    "Invalid folder structure at index " ++ toString index ++ " (" ++ folder.display ++ "): "
      ++ fault.message
  | .parentNotFound index folder parent =>
    "Parent " ++ parent.display ++ " of " ++ folder.display ++ " (index " ++ toString index
      ++ ") not found"
  | .invalidSubtree offset fault =>
    "Invalid subtree at offset " ++ toString offset ++ ": " ++ fault.message
  | .resourceNotFound id => "Resource not found: " ++ id
  | .duplicateId id => "Duplicate resource id: " ++ id
  | .moveIntoOwnSubtree moved target =>
    "Cannot move " ++ moved ++ " below " ++ target ++ ": target is inside the moved subtree"
  | .invalidUrl href e => "Invalid URL '" ++ href ++ "': " ++ e.message
  | .invalidDocument fault => "Invalid context document: " ++ fault.message
  | .json e => "JSON error: " ++ e.message

/-- The error as one of a service. -/
def Error.toService : Error → ServiceError
  | .resourceNotFound id => .layerNotFound id
  | .invalidUrl href e => .invalidParameter "href" (href ++ ": " ++ e.message)
  | e => .invalidContext e.message

end MapContext.Context
