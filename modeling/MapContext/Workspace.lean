import MapContext.Host
import MapContext.Text.Blank

/-!
# A directory of text files

A model of the surroundings: the files of one directory without subdirectories, the variables that
are set, and a network in which no service can be reached.
-/

namespace MapContext

/-- The files of a directory and the variables that are set. -/
structure Workspace where
  /-- The names of files with their texts. -/
  files : List (String × String)
  /-- The values of variables. -/
  environment : List (String × String)
  deriving DecidableEq

namespace Workspace

/-- The text of the file with a name. -/
def file? (w : Workspace) (name : String) : Option String :=
  w.files.lookup name

/-- Replaces the text of the file with a name, or adds it. -/
def put (name text : String) : List (String × String) → List (String × String)
  | [] => [(name, text)]
  | (n, t) :: rest => if n = name then (n, text) :: rest else (n, t) :: put name text rest

/-! ## Paths -/

/-- The most bytes of a name. -/
def longestName : Nat := 255

/-- The most bytes of a path. -/
def longestPath : Nat := 4095

/-- What a path leads to. -/
inductive Place where
  /-- The directory itself or one above it. -/
  | directory
  /-- A name in the directory itself, or in one above it. -/
  | entry (inside : Bool) (name : String)
  deriving DecidableEq

/-- Follows the names of a path. All but the last one have to be directories, and no directory
above holds anything else that is known. -/
def follow (w : Workspace) (inside : Bool) : List String → Except FileFault Place
  | [] => .ok .directory
  | name :: rest =>
    if name = "." then follow w inside rest
    else if name = ".." then follow w false rest
    else if rest.isEmpty then .ok (.entry inside name)
    else if longestName < name.utf8ByteSize then .error .nameTooLong
    else .error (if inside && (w.file? name).isSome then .notDirectory else .notFound)

/-- Where a path leads. Empty parts do not count. -/
def place (w : Workspace) (path : String) : Except FileFault Place :=
  if path.toList.contains '\u0000' then .error .invalidName
  else if path.isEmpty then .error .notFound
  else if longestPath < path.utf8ByteSize then .error .nameTooLong
  else
    follow w (path.toList.head? != some '/') ((Text.splitAtChar '/' path).filter (!·.isEmpty))

/-- Whether a path asks for a directory. -/
def endsInSlash (path : String) : Bool := path.toList.getLast? == some '/'

/-- Reads the text of a file. -/
def read (w : Workspace) (path : String) : Except FileFault String := do
  match ← w.place path with
  | .directory => throw .isDirectory
  | .entry inside name =>
    if longestName < name.utf8ByteSize then throw .nameTooLong
    else match if inside then w.file? name else none with
      | some text => if endsInSlash path then throw .notDirectory else return text
      | none => throw .notFound

/-- Replaces the text of a file, or makes a new file. -/
def write (w : Workspace) (path text : String) : Except FileFault Workspace := do
  match ← w.place path with
  | .directory => throw .isDirectory
  | .entry inside name =>
    if endsInSlash path then throw .isDirectory
    else if longestName < name.utf8ByteSize then throw .nameTooLong
    else if inside then return { w with files := put name text w.files }
    else throw .notFound

/-- A directory as surroundings; nothing but a successful write changes it. -/
def host : Host (StateM Workspace) where
  read path := fun w => (w.read path, w)
  write path text := fun w =>
    match w.write path text with
    | .ok w' => (.ok (), w')
    | .error e => (.error e, w)
  getVariable name := fun w => (w.environment.lookup name, w)
  send _ := fun w => (.unreachable, w)

end Workspace

end MapContext
