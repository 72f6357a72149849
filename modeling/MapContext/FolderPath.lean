import MapContext.Text.Blank

/-!
# Folder paths

A folder path such as `/0/3/1` lists the sibling index of a resource at every depth, from its root
down to itself. Paths are never empty: whatever stands above the roots has no path, and an
optional parent is `none` there. Paths are ordered by their segments, so that a path stands before
everything below it.
-/

namespace MapContext

/-- The position of a resource in the layer tree. -/
structure FolderPath where
  /-- Sibling indices from the root down. -/
  segments : List Nat
  /-- There is at least one. -/
  nonempty : segments ≠ []
  deriving DecidableEq

namespace FolderPath

/-- The greatest sibling index that a path can be written with. -/
def maxIndex : Nat := 18446744073709551615

/-- The path of a root. -/
def root (index : Nat) : FolderPath := ⟨[index], by simp⟩

/-- The path of segments, if there is one. -/
def ofSegments? (segments : List Nat) : Option FolderPath :=
  if h : segments = [] then none else some ⟨segments, h⟩

/-- The number of segments after the first; zero for roots. -/
def depth (p : FolderPath) : Nat := p.segments.length - 1

/-- The index among siblings. -/
def index (p : FolderPath) : Nat := p.segments.getLast p.nonempty

/-- The sibling index of the ancestor, or the path itself, at a depth. -/
def segment? (p : FolderPath) (depth : Nat) : Option Nat := p.segments[depth]?

/-- A path of one segment. -/
def isRoot (p : FolderPath) : Bool := p.segments.length == 1

/-- The path without its last segment; roots have no parent. -/
def parent? (p : FolderPath) : Option FolderPath := ofSegments? p.segments.dropLast

/-- The path of the root above. -/
def rootPath (p : FolderPath) : FolderPath := root (p.segments.head p.nonempty)

/-- The path of a child. -/
def child (p : FolderPath) (index : Nat) : FolderPath := ⟨p.segments ++ [index], by simp⟩

/-- The segments of an optional parent. -/
def segmentsOf (parent : Option FolderPath) : List Nat :=
  match parent with
  | some p => p.segments
  | none => []

/-- The path of a child, or of a root if there is no parent. -/
def under (parent : Option FolderPath) (index : Nat) : FolderPath :=
  ⟨segmentsOf parent ++ [index], by simp⟩

/-- The path with the segment at a depth exchanged. -/
def withSegment (p : FolderPath) (depth value : Nat) : FolderPath :=
  ⟨p.segments.set depth value, by simp [p.nonempty]⟩

/-- The sibling at an index. -/
def withIndex (p : FolderPath) (index : Nat) : FolderPath := p.withSegment p.depth index

/-- The ancestor, or the path itself, at a depth. -/
def upTo (p : FolderPath) (depth : Nat) : FolderPath :=
  ⟨p.segments.take (depth + 1), by simp [p.nonempty]⟩

/-- The ancestors from the parent up to the root. -/
def ancestors (p : FolderPath) : List FolderPath :=
  ((List.range p.depth).map p.upTo).reverse

/-- The path that follows in document order at a depth: the first child at a greater depth,
otherwise the next sibling of the ancestor, or of the path itself, at that depth. -/
def successorAt (p : FolderPath) (depth : Nat) : FolderPath :=
  match p.segments[depth]? with
  | some i => ⟨p.segments.take depth ++ [i + 1], by simp⟩
  | none => p.child 0

/-- Segments appended below a parent or at the top; there is no path without segments. -/
def join? (parent : Option FolderPath) (relative : List Nat) : Option FolderPath :=
  ofSegments? (segmentsOf parent ++ relative)

/-- Whether `above` is the path or one of its ancestors. -/
def startsWith (p above : FolderPath) : Bool := above.segments.isPrefixOf p.segments

/-- Whether the path is a proper ancestor. -/
def isAncestorOf (p other : FolderPath) : Bool :=
  p.segments.length < other.segments.length && p.segments.isPrefixOf other.segments

/-- Whether the path is a proper descendant. -/
def isDescendantOf (p other : FolderPath) : Bool := other.isAncestorOf p

/-- The segments below an ancestor or the path itself. -/
def relativeTo? (p above : FolderPath) : Option (List Nat) :=
  if p.startsWith above then some (p.segments.drop above.segments.length) else none

instance : LT FolderPath := ⟨fun a b => a.segments < b.segments⟩

instance : LE FolderPath := ⟨fun a b => ¬b < a⟩

instance (a b : FolderPath) : Decidable (a < b) :=
  inferInstanceAs (Decidable (a.segments < b.segments))

instance (a b : FolderPath) : Decidable (a ≤ b) :=
  inferInstanceAs (Decidable (¬b < a))

/-- The order of two paths. -/
def order (a b : FolderPath) : Ordering :=
  if a < b then .lt else if a = b then .eq else .gt

/-- Paths in ascending order; equal ones keep their places. -/
def sort (paths : List FolderPath) : List FolderPath :=
  paths.mergeSort fun a b => decide (a ≤ b)

/-- The path as text. -/
def display (p : FolderPath) : String :=
  String.join (p.segments.map fun segment => "/" ++ toString segment)

instance : ToString FolderPath := ⟨display⟩

/-- Why a text is no path. -/
inductive Error where
  /-- The text is empty. -/
  | empty
  /-- The first character is no slash. -/
  | missingSlash (text : String)
  /-- A segment is no number, or greater than the greatest index. -/
  | badSegment (text segment : String)
  deriving DecidableEq

/-- A sentence about the error. -/
def Error.message : Error → String
  | .empty => "Folder path is empty"
  | .missingSlash text => "Folder path '" ++ text ++ "' must start with '/'"
  | .badSegment text segment =>
    "Folder path '" ++ text ++ "' has an invalid segment '" ++ segment ++ "'"

/-- The index written by a segment: one or more ASCII digits. -/
def readSegment? (cs : List Char) : Option Nat :=
  if cs.isEmpty || !cs.all Char.isDigit then none
  else
    let n := Text.digitsValue cs
    if n ≤ maxIndex then some n else none

/-- The indices written by segments, or the first segment that is none. -/
def readSegments : List (List Char) → Except (List Char) (List Nat)
  | [] => .ok []
  | cs :: rest =>
    match readSegment? cs with
    | none => .error cs
    | some n => (readSegments rest).map (n :: ·)

/-- Reads a path. -/
def read (text : String) : Except Error FolderPath :=
  match text.toList with
  | [] => .error .empty
  | c :: cs =>
    if c = '/' then
      match readSegments (Text.pieces (· == '/') cs) with
      | .error segment => .error (.badSegment text (String.ofList segment))
      | .ok segments =>
        match ofSegments? segments with
        | some p => .ok p
        | none => .error .empty
    else .error (.missingSlash text)

/-- The parent of a path given as text; roots and other texts have none. -/
def parentOfText? (text : String) : Option String :=
  (read text).toOption.bind fun p => p.parent?.map display

/-- The index of a path given as text. -/
def indexOfText? (text : String) : Option Nat :=
  (read text).toOption.map index

/-- The depth of a path given as text. -/
def depthOfText? (text : String) : Option Nat :=
  (read text).toOption.map depth

/-- Whether both texts are paths and `ancestor` is properly above `descendant`. -/
def isDescendantText (ancestor descendant : String) : Bool :=
  match read ancestor, read descendant with
  | .ok a, .ok d => a.isAncestorOf d
  | _, _ => false

end FolderPath

end MapContext
