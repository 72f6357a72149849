import MapContext.BoundingBox

/-!
# Layers of a service

A service describes its layers as a tree. A layer passes reference systems, styles and its extent
on to the layers inside it: reference systems of the outer layer come first, styles of the inner
layer come first, and an extent replaces that of the outer layer.
-/

namespace MapContext

/-- A layer of a service with the layers inside it. -/
structure Layer where
  /-- The name, if the layer can be requested. -/
  name : Option String := none
  /-- The displayed title. -/
  title : String := ""
  /-- A description. -/
  description : Option String := none
  /-- Codes of reference systems. -/
  crs : List String := []
  /-- The extent in degrees. -/
  bbox : Option BoundingBox := none
  /-- Names of styles. -/
  styles : List String := []
  /-- The least scale denominator of the display. -/
  minScale : Option Float := none
  /-- The greatest scale denominator of the display. -/
  maxScale : Option Float := none
  /-- Whether the layer answers queries. -/
  queryable : Bool := false
  /-- The layers inside. -/
  layers : List Layer := []

namespace Layer

mutual

/-- The number of layers, this one included. -/
def count : Layer → Nat
  | ⟨_, _, _, _, _, _, _, _, _, layers⟩ => countAll layers + 1
termination_by structural layer => layer

/-- The number of layers of several trees. -/
def countAll : List Layer → Nat
  | [] => 0
  | layer :: rest => count layer + countAll rest
termination_by structural layers => layers

end

mutual

/-- The layers in document order with their depths; the outermost one is at `depth`. -/
def preorderAt (depth : Nat) : Layer → List (Nat × Layer)
  | ⟨name, title, description, crs, bbox, styles, minScale, maxScale, queryable, layers⟩ =>
    (depth, ⟨name, title, description, crs, bbox, styles, minScale, maxScale, queryable, layers⟩)
      :: preorderAll (depth + 1) layers
termination_by structural layer => layer

/-- The layers of several trees in document order. -/
def preorderAll (depth : Nat) : List Layer → List (Nat × Layer)
  | [] => []
  | layer :: rest => preorderAt depth layer ++ preorderAll depth rest
termination_by structural layers => layers

end

/-- The layers in document order with their depths. -/
def preorder (layer : Layer) : List (Nat × Layer) := preorderAt 0 layer

/-- The first layer of a name in document order. -/
def find? (layer : Layer) (name : String) : Option Layer :=
  (layer.preorder.find? (·.2.name == some name)).map (·.2)

/-- Appends the members that are not there yet. -/
def addNew (known new : List String) : List String :=
  new.foldl (fun acc s => if acc.contains s then acc else acc ++ [s]) known

mutual

/-- Hands reference systems, extent and styles of the outer layers down. -/
def inherit (crs : List String) (bbox : Option BoundingBox) (styles : List String) :
    Layer → Layer
  | ⟨name, title, description, ownCrs, ownBox, ownStyles, minScale, maxScale, queryable,
      layers⟩ =>
    let crs := addNew crs ownCrs
    let bbox := ownBox.or bbox
    let styles := addNew ownStyles styles
    ⟨name, title, description, crs, bbox, styles, minScale, maxScale, queryable,
      inheritAll crs bbox styles layers⟩
termination_by structural layer => layer

/-- Hands down to several layers. -/
def inheritAll (crs : List String) (bbox : Option BoundingBox) (styles : List String) :
    List Layer → List Layer
  | [] => []
  | layer :: rest => inherit crs bbox styles layer :: inheritAll crs bbox styles rest
termination_by structural layers => layers

end

mutual

/-- Equality of layers; numbers are compared as numbers. -/
def same : Layer → Layer → Bool
  | ⟨name, title, description, crs, bbox, styles, minScale, maxScale, queryable, layers⟩, other =>
    name == other.name && title == other.title && description == other.description
      && crs == other.crs && bbox == other.bbox && styles == other.styles
      && minScale == other.minScale && maxScale == other.maxScale
      && queryable == other.queryable && sameAll layers other.layers
termination_by structural layer => layer

/-- Equality of lists of layers. -/
def sameAll : List Layer → List Layer → Bool
  | [], [] => true
  | a :: as, b :: bs => same a b && sameAll as bs
  | _, _ => false
termination_by structural layers => layers

end

instance : BEq Layer := ⟨same⟩

end Layer

end MapContext
