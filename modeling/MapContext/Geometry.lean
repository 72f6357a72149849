import MapContext.BoundingBox

/-!
# Geometries

The shapes that a resource may have. In JSON the member `type` names the shape; it may stand
anywhere, so the other members are kept until it is known.
-/

namespace MapContext

/-- A place as longitude and latitude. -/
abbrev Point := Float × Float

/-- The shape of a resource. -/
inductive Geometry where
  /-- A single place. -/
  | point (place : Point)
  /-- A line through places. -/
  | line (through : List Point)
  /-- A polygon: its exterior ring, then the rings of its holes. -/
  | polygon (rings : List (List Point))
  deriving DecidableEq

namespace Geometry

/-- The polygon that covers a box. -/
def ofBox (b : BoundingBox) : Geometry := .polygon [b.ring]

/-- Coordinates that are equal as numbers. -/
def same : Geometry → Geometry → Bool
  | .point a, .point b => a == b
  | .line a, .line b => a == b
  | .polygon a, .polygon b => a == b
  | _, _ => false

instance : BEq Geometry := ⟨same⟩

/-- A place in JSON. -/
def pointJson (p : Point) : Json.Value :=
  .array [.ofFloat p.1, .ofFloat p.2]

/-- Places in JSON. -/
def pointsJson (ps : List Point) : Json.Value :=
  .array (ps.map pointJson)

/-- The name of the shape. -/
def kind : Geometry → String
  | .point _ => "Point"
  | .line _ => "LineString"
  | .polygon _ => "Polygon"

/-- The coordinates in JSON. -/
def coordinates : Geometry → Json.Value
  | .point p => pointJson p
  | .line ps => pointsJson ps
  | .polygon rings => .array (rings.map pointsJson)

/-- The shape in JSON. -/
def toJson (g : Geometry) : Json.Value :=
  .object [("type", .text g.kind), ("coordinates", g.coordinates)]

/-- Reads a place. -/
def decodePoint (t : Json.Tree) : Except Json.Error Point := do
  match ← Json.buffered 2 Json.float t with
  | [x, y] => return (x, y)
  | _ => .error .malformed

/-- Readers of coordinates by the name of the shape. -/
def readers : List (String × String × Json.Decoder Geometry) :=
  [("Point", "Point", fun t => (decodePoint t).map .point),
   ("LineString", "LineString", fun t => (Json.list decodePoint t).map .line),
   ("Polygon", "Polygon", fun t => (Json.list (Json.list decodePoint) t).map .polygon)]

/-- The reader that a name stands for. -/
def decodeKind : Json.Decoder (String × Json.Decoder Geometry)
  | .text s => Json.variant readers s
  | t => t.refuse "variant identifier"

/-- Checks that a value can be kept for later. -/
def keep (t : Json.Tree) : Except Json.Error Unit :=
  t.value.map fun _ => ()

/-- A shape whose members were met: its reader, and the coordinates. -/
structure Draft where
  /-- The reader, once the shape is named. -/
  reader : Option (String × Json.Decoder Geometry)
  /-- Values of the member `coordinates`. -/
  coordinates : List Json.Tree

/-- Reads the members of a shape. -/
def readMembers : Draft → List (Option String × Json.Tree) → Except Json.Error Draft
  | draft, [] => .ok draft
  | _, (none, _) :: _ => .error .malformed
  | draft, (some key, t) :: rest =>
    if key = "type" then
      match draft.reader with
      | some _ => .error (.mismatch "duplicate field `type`")
      | none => do
        let reader ← decodeKind t
        readMembers { draft with reader := some reader } rest
    else do
      keep t
      readMembers
        (if key = "coordinates" then
          { draft with coordinates := draft.coordinates ++ [t] } else draft) rest

/-- Reads a shape from an object, or from an array of its name and coordinates. -/
def decode (t : Json.Tree) : Except Json.Error Geometry :=
  match t with
  | .object members ending => do
    let draft ← readMembers ⟨none, []⟩ members
    match ending with
    | some p => .error p.error
    | none =>
      match draft.reader, draft.coordinates with
      | none, _ => .error (.mismatch "missing field `type`")
      | some _, [] => .error (.mismatch "missing field `coordinates`")
      | some (_, read), [t] => read t
      | some (_, read), t :: _ => do
        let _ ← read t
        .error (.mismatch "duplicate field `coordinates`")
  | .array [] ending => do
    ending.check
    .error (.mismatch "missing field `type`")
  | .array (t :: items) ending => do
    let (name, read) ← decodeKind t
    items.forM keep
    ending.check
    match items with
    | [] =>
      .error (.mismatch ("invalid length 0, expected struct variant Geometry::" ++ name
        ++ " with 1 element"))
    | [t] => read t
    | t :: _ => do
      let _ ← read t
      .error (.mismatch ("invalid length " ++ toString items.length
        ++ ", expected 1 element in sequence"))
  | t => t.refuse "internally tagged enum Geometry"

end Geometry

end MapContext
