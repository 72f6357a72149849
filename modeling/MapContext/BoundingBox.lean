import MapContext.Json.Decode

/-!
# Bounding boxes

A box is given by its corners and written as `[minX, minY, maxX, maxY]`.
-/

namespace MapContext

/-- A geographic or projected bounding box. -/
structure BoundingBox where
  /-- Western or left edge. -/
  minX : Float
  /-- Southern or lower edge. -/
  minY : Float
  /-- Eastern or right edge. -/
  maxX : Float
  /-- Northern or upper edge. -/
  maxY : Float
  deriving DecidableEq

namespace BoundingBox

/-- The smaller of two numbers; a NaN gives way to the other one, and of two equal numbers the
first is taken. -/
def lesser (a b : Float) : Float :=
  if a.isNaN then b else if b < a then b else a

/-- The greater of two numbers, with the same conventions. -/
def greater (a b : Float) : Float :=
  if a.isNaN then b else if a < b then b else a

/-- The smallest box that covers both boxes. -/
def union (a b : BoundingBox) : BoundingBox :=
  ⟨lesser a.minX b.minX, lesser a.minY b.minY, greater a.maxX b.maxX, greater a.maxY b.maxY⟩

/-- The exterior ring, counter-clockwise and closed. -/
def ring (b : BoundingBox) : List (Float × Float) :=
  [(b.minX, b.minY), (b.maxX, b.minY), (b.maxX, b.maxY), (b.minX, b.maxY), (b.minX, b.minY)]

/-- Edges that are equal as numbers. -/
def same (a b : BoundingBox) : Bool :=
  a.minX == b.minX && a.minY == b.minY && a.maxX == b.maxX && a.maxY == b.maxY

instance : BEq BoundingBox := ⟨same⟩

/-- The box as a JSON array. -/
def toJson (b : BoundingBox) : Json.Value :=
  .array ([b.minX, b.minY, b.maxX, b.maxY].map Json.Value.ofFloat)

/-- Reads a box from an array of four numbers. -/
def decode (t : Json.Tree) : Except Json.Error BoundingBox := do
  match ← Json.fixed 4 Json.float t with
  | [minX, minY, maxX, maxY] => return ⟨minX, minY, maxX, maxY⟩
  | _ => .error .malformed

end BoundingBox

end MapContext
