import MapContext.Json.Decode

/-!
# Positions relative to a target

A resource lands beside its target or below it.
-/

namespace MapContext

/-- Where a moved or inserted resource lands relative to its target. -/
inductive Position where
  /-- Immediately before the target, as its sibling. -/
  | left
  /-- Immediately after the target, as its sibling. -/
  | right
  /-- Below the target, before its children. -/
  | firstChild
  /-- Below the target, after its children. -/
  | lastChild
  deriving DecidableEq

namespace Position

/-- All positions. -/
def all : List Position := [.left, .right, .firstChild, .lastChild]

/-- The name of a position. -/
def name : Position → String
  | .left => "left"
  | .right => "right"
  | .firstChild => "firstChild"
  | .lastChild => "lastChild"

/-- Reads a position in any case, with hyphens and underscores anywhere. -/
def read? (text : String) : Option Position :=
  let letters := (text.toList.map Char.toLower).filter fun c => c != '-' && c != '_'
  all.find? fun p => p.name.toList.map Char.toLower == letters

/-- A sentence about a text that is no position. -/
def unknown (text : String) : String :=
  "unknown position '" ++ text ++ "', expected left, right, first-child or last-child"

/-- Reads a position from a JSON string with its exact name. -/
def decode (t : Json.Tree) : Except Json.Error Position :=
  match t with
  | .text s => Json.variant (all.map fun p => (p.name, p)) s
  | t => t.refuse "enum Position"

end Position

end MapContext
