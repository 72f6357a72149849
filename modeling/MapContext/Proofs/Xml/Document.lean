import MapContext.Xml.Event

/-!
# Documents as trees

The pieces of a document are texts and elements, and an element has content of its own. The events
of a document are those of its pieces in order; an element without content may be a single tag.
-/

namespace MapContext.Xml

/-- A piece of a document. -/
inductive Piece where
  /-- Text with entities replaced. -/
  | text (s : String)
  /-- A character section. -/
  | characters (s : String)
  /-- An element that is a single tag. -/
  | empty (tag : Tag)
  /-- An element with a start tag, content and an end tag. -/
  | element (tag : Tag) (content : List Piece)

namespace Piece

mutual

/-- The events of a piece of a document. -/
def events : Piece → List Event
  | .text s => [.text s]
  | .characters s => [.characters s]
  | .empty tag => [.empty tag]
  | .element tag content => .start tag :: (eventsAll content ++ [.finish])
termination_by structural piece => piece

/-- The events of several pieces. -/
def eventsAll : List Piece → List Event
  | [] => []
  | piece :: rest => events piece ++ eventsAll rest
termination_by structural pieces => pieces

end

/-- The tag and the content of an element in either form. -/
def asElement? : Piece → Option (Tag × List Piece)
  | .empty tag => some (tag, [])
  | .element tag content => some (tag, content)
  | _ => none

/-- The text of content without elements. -/
def plainText? : List Piece → Option String
  | [] => some ""
  | .text s :: rest => (plainText? rest).map (s ++ ·)
  | .characters s :: rest => (plainText? rest).map (s ++ ·)
  | _ :: _ => none

theorem eventsAll_append (pieces others : List Piece) :
    eventsAll (pieces ++ others) = eventsAll pieces ++ eventsAll others := by
  induction pieces with
  | nil => rfl
  | cons piece pieces ih => simp [eventsAll, ih]

end Piece

end MapContext.Xml
