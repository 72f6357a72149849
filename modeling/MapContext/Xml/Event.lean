/-!
# XML events

A document is met as a sequence of events. Comments, declarations and instructions are no events.
A tag keeps its attributes up to the first defect, which only concerns those who look that far.
-/

namespace MapContext.Xml

/-- Why a document cannot be read further. -/
inductive Fault where
  /-- An end tag does not belong to the innermost open element. -/
  | mismatchedEnd
  /-- A comment, declaration or character section is not complete. -/
  | unexpectedEnd
  /-- The mark `<!` is followed by something unknown. -/
  | unexpectedBang
  /-- A document type is not named. -/
  | emptyDoctype
  /-- An entity is unknown or malformed. -/
  | badEntity
  deriving DecidableEq

/-- A sentence about the fault. -/
def Fault.message : Fault → String
  | .mismatchedEnd => "end tag does not match"
  | .unexpectedEnd => "unexpected end of document"
  | .unexpectedBang => "unknown declaration"
  | .emptyDoctype => "empty document type"
  | .badEntity => "invalid entity"

/-- What is wrong with an attribute. -/
inductive Defect where
  /-- A name without a value. -/
  | missingValue
  /-- A value without quotes. -/
  | unquoted
  /-- A value whose closing quote is missing. -/
  | unclosed
  /-- A name that stands twice. -/
  | duplicate
  /-- A value with an unknown or malformed entity. -/
  | badEntity
  deriving DecidableEq

/-- A sentence about the defect. -/
def Defect.message : Defect → String
  | .missingValue => "attribute has no value"
  | .unquoted => "attribute value is not quoted"
  | .unclosed => "attribute value has no closing quote"
  | .duplicate => "attribute stands twice"
  | .badEntity => "attribute value has an invalid entity"

/-- An attribute; its value is none if it has a bad entity. -/
structure Attribute where
  /-- The full name. -/
  name : String
  /-- The value with entities replaced. -/
  value : Option String
  deriving DecidableEq

/-- A start tag. -/
structure Tag where
  /-- The full name. -/
  name : String
  /-- The attributes up to the first defect. -/
  attributes : List Attribute
  /-- The defect after the attributes. -/
  defect : Option Defect
  deriving DecidableEq

/-- What is met in a document. -/
inductive Event where
  /-- An element begins. -/
  | start (tag : Tag)
  /-- An element begins and ends. -/
  | empty (tag : Tag)
  /-- The innermost open element ends. -/
  | finish
  /-- Text with entities replaced. -/
  | text (s : String)
  /-- A character section. -/
  | characters (s : String)
  deriving DecidableEq

/-- The events of a document, and the fault that ends them. -/
structure Stream where
  /-- Events in document order. -/
  events : List Event
  /-- Why there are no more, if the document is not at its end. -/
  fault : Option Fault
  deriving DecidableEq

/-- The name after the first colon, or the whole name. -/
def localName (name : String) : String :=
  let cs := name.toList
  if cs.contains ':' then String.ofList ((cs.dropWhile (· != ':')).drop 1) else name

/-- The local name of an element. -/
def Tag.localName (tag : Tag) : String := Xml.localName tag.name

/-- The value of the first attribute with a local name. A defect counts if it comes before the
attribute. -/
def Tag.attribute? (tag : Tag) (key : String) : Except Defect (Option String) :=
  match tag.attributes.find? (Xml.localName ·.name == key) with
  | some a =>
    match a.value with
    | some v => .ok (some v)
    | none => .error .badEntity
  | none =>
    match tag.defect with
    | some d => .error d
    | none => .ok none

end MapContext.Xml
