import MapContext.Capabilities.Reading
import MapContext.Proofs.Text.Words
import MapContext.Proofs.Xml.Document

/-!
# Written layers

How a tree of layers is written in a capabilities document. A layer is an element; what it has to
say stands inside it in any order, field by field, with the elements of the layers inside it
between them and with elements of other kinds anywhere. The codes of reference systems are spread
over any number of elements.

An element of another kind may have any name that means nothing where the element stands, and so
may the elements inside it: a title inside a style says nothing about the layer.
-/

namespace MapContext

namespace Layer

mutual

/-- The layers with their codes in canonical spelling, each code once and where it first stood. -/
def canonical : Layer → Layer
  | ⟨name, title, description, crs, bbox, styles, minScale, maxScale, queryable, layers⟩ =>
    ⟨name, title, description, (crs.map Crs.normalize).eraseDups, bbox, styles, minScale, maxScale,
      queryable, canonicalAll layers⟩
termination_by structural layer => layer

/-- Several trees with their codes in canonical spelling. -/
def canonicalAll : List Layer → List Layer
  | [] => []
  | layer :: rest => canonical layer :: canonicalAll rest
termination_by structural layers => layers

end

end Layer

namespace Capabilities.Written

open Xml

/-! ### Elements without a meaning -/

/-- Names that mean something wherever they stand. -/
def telling : List String :=
  ["Layer", "EX_GeographicBoundingBox", "ServiceException", "ExceptionText"]

/-- Names that mean something directly inside an element. -/
def tellingIn : String → List String
  | "Layer" =>
    ["Name", "Title", "Abstract", "CRS", "SRS", "LatLonBoundingBox", "MinScaleDenominator",
      "MaxScaleDenominator"]
  | "Style" => ["Name"]
  | "EX_GeographicBoundingBox" =>
    ["westBoundLongitude", "eastBoundLongitude", "southBoundLatitude", "northBoundLatitude"]
  | _ => []

/-- A tag that says nothing about layers inside an element named `parent`. An address of the
service has to be readable. -/
def isIdle (parent : String) (tag : Tag) : Bool :=
  !telling.contains tag.localName && !(tellingIn parent).contains tag.localName
    && (tag.localName != "OnlineResource" || (tag.attribute? "href").isOk)

mutual

/-- Content inside an element named `parent` that says nothing about layers, with all that stands
in it. -/
def isQuiet (parent : String) : Piece → Bool
  | .text _ => true
  | .characters _ => true
  | .empty tag => isIdle parent tag
  | .element tag content => isIdle parent tag && areQuiet tag.localName content
termination_by structural piece => piece

/-- Several pieces of content that say nothing about layers. -/
def areQuiet (parent : String) : List Piece → Bool
  | [] => true
  | piece :: rest => isQuiet parent piece && areQuiet parent rest
termination_by structural pieces => pieces

end

/-! ### Fields of a layer -/

/-- The element has a name and a text; blanks around the text do not count. -/
def Says (piece : Piece) (name value : String) : Prop :=
  ∃ tag content text, piece.asElement? = some (tag, content) ∧ tag.localName = name ∧
    Piece.plainText? content = some text ∧ Text.trim text = value

/-- The text denotes a number. -/
def Denotes (value : String) (x : Float) : Prop :=
  Decimal.read? (Text.trim value) = some x

/-- The element has a name and denotes a number. -/
def Measures (piece : Piece) (name : String) (x : Float) : Prop :=
  ∃ value, Says piece name value ∧ Denotes value x

/-- The element lists codes of reference systems. -/
def Lists (piece : Piece) (codes : List String) : Prop :=
  ∃ value, (Says piece "CRS" value ∨ Says piece "SRS" value) ∧ Text.Spaced codes value.toList

/-- The names in the content of a style. -/
inductive StyleNames : List Piece → List String → Prop
  | nothing : StyleNames [] []
  | name {content : List Piece} {names : List String} {piece : Piece} {value : String} :
      StyleNames content names → Says piece "Name" value →
      StyleNames (content ++ [piece]) (names ++ [value])
  | other {content : List Piece} {names : List String} {piece : Piece} :
      StyleNames content names → isQuiet "Style" piece = true →
      StyleNames (content ++ [piece]) names

/-- A side of a bounding box. -/
inductive Side where
  | west
  | east
  | south
  | north

/-- The name of the element for a side. -/
def Side.element : Side → String
  | .west => "westBoundLongitude"
  | .east => "eastBoundLongitude"
  | .south => "southBoundLatitude"
  | .north => "northBoundLatitude"

/-- Puts the edge at a side. -/
def Side.put (x : Float) (b : PartialBox) : Side → PartialBox
  | .west => { b with west := some x }
  | .east => { b with east := some x }
  | .south => { b with south := some x }
  | .north => { b with north := some x }

/-- The edges in the content of a bounding box, in any order. -/
inductive Edges : List Piece → PartialBox → Prop
  | nothing : Edges [] {}
  | edge {content : List Piece} {b : PartialBox} {piece : Piece} {x : Float} (side : Side) :
      Edges content b → Measures piece side.element x → Edges (content ++ [piece]) (side.put x b)
  | other {content : List Piece} {b : PartialBox} {piece : Piece} :
      Edges content b → isQuiet "EX_GeographicBoundingBox" piece = true →
      Edges (content ++ [piece]) b

/-- An attribute denotes a number. -/
def HasEdge (tag : Tag) (key : String) (x : Float) : Prop :=
  ∃ value, tag.attribute? key = .ok (some value) ∧ Denotes value x

/-- The element bounds a layer: by an element for each edge or by attributes. -/
inductive Bounds (piece : Piece) : BoundingBox → Prop
  | edges {tag : Tag} {content : List Piece} {west south east north : Float} :
      piece.asElement? = some (tag, content) → tag.localName = "EX_GeographicBoundingBox" →
      Edges content ⟨some west, some east, some south, some north⟩ →
      Bounds piece ⟨west, south, east, north⟩
  | attributes {tag : Tag} {content : List Piece} {west south east north : Float} :
      piece.asElement? = some (tag, content) → tag.localName = "LatLonBoundingBox" →
      areQuiet "LatLonBoundingBox" content = true →
      HasEdge tag "minx" west → HasEdge tag "miny" south →
      HasEdge tag "maxx" east → HasEdge tag "maxy" north →
      Bounds piece ⟨west, south, east, north⟩

/-- What a piece of the content of a layer says about it, the layers inside apart. Should a field be
told more than once, the last time counts. -/
inductive Field (piece : Piece) : (Layer → Layer) → Prop
  | name {value : String} : Says piece "Name" value →
      Field piece fun l => { l with name := some value }
  | title {value : String} : Says piece "Title" value →
      Field piece fun l => { l with title := value }
  | description {value : String} : Says piece "Abstract" value →
      Field piece fun l => { l with description := some value }
  | codes {codes : List String} : Lists piece codes →
      Field piece fun l => { l with crs := l.crs ++ codes }
  | style {tag : Tag} {content : List Piece} {names : List String} :
      piece.asElement? = some (tag, content) → tag.localName = "Style" →
      StyleNames content names → Field piece fun l => { l with styles := l.styles ++ names }
  | bounds {box : BoundingBox} : Bounds piece box →
      Field piece fun l => { l with bbox := some box }
  | minScale {x : Float} : Measures piece "MinScaleDenominator" x →
      Field piece fun l => { l with minScale := some x }
  | maxScale {x : Float} : Measures piece "MaxScaleDenominator" x →
      Field piece fun l => { l with maxScale := some x }
  | other : isQuiet "Layer" piece = true → Field piece id

/-- Whether a tag announces that the layer answers queries. -/
def Answers (tag : Tag) (queryable : Bool) : Prop :=
  ∃ value, tag.attribute? "queryable" = .ok value ∧
    queryable = value.any fun v => v == "1" || Text.sameIgnoringCase v "true"

mutual

/-- The element describes a layer with the layers inside it. -/
inductive Describes : Piece → Layer → Prop
  | layer {piece : Piece} {tag : Tag} {content : List Piece} {layer : Layer} {queryable : Bool} :
      piece.asElement? = some (tag, content) → tag.localName = "Layer" → Answers tag queryable →
      Tells content layer → Describes piece { layer with queryable }

/-- The content of a layer tells its fields, in any order, and the layers inside it, in the order
of their elements. -/
inductive Tells : List Piece → Layer → Prop
  | nothing : Tells [] {}
  | field {content : List Piece} {layer : Layer} {piece : Piece} {f : Layer → Layer} :
      Tells content layer → Field piece f → Tells (content ++ [piece]) (f layer)
  | inner {content : List Piece} {layer inner : Layer} {piece : Piece} :
      Tells content layer → Describes piece inner →
      Tells (content ++ [piece]) { layer with layers := layer.layers ++ [inner] }

end

/-! ### Documents -/

/-- An element with another element inside, and nothing about layers beside it. -/
def Encloses (tag : Tag) (outer inner : Piece) : Prop :=
  ∃ before after, outer = .element tag (before ++ inner :: after) ∧
    areQuiet tag.localName before = true ∧ areQuiet tag.localName after = true

/-- A document of either protocol version publishes a tree of layers. -/
def Publishes (document : Piece) (layer : Layer) : Prop :=
  ∃ root capability part element,
    (root.localName = "WMS_Capabilities" ∨ root.localName = "WMT_MS_Capabilities") ∧
    (root.attribute? "version").isOk = true ∧ Encloses root document part ∧
    capability.localName = "Capability" ∧ Encloses capability part element ∧
    Describes element layer

end Capabilities.Written

end MapContext
