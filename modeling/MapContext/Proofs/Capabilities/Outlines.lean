import MapContext.Proofs.Capabilities.Inheritance
import MapContext.Proofs.Capabilities.Written

/-!
# Elements as they are met

Events are retold as elements with what has ended in them so far, without a look at the reading of
capabilities: whatever stands where, an element knows what was told directly inside it and, if it is
a Layer element, which Layer elements ended in it with none between. A layer is the record of a
Layer element if it has the fields that were told there, and the records of those inside.
-/

namespace MapContext.Capabilities

open Xml

/-! ### Elements as they are met -/

/-- An element with what has ended in it so far. -/
structure Outline where
  /-- The tag. -/
  tag : Tag
  /-- Names and texts of the elements directly inside, in the order in which they ended. -/
  told : List (String × String) := []
  /-- If this is a Layer element, the Layer elements inside it with none between. -/
  inner : List Outline := []

namespace Outline

/-- The name of the element. -/
def name (o : Outline) : String := o.tag.localName

/-- Whether this is a Layer element. -/
def isLayer (o : Outline) : Bool := o.name == "Layer"

/-- One more element has ended directly inside. -/
def tell (o : Outline) (name text : String) : Outline := { o with told := o.told ++ [(name, text)] }

/-- The innermost Layer element has one more inside. -/
def hang (ended : Outline) : List Outline → List Outline
  | [] => []
  | o :: around =>
    if o.isLayer then { o with inner := o.inner ++ [ended] } :: around else o :: hang ended around

/-- The text of the last element of a name directly inside. -/
def last? (o : Outline) (name : String) : Option String :=
  (o.told.reverse.find? (·.1 == name)).map (·.2)

/-- The codes of reference systems told directly inside. -/
def codes (o : Outline) : List String :=
  (o.told.filter fun t => t.1 == "CRS" || t.1 == "SRS").flatMap fun t =>
    (Text.words t.2).map Crs.normalize

/-- A layer has the fields that its element told: its own tag announced whether it answers queries,
and the others come from the elements directly inside. Extent and styles are left open. -/
structure Fields (o : Outline) (layer : Layer) : Prop where
  /-- Whether it answers queries. -/
  queryable : Written.Answers o.tag layer.queryable
  /-- The last name. -/
  name : layer.name = o.last? "Name"
  /-- The last title. -/
  title : layer.title = (o.last? "Title").getD ""
  /-- The last description. -/
  description : layer.description = o.last? "Abstract"
  /-- All codes, each once and where it first stood. -/
  crs : layer.crs = o.codes.eraseDups
  /-- The last least scale denominator. -/
  minScale : layer.minScale = (o.last? "MinScaleDenominator").bind fun s =>
    Decimal.read? (Text.trim s)
  /-- The last greatest scale denominator. -/
  maxScale : layer.maxScale = (o.last? "MaxScaleDenominator").bind fun s =>
    Decimal.read? (Text.trim s)

end Outline

/-- The layer is the record of a Layer element: it has the fields of the element, and the layers
inside it are the records of the Layer elements inside. -/
inductive Records : Outline → Layer → Prop
  | intro {o : Outline} {layer : Layer} :
      o.Fields layer → List.Forall₂ Records o.inner layer.layers → Records o layer

/-- What events tell of elements. -/
structure Survey where
  /-- The open elements, innermost first. -/
  opened : List Outline := []
  /-- The text since the last tag. -/
  text : String := ""
  /-- The Layer elements that have ended with no Layer element around, in this order. -/
  trees : List Outline := []

namespace Survey

/-- An element begins. -/
def begin (s : Survey) (tag : Tag) : Survey :=
  { s with opened := { tag } :: s.opened, text := "" }

/-- The innermost element ends, if one is open. -/
def finish (s : Survey) : Survey :=
  match s.opened with
  | [] => { s with text := "" }
  | o :: around =>
    let around := around.modifyHead (·.tell o.name (Text.trim s.text))
    if o.isLayer then
      { opened := o.hang around
        text := ""
        trees := if around.any (·.isLayer) then s.trees else s.trees ++ [o] }
    else { s with opened := around, text := "" }

/-- What an event tells. -/
def step (s : Survey) : Event → Survey
  | .start tag => s.begin tag
  | .empty tag => (s.begin tag).finish
  | .text t => { s with text := s.text ++ t }
  | .characters t => { s with text := s.text ++ t }
  | .finish => s.finish

end Survey

/-- What all events tell. -/
def survey (events : List Event) : Survey := events.foldl Survey.step {}

theorem survey_concat (events : List Event) (event : Event) :
    survey (events ++ [event]) = (survey events).step event := by
  rw [survey, List.foldl_append]
  rfl

/-! ### Fields -/

/-- Names of the elements that tell a field of the layer directly around them. -/
def fieldNames : List String :=
  ["Name", "Title", "Abstract", "CRS", "SRS", "MinScaleDenominator", "MaxScaleDenominator"]

namespace Outline

variable {o : Outline} {layer layer' : Layer} {name key text : String}

theorem last?_tell (o : Outline) (name text key : String) :
    (o.tell name text).last? key = if name = key then some text else o.last? key := by
  simp only [last?, tell, List.reverse_append, List.reverse_singleton, List.singleton_append,
    List.find?_cons]
  by_cases hname : name = key
  · simp [hname]
  · rw [if_neg hname, beq_false_of_ne hname]

theorem codes_tell (o : Outline) (name text : String) :
    (o.tell name text).codes =
      o.codes ++
        if name = "CRS" ∨ name = "SRS" then (Text.words text).map Crs.normalize else [] := by
  simp only [codes, tell, List.filter_append, List.flatMap_append]
  by_cases hname : name = "CRS" ∨ name = "SRS"
  · simp [hname]
  · simp [hname]

/-- One more element inside changes the field that it tells. -/
theorem Fields.tell (h : o.Fields layer) (hqueryable : layer'.queryable = layer.queryable)
    (hname : layer'.name = if name = "Name" then some text else layer.name)
    (htitle : layer'.title = if name = "Title" then text else layer.title)
    (hdescription : layer'.description = if name = "Abstract" then some text else layer.description)
    (hcrs : layer'.crs = Layer.addNew layer.crs
      (if name = "CRS" ∨ name = "SRS" then (Text.words text).map Crs.normalize else []))
    (hminScale : layer'.minScale =
      if name = "MinScaleDenominator" then Decimal.read? (Text.trim text) else layer.minScale)
    (hmaxScale : layer'.maxScale =
      if name = "MaxScaleDenominator" then Decimal.read? (Text.trim text) else layer.maxScale) :
    (o.tell name text).Fields layer' := by
  constructor
  case queryable =>
    rw [hqueryable]
    exact h.queryable
  case name => rw [hname, last?_tell, h.name]
  case title =>
    rw [htitle, last?_tell, h.title]
    split <;> rfl
  case description => rw [hdescription, last?_tell, h.description]
  case crs => rw [hcrs, codes_tell, h.crs, Layer.addNew_eraseDups]
  case minScale =>
    rw [hminScale, last?_tell, h.minScale]
    by_cases hmin : name = "MinScaleDenominator"
    · rw [if_pos hmin, if_pos hmin, Option.bind_some]
    · rw [if_neg hmin, if_neg hmin]
  case maxScale =>
    rw [hmaxScale, last?_tell, h.maxScale]
    by_cases hmax : name = "MaxScaleDenominator"
    · rw [if_pos hmax, if_pos hmax, Option.bind_some]
    · rw [if_neg hmax, if_neg hmax]

/-- Elements of other names leave the fields alone. -/
theorem Fields.tell_other (h : o.Fields layer) (hname : name ∉ fieldNames) (text : String) :
    (o.tell name text).Fields layer := by
  simp only [fieldNames, List.mem_cons, List.not_mem_nil, or_false, not_or] at hname
  apply h.tell <;> simp [hname]

end Outline

/-! ### Records -/

section Records

variable {o : Outline} {layer : Layer} {f : Layer → Layer} {around : List Outline}
  {layers : List Layer}

/-- The function changes extents and styles alone. -/
def Dresses (f : Layer → Layer) : Prop :=
  ∀ layer, ∃ bbox styles, f layer = { layer with bbox, styles }

theorem dresses_id : Dresses id := by
  rintro ⟨⟩
  exact ⟨_, _, rfl⟩

theorem layers_of_dresses (hf : Dresses f) (layer : Layer) :
    (f layer).layers = layer.layers := by
  obtain ⟨bbox, styles, hlayer⟩ := hf layer
  rw [hlayer]

theorem Outline.Fields.dress (h : o.Fields layer) (hf : Dresses f) :
    o.Fields (f layer) := by
  obtain ⟨bbox, styles, hlayer⟩ := hf layer
  rw [hlayer]
  exact ⟨h.queryable, h.name, h.title, h.description, h.crs, h.minScale, h.maxScale⟩

theorem Records.dress (h : Records o layer) (hf : Dresses f) : Records o (f layer) := by
  obtain ⟨hfields, hinner⟩ := h
  exact ⟨hfields.dress hf, layers_of_dresses hf layer ▸ hinner⟩

theorem Records.tell_other (h : Records o layer) {name : String} (hname : name ∉ fieldNames)
    (text : String) : Records (o.tell name text) layer := by
  obtain ⟨hfields, hinner⟩ := h
  exact ⟨hfields.tell_other hname text, hinner⟩

/-- A layer with one more layer inside. -/
theorem Records.attach {ended : Outline} {own : Layer} (h : Records o layer)
    (hown : Records ended own) :
    Records { o with inner := o.inner ++ [ended] }
      { layer with layers := layer.layers ++ [own] } := by
  obtain ⟨hfields, hinner⟩ := h
  refine ⟨⟨hfields.queryable, hfields.name, hfields.title, hfields.description, hfields.crs,
    hfields.minScale, hfields.maxScale⟩, ?_⟩
  exact List.rel_append hinner (.cons hown .nil)

theorem Records.begin {tag : Tag} {queryable : Bool} (h : Written.Answers tag queryable) :
    Records { tag } { queryable } :=
  ⟨⟨h, rfl, rfl, rfl, rfl, rfl, rfl⟩, .nil⟩

/-- What holds of the innermost layers goes on to hold of what they become. -/
theorem records_modifyHead {outlines : List Outline} {g : Outline → Outline}
    (h : List.Forall₂ Records outlines layers)
    (hhead : ∀ o layer, Records o layer → Records (g o) (f layer)) :
    List.Forall₂ Records (outlines.modifyHead g) (layers.modifyHead f) := by
  cases h with
  | nil => exact .nil
  | cons hrecord hrest => exact .cons (hhead _ _ hrecord) hrest

theorem records_dress {outlines : List Outline} (h : List.Forall₂ Records outlines layers)
    (hf : Dresses f) : List.Forall₂ Records outlines (layers.modifyHead f) := by
  have hdressed := records_modifyHead (g := id) h fun o layer hrecord => hrecord.dress hf
  rwa [List.modifyHead_id] at hdressed

/-- The innermost open layer changes as the innermost open element does. -/
theorem records_tell (name text : String)
    (h : List.Forall₂ Records (around.filter (·.isLayer)) layers)
    (hlayer : (around.map (·.name)).head? = some "Layer" → ∀ o layer, Records o layer →
      Records (o.tell name text) (f layer))
    (hother : (around.map (·.name)).head? ≠ some "Layer" → ∀ o layer, Records o layer →
      Records o (f layer)) :
    List.Forall₂ Records ((around.modifyHead (·.tell name text)).filter (·.isLayer))
      (layers.modifyHead f) := by
  cases around with
  | nil =>
      cases h
      exact .nil
  | cons parent rest =>
      by_cases hparent : parent.isLayer = true
      · have htold : (parent.tell name text).isLayer = true := hparent
        have hname : parent.name = "Layer" := beq_iff_eq.mp hparent
        rw [List.filter_cons_of_pos hparent] at h
        rw [List.modifyHead_cons, List.filter_cons_of_pos htold]
        refine records_modifyHead (g := (·.tell name text)) h (hlayer ?_)
        rw [List.map_cons, List.head?_cons, hname]
      · have htold : ¬(parent.tell name text).isLayer = true := hparent
        rw [List.filter_cons_of_neg hparent] at h
        rw [List.modifyHead_cons, List.filter_cons_of_neg htold]
        have hkept := records_modifyHead (g := id) h (hother fun hname =>
          hparent (beq_iff_eq.mpr (Option.some.inj hname)))
        rwa [List.modifyHead_id] at hkept

/-- The layer that ended goes into the innermost open layer. -/
theorem filter_hang (ended : Outline) (around : List Outline) :
    (ended.hang around).filter (·.isLayer) =
      (around.filter (·.isLayer)).modifyHead fun o => { o with inner := o.inner ++ [ended] } := by
  induction around with
  | nil => rfl
  | cons o around ih =>
      rw [Outline.hang]
      by_cases ho : o.isLayer = true
      · rw [if_pos ho, List.filter_cons_of_pos ho, List.modifyHead_cons]
        exact List.filter_cons_of_pos ho
      · rw [if_neg ho, List.filter_cons_of_neg ho, List.filter_cons_of_neg ho, ih]

theorem map_name_hang (ended : Outline) (around : List Outline) :
    (ended.hang around).map (·.name) = around.map (·.name) := by
  induction around with
  | nil => rfl
  | cons o around ih =>
      rw [Outline.hang]
      split
      · rfl
      · rw [List.map_cons, ih, List.map_cons]

theorem map_name_tell (name text : String) (around : List Outline) :
    (around.modifyHead (·.tell name text)).map (·.name) = around.map (·.name) := by
  cases around <;> rfl

end Records

end MapContext.Capabilities
