import MapContext.Proofs.Capabilities.Inheritance
import MapContext.Proofs.Capabilities.Steps

/-!
# Layer trees are read as they are written

A layer whose element is complete stands in the layer around it with the fields that its content
tells, and nothing else of the reading has changed. So the fields of a layer may stand before,
between and after the layers inside it, at any depth.
-/

namespace MapContext

/-! ### Codes -/

namespace Layer

theorem canonicalAll_eq_map (layers : List Layer) : canonicalAll layers = layers.map canonical := by
  induction layers with
  | nil => rfl
  | cons layer layers ih => rw [canonicalAll, ih, List.map_cons]

/-- A layer as it stands among the open ones, its codes in canonical spelling. -/
def opened (layer : Layer) (queryable : Bool) : Layer := { layer.canonical with queryable }

theorem canonical_queryable (layer : Layer) (queryable : Bool) :
    { layer with queryable }.canonical = layer.opened queryable := by
  cases layer
  rfl

theorem opened_codes (layer : Layer) (queryable : Bool) (codes : List String) :
    { layer.opened queryable with
        crs := addNew (layer.opened queryable).crs (codes.map Crs.normalize) } =
      { layer with crs := layer.crs ++ codes }.opened queryable := by
  cases layer
  simp only [opened, canonical, addNew_eraseDups, List.map_append]

theorem opened_inner (layer inner : Layer) (queryable : Bool) :
    { layer.opened queryable with
        layers := (layer.opened queryable).layers ++ [inner.canonical] } =
      { layer with layers := layer.layers ++ [inner] }.opened queryable := by
  cases layer
  simp only [opened, canonical, canonicalAll_eq_map, List.map_append, List.map_cons, List.map_nil]

end Layer

namespace Capabilities.Reading

open Xml Written

variable {p : Progress} {layer : Layer} {piece : Piece} {content : List Piece} {queryable : Bool}

/-! ### Fields -/

theorem number_eq_ok {value : String} {x : Float} (h : Denotes value x) (element : String) :
    number element value = .ok x := by
  have hread : Decimal.read? (Text.trim value) = some x := h
  unfold number
  rw [hread]

/-- An element with a text inside a layer changes the layer. -/
theorem leads_text {name value : String} {f : Layer → Layer} (h : Says piece name value)
    (htelling : name ∉ telling) (hstarting : name ∉ startingNames)
    (hclose : ∀ r : Reading, r.closeField value name = .ok (r.updateLayer f)) :
    Leads piece.events (p.within layer) (p.within (f layer)) :=
  leads_saying h (fun _ htag => begins_other htag (List.cons_ne_nil _ _) hstarting)
    (ends_field rfl htelling hclose)

theorem leads_codes {codes : List String} (h : Lists piece codes) :
    Leads piece.events (p.within layer) (p.within
      { layer with crs := Layer.addNew layer.crs (codes.map Crs.normalize) }) := by
  obtain ⟨value, hsaid, hspaced⟩ := h
  have hwords := Text.words_spaced hspaced
  have hclose : ∀ (r : Reading) (name : String), name = "CRS" ∨ name = "SRS" →
      r.closeField value name = .ok (r.updateLayer fun l =>
        { l with crs := Layer.addNew l.crs (codes.map Crs.normalize) }) := by
    rintro r name (rfl | rfl)
    · simp only [closeField, hwords]
    · simp only [closeField, hwords]
  rcases hsaid with hsaid | hsaid
  · exact leads_text hsaid (by decide) (by decide) fun r => hclose r _ (.inl rfl)
  · exact leads_text hsaid (by decide) (by decide) fun r => hclose r _ (.inr rfl)

/-- An element with a number inside a layer changes the layer. -/
theorem leads_number {name : String} {x : Float} {f : Float → Layer → Layer}
    (h : Measures piece name x) (htelling : name ∉ telling) (hstarting : name ∉ startingNames)
    (hclose : ∀ (r : Reading) (value : String), r.closeField value name =
      (number name value >>= fun x => .ok (r.updateLayer (f x)))) :
    Leads piece.events (p.within layer) (p.within (f x layer)) := by
  obtain ⟨value, hsaid, hvalue⟩ := h
  apply leads_text hsaid htelling hstarting
  intro r
  rw [hclose, number_eq_ok hvalue, ok_bind]

/-! ### Styles -/

theorem ends_styleName (value : String) :
    Ends value (((p.within layer).enter "Style").enter "Name")
      ((p.within { layer with styles := layer.styles ++ [value] }).enter "Style") := by
  apply ends_of_closeElement
  intro r hr
  have hpath : r.path = "Style" :: "Layer" :: p.path := congrArg Progress.path hr
  refine ⟨r.updateLayer fun l => { l with styles := l.styles ++ [value] }, ?_, ?_⟩
  · simp [closeElement, Progress.enter, Reading.within, hpath]
  · rw [progress_updateLayer, hr]
    rfl

theorem leads_styleNames {names : List String} (h : StyleNames content names) (layer : Layer) :
    Leads (Piece.eventsAll content) ((p.within layer).enter "Style")
      ((p.within { layer with styles := layer.styles ++ names }).enter "Style") := by
  induction h with
  | nothing =>
      cases layer
      rw [List.append_nil]
      exact Leads.nil _
  | @name content names piece value _ hsaid ih =>
      rw [← List.append_assoc]
      exact ih.snoc (leads_saying hsaid
        (fun _ htag => begins_other htag (List.cons_ne_nil _ _) (by decide)) (ends_styleName value))
  | other _ hquiet ih => exact ih.snoc (leads_quiet _ rfl hquiet)

theorem leads_style {tag : Tag} {names : List String}
    (hpiece : piece.asElement? = some (tag, content)) (htag : tag.localName = "Style")
    (h : StyleNames content names) :
    Leads piece.events (p.within layer)
      (p.within { layer with styles := layer.styles ++ names }) :=
  leads_element hpiece (begins_other htag (List.cons_ne_nil _ _) (by decide))
    (leads_styleNames h layer)
    fun text => ends_idle text (by decide) fun s hs => by cases hs; decide

/-! ### Bounding boxes -/

/-- The edges of a bounding box are being read inside a layer. -/
def bounding (p : Progress) (layer : Layer) (b : PartialBox) : Progress :=
  { p.within layer with pendingBox := some b }.enter "EX_GeographicBoundingBox"

theorem closeInBox_side {r : Reading} {value : String} {x : Float} (h : Denotes value x)
    (side : Side) :
    r.closeInBox value side.element =
      .ok { r with pendingBox := r.pendingBox.map fun b => side.put x b } := by
  have hnumber := number_eq_ok h
  cases side with
  | west => simp only [Side.element, closeInBox, closeEdge, hnumber, ok_bind]; rfl
  | east => simp only [Side.element, closeInBox, closeEdge, hnumber, ok_bind]; rfl
  | south => simp only [Side.element, closeInBox, closeEdge, hnumber, ok_bind]; rfl
  | north => simp only [Side.element, closeInBox, closeEdge, hnumber, ok_bind]; rfl

theorem ends_edge {value : String} {x : Float} (h : Denotes value x) (b : PartialBox)
    (side : Side) :
    Ends value ((bounding p layer b).enter side.element) (bounding p layer (side.put x b)) := by
  apply ends_of_closeElement
  intro r hr
  have hpending : r.pendingBox = some b := congrArg Progress.pendingBox hr
  have hbox := closeInBox_side (r := r) h side
  rw [hpending, Option.map_some] at hbox
  refine ⟨{ r with pendingBox := some (side.put x b) }, ?_, ?_⟩
  · rw [← hbox]
    cases side with
    | west => rfl
    | east => rfl
    | south => rfl
    | north => rfl
  · calc { r with pendingBox := some (side.put x b) }.progress
        = { r.progress with pendingBox := some (side.put x b) } := rfl
      _ = bounding p layer (side.put x b) := by rw [hr]; rfl

theorem leads_edges {b : PartialBox} (h : Edges content b) :
    Leads (Piece.eventsAll content) (bounding p layer {}) (bounding p layer b) := by
  induction h with
  | nothing => exact Leads.nil _
  | @edge content b piece x side _ hmeasures ih =>
      obtain ⟨value, hsaid, hvalue⟩ := hmeasures
      refine ih.snoc (leads_saying hsaid (fun _ htag => begins_other htag (List.cons_ne_nil _ _) ?_)
        (ends_edge hvalue b side))
      cases side <;> decide
  | other _ hquiet ih => exact ih.snoc (leads_quiet _ rfl hquiet)

theorem begins_box {tag : Tag} (htag : tag.localName = "EX_GeographicBoundingBox") :
    Begins tag (p.within layer) (bounding p layer {}) := by
  apply begins_inner htag (List.cons_ne_nil _ _)
  intro r hr
  have hpath : r.path = "Layer" :: p.path := congrArg Progress.path hr
  refine ⟨{ r with pendingBox := some {} }, by simp [beginInner, hpath], ?_⟩
  calc { r with pendingBox := some {} }.progress
      = { r.progress with pendingBox := some {} } := rfl
    _ = { p.within layer with pendingBox := some {} } := by rw [hr]

theorem ends_box (text : String) (west south east north : Float) :
    Ends text (bounding p layer ⟨some west, some east, some south, some north⟩)
      (p.within { layer with bbox := some ⟨west, south, east, north⟩ }) := by
  apply ends_of_closeElement
  intro r hr
  have hpending : r.pendingBox = some ⟨some west, some east, some south, some north⟩ :=
    congrArg Progress.pendingBox hr
  refine ⟨r.closeBox, by simp [closeElement], ?_⟩
  have hclose : r.closeBox = { r with pendingBox := none }.updateLayer fun l =>
      { l with bbox := some ⟨west, south, east, north⟩ } := by
    simp only [closeBox, hpending, Option.bind_some, PartialBox.box?]
  rw [hclose, progress_updateLayer]
  calc Progress.update { r.progress with pendingBox := none } _
      = Progress.update (p.within layer) fun l =>
          { l with bbox := some ⟨west, south, east, north⟩ } := by rw [hr]; rfl
    _ = p.within { layer with bbox := some ⟨west, south, east, north⟩ } := rfl

theorem edge_eq_ok {tag : Tag} {key : String} {x : Float} (h : HasEdge tag key x) :
    edge tag key = .ok x := by
  obtain ⟨value, hvalue, hx⟩ := h
  have hattribute : attribute? tag key = .ok (some value) := by rw [attribute?, hvalue]
  unfold edge
  rw [hattribute, ok_bind]
  exact number_eq_ok hx _

theorem begins_attributes {tag : Tag} {west south east north : Float}
    (htag : tag.localName = "LatLonBoundingBox") (hwest : HasEdge tag "minx" west)
    (hsouth : HasEdge tag "miny" south) (heast : HasEdge tag "maxx" east)
    (hnorth : HasEdge tag "maxy" north) :
    Begins tag (p.within layer)
      ((p.within { layer with bbox := some ⟨west, south, east, north⟩ }).enter
        "LatLonBoundingBox") := by
  apply begins_inner htag (List.cons_ne_nil _ _)
  intro r hr
  have hpath : r.path = "Layer" :: p.path := congrArg Progress.path hr
  refine ⟨r.updateLayer fun l => { l with bbox := some ⟨west, south, east, north⟩ }, ?_, ?_⟩
  · simp [beginInner, hpath, edge_eq_ok hwest, edge_eq_ok hsouth, edge_eq_ok heast,
      edge_eq_ok hnorth]
  · rw [progress_updateLayer, hr]
    rfl

theorem ends_attributes (text : String) :
    Ends text ((p.within layer).enter "LatLonBoundingBox") (p.within layer) := by
  apply ends_of_closeElement
  intro r hr
  have hclose : r.closeElement text "LatLonBoundingBox" (some "Layer") = .ok r :=
    closeElement_layer (by decide)
  exact ⟨r, hclose, hr⟩

theorem leads_bounds {box : BoundingBox} (h : Bounds piece box) :
    Leads piece.events (p.within layer) (p.within { layer with bbox := some box }) := by
  cases h with
  | edges hpiece htag hedges =>
      exact leads_element hpiece (begins_box htag) (leads_edges hedges)
        fun text => ends_box text _ _ _ _
  | attributes hpiece htag hquiet hwest hsouth heast hnorth =>
      exact leads_element hpiece (begins_attributes htag hwest hsouth heast hnorth)
        (leads_quietAll _ rfl hquiet) ends_attributes

/-- A piece of the content of an open layer changes what its fields say and nothing else. -/
theorem leads_field {f : Layer → Layer} (h : Field piece f) (layer : Layer) (queryable : Bool) :
    Leads piece.events (p.within (layer.opened queryable))
      (p.within ((f layer).opened queryable)) := by
  cases h with
  | name hsaid =>
      cases layer
      exact leads_text hsaid (by decide) (by decide) fun r => rfl
  | title hsaid =>
      cases layer
      exact leads_text hsaid (by decide) (by decide) fun r => rfl
  | description hsaid =>
      cases layer
      exact leads_text hsaid (by decide) (by decide) fun r => rfl
  | codes hlists =>
      rw [← Layer.opened_codes]
      exact leads_codes hlists
  | style hpiece htag hnames =>
      cases layer
      exact leads_style hpiece htag hnames
  | bounds hbounds =>
      cases layer
      exact leads_bounds hbounds
  | minScale hmeasures =>
      cases layer
      exact leads_number (f := fun x l => { l with minScale := some x }) hmeasures (by decide)
        (by decide) fun r value => rfl
  | maxScale hmeasures =>
      cases layer
      exact leads_number (f := fun x l => { l with maxScale := some x }) hmeasures (by decide)
        (by decide) fun r value => rfl
  | other hquiet => exact leads_quiet piece rfl hquiet

/-! ### Layers -/

theorem begins_layer {tag : Tag} (htag : tag.localName = "Layer") (h : Answers tag queryable)
    (hpath : p.path ≠ []) (hbox : p.pendingBox = none) :
    Begins tag p (p.within (Layer.opened {} queryable)) := by
  obtain ⟨value, hvalue, hqueryable⟩ := h
  have hattribute : attribute? tag "queryable" = .ok value := by rw [attribute?, hvalue]
  have hbegin : Begins tag p
      (Progress.enter { p with openLayers := { queryable } :: p.openLayers } "Layer") := by
    apply begins_inner htag hpath
    rintro r rfl
    refine ⟨{ r with openLayers := { queryable } :: r.openLayers }, ?_, rfl⟩
    simp only [beginInner, if_true, hattribute, ok_bind, ← hqueryable]
    rfl
  have hwithin : Progress.enter { p with openLayers := { queryable } :: p.openLayers } "Layer" =
      p.within (Layer.opened {} queryable) := by
    rw [Progress.enter, Progress.within, hbox]
    rfl
  rwa [hwithin] at hbegin

theorem progress_closeLayer {r : Reading} {outer : List Layer}
    (h : r.openLayers = layer :: outer) :
    r.closeLayer.progress = Progress.attach { r.progress with openLayers := outer } layer := by
  unfold closeLayer
  rw [h]
  cases outer with
  | nil => rfl
  | cons next rest => rfl

theorem ends_layer (text : String) (hbox : p.pendingBox = none) :
    Ends text (p.within layer) (p.attach layer) := by
  have hends : Ends text (Progress.enter { p with openLayers := layer :: p.openLayers } "Layer")
      (p.attach layer) := by
    apply ends_of_closeElement
    intro r hr
    refine ⟨r.closeLayer, by simp [closeElement], ?_⟩
    rw [progress_closeLayer (congrArg Progress.openLayers hr), hr]
  have hwithin : p.within layer =
      Progress.enter { p with openLayers := layer :: p.openLayers } "Layer" := by
    rw [Progress.enter, Progress.within, hbox]
  rwa [hwithin]

-- By induction on how the layers are written. What carries it is that content only ever changes the
-- innermost open layer, so that the statement for a layer inside holds with this one around it.
mutual

/-- An element that describes a layer adds it to the layer around it. -/
theorem leads_describes {p : Progress} {piece : Piece} {layer : Layer} (h : Describes piece layer)
    (hpath : p.path ≠ []) (hbox : p.pendingBox = none) :
    Leads piece.events p (p.attach layer.canonical) := by
  match h with
  | @Describes.layer piece tag content layer queryable hpiece htag hanswers htells =>
      rw [Layer.canonical_queryable]
      exact leads_element hpiece (begins_layer htag hanswers hpath hbox)
        (leads_tells htells p _) fun text => ends_layer text hbox
termination_by structural h

/-- The content of an open layer completes it. -/
theorem leads_tells {content : List Piece} {layer : Layer} (h : Tells content layer) (p : Progress)
    (queryable : Bool) :
    Leads (Piece.eventsAll content) (p.within (Layer.opened {} queryable))
      (p.within (layer.opened queryable)) := by
  match h with
  | .nothing => exact Leads.nil _
  | @Tells.field content layer piece f htells hfield =>
      exact (leads_tells htells p queryable).snoc (leads_field hfield layer queryable)
  | @Tells.inner content layer inner piece htells hinner =>
      have hinside : Leads piece.events (p.within (layer.opened queryable))
          ((p.within (layer.opened queryable)).attach inner.canonical) :=
        leads_describes hinner (List.cons_ne_nil _ _) rfl
      rw [← Layer.opened_inner]
      exact (leads_tells htells p queryable).snoc hinside
termination_by structural h

end

/-! ### Documents -/

theorem leads_encloses {tag : Tag} {outer inner : Piece} {p q m m' : Progress}
    (h : Encloses tag outer inner) (hbegin : Begins tag p m)
    (hm : m.path.head? = some tag.localName) (hinner : Leads inner.events m m')
    (hm' : m'.path.head? = some tag.localName) (hends : ∀ text, Ends text m' q) :
    Leads outer.events p q := by
  obtain ⟨before, after, rfl, hbefore, hafter⟩ := h
  apply leads_element rfl hbegin _ hends
  rw [Piece.eventsAll_append, Piece.eventsAll]
  exact (leads_quietAll before hm hbefore).append
    (hinner.append (leads_quietAll after hm' hafter))

theorem begins_root {tag : Tag}
    (htag : tag.localName = "WMS_Capabilities" ∨ tag.localName = "WMT_MS_Capabilities")
    (hversion : (tag.attribute? "version").isOk = true) :
    Begins tag {} (Progress.enter {} tag.localName) := by
  intro r hr
  have hpath : r.path = [] := congrArg Progress.path hr
  obtain ⟨version, hattribute⟩ : ∃ version, attribute? tag "version" = .ok version := by
    cases hread : tag.attribute? "version" with
    | error e => rw [hread] at hversion; cases hversion
    | ok version => exact ⟨version, by rw [attribute?, hread]⟩
  have hroot : r.beginRoot tag.localName tag = .ok { r with version } := by
    have hname : (tag.localName = "WMS_Capabilities" || tag.localName = "WMT_MS_Capabilities") =
        true := by simpa using htag
    rw [beginRoot, if_pos hname, hattribute, ok_bind]
    rfl
  refine ⟨{ r with version, path := [tag.localName], text := "" }, ?_, ?_, rfl⟩
  · simp [begin, hpath, hroot]
  · calc _ = Progress.enter { r.progress with path := [] } tag.localName := rfl
      _ = Progress.enter {} tag.localName := by rw [hr]

/-- The events of a document that publishes a tree of layers lead to the tree. -/
theorem leads_publishes {document : Piece} (h : Publishes document layer) :
    Leads document.events {} { rootLayer := some layer.canonical } := by
  obtain ⟨root, capability, part, element, hroot, hversion, hdocument, hcapability, hpart,
    helement⟩ := h
  have hroots : root.localName ∉ telling ∧ tellingIn root.localName = [] := by
    rcases hroot with hroot | hroot
    · rw [hroot]; decide
    · rw [hroot]; decide
  have hends : ∀ text, Ends text
      (((Progress.enter {} root.localName).enter "Capability").attach layer.canonical)
      (Progress.enter { rootLayer := some layer.canonical } root.localName) := by
    intro text
    refine ends_idle (p := Progress.enter { rootLayer := some layer.canonical } root.localName)
      text (by decide) ?_
    intro s hs
    cases hs
    rw [hroots.2]
    exact List.not_mem_nil
  have hcontent : Leads part.events (Progress.enter {} root.localName)
      (Progress.enter { rootLayer := some layer.canonical } root.localName) := by
    refine leads_encloses hpart (begins_other hcapability (List.cons_ne_nil _ _) (by decide)) ?_
      (leads_describes helement (List.cons_ne_nil _ _) rfl) ?_ hends
    · rw [hcapability]; rfl
    · rw [hcapability]; rfl
  exact leads_encloses hdocument (begins_root hroot hversion) rfl hcontent rfl
    fun text => ends_idle text hroots.1 fun s hs => by cases hs

theorem result_eq_ok {r : Reading} (h : r.progress = { rootLayer := some layer }) :
    ∃ capabilities, r.result = .ok capabilities ∧
      capabilities.rootLayer = layer.inherit [] none [] := by
  have hroot : r.rootLayer = some layer := congrArg Progress.rootLayer h
  have hexception : r.exception = none := congrArg Progress.exception h
  unfold result
  rw [hroot, hexception]
  exact ⟨_, rfl, rfl⟩

end Capabilities.Reading

namespace Capabilities

open Xml Written

/-- A document is read as the tree of layers that it publishes: each layer has the fields that were
written for it, its codes in canonical spelling and each once, and what it inherits. -/
theorem exists_rootLayer_of_publishes {document : Piece} {layer : Layer}
    (h : Publishes document layer) :
    ∃ capabilities, ofStream ⟨document.events, none⟩ = .ok capabilities ∧
      capabilities.rootLayer = layer.canonical.inherit [] none [] := by
  obtain ⟨r, hrun, hr⟩ := Reading.leads_publishes h {} rfl
  obtain ⟨capabilities, hresult, hroot⟩ := Reading.result_eq_ok hr
  refine ⟨capabilities, ?_, hroot⟩
  rw [ofStream, hrun, ok_bind]
  exact hresult

/-- An element with a text. -/
def textElement (name text : String) : Piece := .element ⟨name, [], none⟩ [.text text]

/-- Bridges with a style. -/
def bridgesElement : Piece :=
  .element ⟨"Layer", [⟨"queryable", some "1"⟩], none⟩
    [textElement "Name" "bridges",
      .element ⟨"Style", [], none⟩ [textElement "Title" "Grey", textElement "Name" "grey"]]

/-- The extent of roads, the edges in an order of their own. -/
def extentElement : Piece :=
  .element ⟨"EX_GeographicBoundingBox", [], none⟩
    [textElement "northBoundLatitude" "51", textElement "southBoundLatitude" "49",
      textElement "eastBoundLongitude" "9", textElement "westBoundLongitude" "6.5"]

/-- The extent of roads as written. -/
def extent : BoundingBox :=
  ⟨Decimal.nearest 65 (-1), Decimal.nearest 49 0, Decimal.nearest 9 0, Decimal.nearest 51 0⟩

/-- Roads, with bridges between their fields. -/
def roadsElement : Piece :=
  .element ⟨"wms:Layer", [], none⟩
    [textElement "CRS" "EPSG:4326 epsg:25832", .empty ⟨"Attribution", [], none⟩, bridgesElement,
      extentElement, textElement "Title" "Roads", textElement "SRS" "EPSG:25832"]

/-- A document that publishes roads and bridges. -/
def roadsDocument : Piece :=
  .element ⟨"WMS_Capabilities", [⟨"version", some "1.3.0"⟩], none⟩
    [.element ⟨"Service", [], none⟩ [textElement "Title" "Streets"],
      .element ⟨"Capability", [], none⟩ [roadsElement]]

/-- Bridges as written. -/
def bridges : Layer := { name := some "bridges", styles := ["grey"], queryable := true }

/-- Roads as written, one code in two spellings. -/
def roads : Layer :=
  { title := "Roads"
    crs := ["EPSG:4326", "epsg:25832", "EPSG:25832"]
    bbox := some extent
    layers := [bridges] }

theorem says_textElement (name text : String) (hname : Xml.localName name = name)
    (htext : Text.trim text = text) : Says (textElement name text) name text := by
  refine ⟨_, _, text ++ "", rfl, hname, rfl, ?_⟩
  rw [String.append_empty, htext]

theorem measures_textElement (name text : String) {x : Float} (hname : Xml.localName name = name)
    (htext : Text.trim text = text) (hx : Denotes text x) :
    Measures (textElement name text) name x :=
  ⟨text, says_textElement name text hname htext, hx⟩

theorem describes_bridges : Describes bridgesElement bridges := by
  have hnames : StyleNames [textElement "Title" "Grey", textElement "Name" "grey"] ["grey"] :=
    .name (.other .nothing (by decide)) (says_textElement "Name" "grey" (by decide) (by decide))
  have hname := Tells.field .nothing
    (.name (says_textElement "Name" "bridges" (by decide) (by decide)))
  exact .layer rfl rfl ⟨some "1", rfl, rfl⟩ (.field hname (.style rfl rfl hnames))

theorem bounds_extentElement : Bounds extentElement extent := by
  have hnorth := Edges.edge .north .nothing
    (measures_textElement "northBoundLatitude" "51" (by decide) (by decide) rfl)
  have hsouth := Edges.edge .south hnorth
    (measures_textElement "southBoundLatitude" "49" (by decide) (by decide) rfl)
  have heast := Edges.edge .east hsouth
    (measures_textElement "eastBoundLongitude" "9" (by decide) (by decide) rfl)
  have hwest := Edges.edge .west heast
    (measures_textElement "westBoundLongitude" "6.5" (by decide) (by decide) rfl)
  exact .edges rfl rfl hwest

theorem describes_roads : Describes roadsElement roads := by
  have hword : Text.IsWord "EPSG:4326" := by decide
  have hgap : Text.IsGap [' '] := by decide
  have htwo : Lists (textElement "CRS" "EPSG:4326 epsg:25832") ["EPSG:4326", "epsg:25832"] :=
    ⟨_, .inl (says_textElement _ _ (by decide) (by decide)),
      .more hword hgap (.word (by decide))⟩
  have hone : Lists (textElement "SRS" "EPSG:25832") ["EPSG:25832"] :=
    ⟨_, .inr (says_textElement _ _ (by decide) (by decide)), .word (by decide)⟩
  have hcodes := Tells.field .nothing (.codes htwo)
  have hattribution : Field (.empty ⟨"Attribution", [], none⟩) id := .other (by decide)
  have hother := Tells.field hcodes hattribution
  have hbridges := Tells.inner hother describes_bridges
  have hextent := Tells.field hbridges (.bounds bounds_extentElement)
  have htitle := Tells.field hextent
    (.title (says_textElement "Title" "Roads" (by decide) (by decide)))
  exact .layer rfl (by decide) ⟨none, rfl, rfl⟩ (.field htitle (.codes hone))

/-- Roads and bridges as they are read: each code is there once, in capitals, and the bridges have
the codes and the extent of the roads. -/
def roadsRead : Layer :=
  { title := "Roads"
    crs := ["EPSG:4326", "EPSG:25832"]
    bbox := some extent
    layers :=
      [{ name := some "bridges"
         crs := ["EPSG:4326", "EPSG:25832"]
         bbox := some extent
         styles := ["grey"]
         queryable := true }] }

/-- The codes are normalized and handed down. -/
theorem roadsDocument_read :
    Publishes roadsDocument roads ∧
      ∃ capabilities, ofStream ⟨roadsDocument.events, none⟩ = .ok capabilities ∧
        capabilities.rootLayer = roadsRead := by
  have hpublishes : Publishes roadsDocument roads :=
    ⟨_, _, _, _, .inl (by decide), by decide, ⟨[_], [], rfl, by decide, by decide⟩, by decide,
      ⟨[], [], rfl, rfl, rfl⟩, describes_roads⟩
  obtain ⟨capabilities, hread, hroot⟩ := exists_rootLayer_of_publishes hpublishes
  have hcodes : (["EPSG:4326", "epsg:25832", "EPSG:25832"].map Crs.normalize).eraseDups =
      ["EPSG:4326", "EPSG:25832"] := by decide +kernel
  have hinherited : roads.canonical.inherit [] none [] = roadsRead := by
    simp only [roads, bridges, Layer.canonical, Layer.canonicalAll, hcodes, Layer.inherit,
      Layer.inheritAll]
    rfl
  exact ⟨hpublishes, capabilities, hread, hroot.trans hinherited⟩

end Capabilities

end MapContext
