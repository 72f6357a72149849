import MapContext.Proofs.Capabilities.Written
import MapContext.Proofs.Result

/-!
# Steps of the reading

What events do to the part of a reading that concerns layers. The text since the last tag is no
part of it, since every tag begins it anew: only the element whose text it is looks at it.
-/

namespace MapContext.Capabilities.Reading

open Xml Written

/-! ### The layers of a reading -/

/-- The part of a reading that concerns layers. -/
structure Progress where
  /-- Names of the open elements, innermost first. -/
  path : List String := []
  /-- The open layers, innermost first. -/
  openLayers : List Layer := []
  /-- The first outermost layer, once it is closed. -/
  rootLayer : Option Layer := none
  /-- The bounding box whose edges are being read. -/
  pendingBox : Option PartialBox := none
  /-- The error that the service reports. -/
  exception : Option String := none

/-- What a reading knows of layers. -/
def progress (r : Reading) : Progress :=
  ⟨r.path, r.openLayers, r.rootLayer, r.pendingBox, r.exception⟩

namespace Progress

/-- An element begins. -/
def enter (p : Progress) (name : String) : Progress := { p with path := name :: p.path }

/-- The innermost open layer changes. -/
def update (p : Progress) (f : Layer → Layer) : Progress :=
  { p with openLayers := p.openLayers.modifyHead f }

/-- A layer is open and nothing else inside it. -/
def within (p : Progress) (layer : Layer) : Progress :=
  { p with path := "Layer" :: p.path, openLayers := layer :: p.openLayers, pendingBox := none }

/-- A layer is complete. -/
def attach (p : Progress) (layer : Layer) : Progress :=
  match p.openLayers with
  | [] => { p with rootLayer := p.rootLayer.or (some layer) }
  | outer :: rest =>
    { p with openLayers := { outer with layers := outer.layers ++ [layer] } :: rest }

end Progress

theorem progress_updateLayer (r : Reading) (f : Layer → Layer) :
    (r.updateLayer f).progress = r.progress.update f := by
  unfold updateLayer
  split
  · next hopen => simp [progress, Progress.update, hopen]
  · next layer outer hopen => simp [progress, Progress.update, hopen]

/-- Events lead from one progress to another, whatever else the reading knows. -/
def Leads (events : List Event) (p q : Progress) : Prop :=
  ∀ r : Reading, r.progress = p → ∃ r', r.run events = .ok r' ∧ r'.progress = q

variable {p q m : Progress} {es es' : List Event} {tag : Tag} {piece : Piece} {content : List Piece}

theorem run_append {r r' : Reading} (h : r.run es = .ok r') (es' : List Event) :
    r.run (es ++ es') = r'.run es' := by
  rw [run, List.foldlM_append]
  exact congrArg (· >>= fun r => r.run es') h

theorem Leads.nil (p : Progress) : Leads [] p p :=
  fun r hr => ⟨r, rfl, hr⟩

theorem Leads.append (h : Leads es p m) (h' : Leads es' m q) : Leads (es ++ es') p q := by
  intro r hr
  obtain ⟨r₁, hrun, hr₁⟩ := h r hr
  obtain ⟨r₂, hrun', hr₂⟩ := h' r₁ hr₁
  exact ⟨r₂, (run_append hrun es').trans hrun', hr₂⟩

theorem Leads.snoc (h : Leads (Piece.eventsAll content) p m) (h' : Leads piece.events m q) :
    Leads (Piece.eventsAll (content ++ [piece])) p q := by
  rw [Piece.eventsAll_append, Piece.eventsAll, Piece.eventsAll, List.append_nil]
  exact h.append h'

/-! ### Elements -/

/-- The beginning of an element leads from one progress to another. -/
def Begins (tag : Tag) (p q : Progress) : Prop :=
  ∀ r : Reading, r.progress = p → ∃ r', r.begin tag = .ok r' ∧ r'.progress = q ∧ r'.text = ""

/-- The end of an element with a text leads from one progress to another. -/
def Ends (text : String) (p q : Progress) : Prop :=
  ∀ r : Reading, r.progress = p → Text.trim r.text = text →
    ∃ r', r.close = .ok r' ∧ r'.progress = q

theorem run_singleton (r : Reading) (event : Event) : r.run [event] = r.step event := by
  simp [run]

theorem step_start (r : Reading) (tag : Tag) : r.step (.start tag) = r.begin tag := rfl

theorem step_empty {r r' : Reading} (h : r.begin tag = .ok r') :
    r.step (.empty tag) = r'.close := by
  rw [step, h, ok_bind]

theorem step_finish {r r' : Reading} (h : r.close = .ok r') :
    r.step .finish = .ok { r' with text := "" } := by
  rw [step, h, ok_bind]
  rfl

/-- An element of either form does what its beginning, its content and its end do. -/
theorem run_element (hpiece : piece.asElement? = some (tag, content)) {r r₁ r₂ r₃ : Reading}
    (hbegin : r.begin tag = .ok r₁) (hcontent : r₁.run (Piece.eventsAll content) = .ok r₂)
    (hclose : r₂.close = .ok r₃) :
    ∃ r', r.run piece.events = .ok r' ∧ r'.progress = r₃.progress := by
  cases piece with
  | text s => cases hpiece
  | characters s => cases hpiece
  | empty t =>
      cases hpiece
      cases hcontent
      refine ⟨r₃, ?_, rfl⟩
      rw [Piece.events, run_singleton, step_empty hbegin, hclose]
  | element t c =>
      cases hpiece
      refine ⟨{ r₃ with text := "" }, ?_, rfl⟩
      have hstart : r.run [.start tag] = .ok r₁ := by rw [run_singleton, step_start, hbegin]
      have hfinish : r₂.run [.finish] = .ok { r₃ with text := "" } := by
        rw [run_singleton, step_finish hclose]
      calc r.run (.start tag :: (Piece.eventsAll content ++ [.finish]))
          = r₁.run (Piece.eventsAll content ++ [.finish]) := run_append hstart _
        _ = r₂.run [.finish] := run_append hcontent _
        _ = .ok { r₃ with text := "" } := hfinish

theorem run_plainText {s : String} (h : Piece.plainText? content = some s) (r : Reading) :
    r.run (Piece.eventsAll content) = .ok { r with text := r.text ++ s } := by
  induction content generalizing r s with
  | nil =>
      cases h
      rw [String.append_empty]
      rfl
  | cons piece content ih =>
      cases piece with
      | text t =>
          obtain ⟨rest, hrest, rfl⟩ := Option.map_eq_some_iff.mp h
          have hstep : r.run [.text t] = .ok { r with text := r.text ++ t } := rfl
          rw [Piece.eventsAll, Piece.events, run_append hstep, ih hrest, String.append_assoc]
      | characters t =>
          obtain ⟨rest, hrest, rfl⟩ := Option.map_eq_some_iff.mp h
          have hstep : r.run [.characters t] = .ok { r with text := r.text ++ t } := rfl
          rw [Piece.eventsAll, Piece.events, run_append hstep, ih hrest, String.append_assoc]
      | empty t => cases h
      | element t c => cases h

theorem leads_element (hpiece : piece.asElement? = some (tag, content)) {m' : Progress}
    (hbegin : Begins tag p m) (hcontent : Leads (Piece.eventsAll content) m m')
    (hends : ∀ text, Ends text m' q) : Leads piece.events p q := by
  intro r hr
  obtain ⟨r₁, hrun, hr₁, -⟩ := hbegin r hr
  obtain ⟨r₂, hrun', hr₂⟩ := hcontent r₁ hr₁
  obtain ⟨r₃, hclose, hr₃⟩ := hends _ r₂ hr₂ rfl
  obtain ⟨r', hr', hsame⟩ := run_element hpiece hrun hrun' hclose
  exact ⟨r', hr', hsame.trans hr₃⟩

theorem leads_saying {name value : String} (h : Says piece name value)
    (hbegin : ∀ tag : Tag, tag.localName = name → Begins tag p m) (hends : Ends value m q) :
    Leads piece.events p q := by
  intro r hr
  obtain ⟨tag, content, text, hpiece, hname, htext, rfl⟩ := h
  obtain ⟨r₁, hrun, hr₁, hempty⟩ := hbegin tag hname r hr
  have hcontent := run_plainText htext r₁
  rw [hempty, String.empty_append] at hcontent
  obtain ⟨r₃, hclose, hr₃⟩ := hends { r₁ with text } hr₁ rfl
  obtain ⟨r', hr', hsame⟩ := run_element hpiece hrun hcontent hclose
  exact ⟨r', hr', hsame.trans hr₃⟩

/-! ### Beginnings -/

/-- Names of elements whose beginning does something. -/
def startingNames : List String :=
  ["Layer", "EX_GeographicBoundingBox", "LatLonBoundingBox", "OnlineResource"]

theorem begins_inner {name : String} (hname : tag.localName = name) (hpath : p.path ≠ [])
    (h : ∀ r : Reading, r.progress = p →
      ∃ r', r.beginInner name tag = .ok r' ∧ r'.progress = q) :
    Begins tag p (q.enter name) := by
  intro r hr
  obtain ⟨r', hrun, hr'⟩ := h r hr
  have hinner : r.path.isEmpty = false := by
    have hrpath : r.path = p.path := congrArg Progress.path hr
    simpa [hrpath] using hpath
  refine ⟨{ r' with path := name :: r'.path, text := "" }, ?_, ?_, rfl⟩
  · simp only [begin, hinner, hname, Bool.false_eq_true, if_false]
    rw [hrun]
    rfl
  · subst hr'
    rfl

theorem begins_other {name : String} (hname : tag.localName = name) (hpath : p.path ≠ [])
    (h : name ∉ startingNames) : Begins tag p (p.enter name) := by
  apply begins_inner hname hpath
  intro r hr
  simp only [startingNames, List.mem_cons, List.not_mem_nil, not_or] at h
  exact ⟨r, by simp [beginInner, h], hr⟩

theorem isIdle_iff {parent : String} :
    isIdle parent tag = true ↔ tag.localName ∉ telling ∧ tag.localName ∉ tellingIn parent ∧
      (tag.localName = "OnlineResource" → ∃ value, tag.attribute? "href" = .ok value) := by
  cases hread : tag.attribute? "href" with
  | error e => simp [isIdle, hread, Except.isOk, Except.toBool, and_assoc]
  | ok value => simp [isIdle, hread, Except.isOk, Except.toBool]

/-- The beginning of an address of the service leaves the layers alone. -/
theorem beginInner_address {r : Reading} {href : Option String}
    (h : tag.attribute? "href" = .ok href) :
    ∃ r', r.beginInner "OnlineResource" tag = .ok r' ∧ r'.progress = r.progress := by
  have hattribute : attribute? tag "href" = .ok href := by rw [attribute?, h]
  simp only [beginInner, String.reduceEq, decide_false, Bool.false_and, Bool.false_eq_true,
    if_false, hattribute, ok_bind]
  split_ifs
  all_goals exact ⟨_, rfl, rfl⟩

/-- The beginning of an element that says nothing about layers leaves them alone. -/
theorem beginInner_idle {parent : String} {r : Reading} (hpath : r.path.head? = some parent)
    (h : isIdle parent tag = true) :
    ∃ r', r.beginInner tag.localName tag = .ok r' ∧ r'.progress = r.progress := by
  obtain ⟨htelling, hparent, haddress⟩ := isIdle_iff.mp h
  by_cases hname : tag.localName = "OnlineResource"
  · obtain ⟨href, hhref⟩ := haddress hname
    rw [hname]
    exact beginInner_address hhref
  · have hlayer : tag.localName ≠ "Layer" := fun h => htelling (by simp [telling, h])
    have hbox : tag.localName ≠ "EX_GeographicBoundingBox" := fun h =>
      htelling (by simp [telling, h])
    have hedges : ¬(tag.localName = "LatLonBoundingBox" ∧ parent = "Layer") := by
      rintro ⟨hedges, rfl⟩
      exact hparent (by simp [tellingIn, hedges])
    refine ⟨r, ?_, rfl⟩
    simp [beginInner, hlayer, hbox, hname, hpath, hedges]

theorem begins_idle {parent : String} (hpath : p.path.head? = some parent)
    (h : isIdle parent tag = true) : Begins tag p (p.enter tag.localName) := by
  have hne : p.path ≠ [] := by
    intro hnil
    rw [hnil] at hpath
    cases hpath
  apply begins_inner rfl hne
  rintro r rfl
  exact beginInner_idle hpath h

/-! ### Ends -/

theorem ends_of_closeElement {text name : String}
    (h : ∀ r : Reading, r.progress = p →
      ∃ r', r.closeElement text name p.path.head? = .ok r' ∧ r'.progress = q) :
    Ends text (p.enter name) q := by
  intro r hr htext
  have hpath : r.path = name :: p.path := congrArg Progress.path hr
  have houter : { r with path := p.path }.progress = p := by
    have hrest : r.progress = p.enter name := hr
    simp only [progress, Progress.enter, Progress.mk.injEq] at hrest
    simp [progress, hrest]
  obtain ⟨r', hclose, hr'⟩ := h { r with path := p.path } houter
  exact ⟨r', by simp [close, hpath, htext, hclose], hr'⟩

theorem closeElement_layer {r : Reading} {text name : String} (h : name ∉ telling) :
    r.closeElement text name (some "Layer") = r.closeField text name := by
  simp only [telling, List.mem_cons, List.not_mem_nil, not_or] at h
  simp [closeElement, h]

theorem ends_field {text name : String} {f : Layer → Layer} (hpath : p.path.head? = some "Layer")
    (hname : name ∉ telling)
    (h : ∀ r : Reading, r.closeField text name = .ok (r.updateLayer f)) :
    Ends text (p.enter name) (p.update f) := by
  apply ends_of_closeElement
  intro r hr
  refine ⟨r.updateLayer f, ?_, ?_⟩
  · rw [hpath, closeElement_layer hname, h]
  · rw [progress_updateLayer, hr]

theorem progress_closeService (r : Reading) (text name : String) :
    (r.closeService text name).progress = r.progress := by
  unfold closeService
  split <;> rfl

theorem closeField_other {r : Reading} {text name : String} (h : name ∉ tellingIn "Layer") :
    r.closeField text name = .ok r := by
  simp only [tellingIn, List.mem_cons, List.not_mem_nil, not_or] at h
  unfold closeField
  split <;> simp_all

theorem closeInBox_other {r : Reading} {text name : String}
    (h : name ∉ tellingIn "EX_GeographicBoundingBox") : r.closeInBox text name = .ok r := by
  simp only [tellingIn, List.mem_cons, List.not_mem_nil, not_or] at h
  unfold closeInBox
  split <;> simp_all

/-- The end of an element that says nothing about layers leaves them alone. -/
theorem closeElement_idle {r : Reading} {text name : String} {parent : Option String}
    (htelling : name ∉ telling) (hparent : ∀ s, parent = some s → name ∉ tellingIn s) :
    ∃ r', r.closeElement text name parent = .ok r' ∧ r'.progress = r.progress := by
  simp only [telling, List.mem_cons, List.not_mem_nil, not_or] at htelling
  simp only [closeElement, htelling, decide_false, Bool.or_false, Bool.false_eq_true, if_false]
  split
  · exact ⟨_, rfl, progress_closeService r text name⟩
  · refine ⟨_, rfl, ?_⟩
    split <;> rfl
  · exact ⟨r, closeField_other (hparent _ rfl), rfl⟩
  · have hname : name ≠ "Name" := fun h => hparent _ rfl (by simp [tellingIn, h])
    exact ⟨r, by simp [hname], rfl⟩
  · exact ⟨r, closeInBox_other (hparent _ rfl), rfl⟩
  · exact ⟨r, rfl, rfl⟩

theorem ends_idle {name : String} (text : String) (htelling : name ∉ telling)
    (hparent : ∀ s, p.path.head? = some s → name ∉ tellingIn s) : Ends text (p.enter name) p := by
  apply ends_of_closeElement
  intro r hr
  have hidle : ∃ r', r.closeElement text name p.path.head? = .ok r' ∧ r'.progress = r.progress :=
    closeElement_idle htelling hparent
  obtain ⟨r', hclose, hr'⟩ := hidle
  exact ⟨r', hclose, hr'.trans hr⟩

/-! ### Content without a meaning -/

theorem leads_idle {parent : String} (hpiece : piece.asElement? = some (tag, content))
    (hpath : p.path.head? = some parent) (hidle : isIdle parent tag = true)
    (hcontent : Leads (Piece.eventsAll content) (p.enter tag.localName) (p.enter tag.localName)) :
    Leads piece.events p p := by
  obtain ⟨htelling, hparent, -⟩ := isIdle_iff.mp hidle
  apply leads_element hpiece (begins_idle hpath hidle) hcontent
  intro text
  apply ends_idle text htelling
  intro s hs
  rw [hpath] at hs
  cases hs
  exact hparent

mutual

/-- Content that says nothing about layers leaves them alone. -/
theorem leads_quiet {p : Progress} {parent : String} (piece : Piece)
    (hpath : p.path.head? = some parent) (h : isQuiet parent piece = true) :
    Leads piece.events p p := by
  match piece with
  | .text s => exact fun r hr => ⟨{ r with text := r.text ++ s }, rfl, hr⟩
  | .characters s => exact fun r hr => ⟨{ r with text := r.text ++ s }, rfl, hr⟩
  | .empty tag => exact leads_idle rfl hpath h (Leads.nil _)
  | .element tag content =>
      obtain ⟨hidle, hcontent⟩ := Bool.and_eq_true_iff.mp h
      exact leads_idle rfl hpath hidle (leads_quietAll content rfl hcontent)
termination_by structural piece

theorem leads_quietAll {p : Progress} {parent : String} (pieces : List Piece)
    (hpath : p.path.head? = some parent) (h : areQuiet parent pieces = true) :
    Leads (Piece.eventsAll pieces) p p := by
  match pieces with
  | [] => exact Leads.nil p
  | piece :: rest =>
      obtain ⟨hpiece, hrest⟩ := Bool.and_eq_true_iff.mp h
      exact (leads_quiet piece hpath hpiece).append (leads_quietAll rest hpath hrest)
termination_by structural pieces

end

end MapContext.Capabilities.Reading
