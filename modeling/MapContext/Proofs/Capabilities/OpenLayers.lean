import Mathlib.Data.List.Induction
import MapContext.Proofs.Capabilities.Outlines
import MapContext.Proofs.Capabilities.Truncation

/-!
# Open layers follow open elements

The reading keeps two stacks: names of open elements, and open layers. They are pushed and popped in
different places, but whatever stands where in a document, the open layers are at every moment the
records of the open Layer elements, innermost first. So a layer that ends goes into the innermost
Layer element around it, a field is that of the element it stands in, and until the first outermost
layer ends no layer is lost.
-/

namespace MapContext.Capabilities

open Xml

/-! ### What one event changes -/

namespace Reading

variable {r r' : Reading} {tag : Tag} {o : Outline} {layer layer' : Layer} {name text : String}
  {parent : Option String}

theorem read?_of_number {x : Float} (h : number name text = .ok x) :
    Decimal.read? (Text.trim text) = some x := by
  unfold number at h
  split at h
  · next y hy =>
      cases h
      exact hy
  · cases h

theorem attribute?_eq_ok {key : String} {value : Option String}
    (h : attribute? tag key = .ok value) : tag.attribute? key = .ok value := by
  unfold attribute? at h
  split at h
  · next v hv =>
      cases h
      exact hv
  · cases h

/-- The end of an element that tells a field changes that field of the innermost open layer. -/
theorem closeField_eq_ok (h : r.closeField text name = .ok r') (hname : name ∈ fieldNames) :
    ∃ f : Layer → Layer, r' = r.updateLayer f ∧ (∀ layer, (f layer).layers = layer.layers) ∧
      ∀ (o : Outline) (layer : Layer), o.Fields layer → (o.tell name text).Fields (f layer) := by
  unfold closeField at h
  split at h
  case h_6 | h_7 =>
    obtain ⟨x, hx, h⟩ := bind_eq_ok_iff.mp h
    cases h
    refine ⟨_, rfl, fun _ => rfl, fun o layer hfields => ?_⟩
    apply hfields.tell <;> simp [read?_of_number hx]
  case h_8 => simp_all [fieldNames]
  all_goals
    cases h
    refine ⟨_, rfl, fun _ => rfl, fun o layer hfields => ?_⟩
    apply hfields.tell <;> simp

theorem openLayers_updateLayer (r : Reading) (f : Layer → Layer) :
    (r.updateLayer f).openLayers = r.openLayers.modifyHead f := by
  unfold updateLayer
  split <;> simp [*]

/-- At most the extent and the styles of the innermost open layer change. -/
def Dressed (r r' : Reading) : Prop :=
  ∃ f, Dresses f ∧ r'.openLayers = r.openLayers.modifyHead f

theorem Dressed.of_eq (h : r'.openLayers = r.openLayers) : Dressed r r' :=
  ⟨id, dresses_id, by rw [h, List.modifyHead_id, id]⟩

theorem Dressed.of_updateLayer {f : Layer → Layer} (hf : Dresses f) (r : Reading) :
    Dressed r (r.updateLayer f) :=
  ⟨f, hf, openLayers_updateLayer r f⟩

theorem dressed_closeBox (r : Reading) : Dressed r r.closeBox := by
  unfold closeBox
  split
  · next box _ =>
      exact .of_updateLayer (fun layer => ⟨some box, layer.styles, rfl⟩)
        { r with pendingBox := none }
  · exact .of_eq rfl

theorem dressed_closeInBox (h : r.closeInBox text name = .ok r') : Dressed r r' := by
  unfold closeInBox at h
  split at h
  case h_5 =>
    cases h
    exact .of_eq rfl
  all_goals
    obtain ⟨x, -, h⟩ := bind_eq_ok_iff.mp h
    cases h
    exact .of_eq rfl

theorem dressed_closeField (h : r.closeField text name = .ok r') (hname : name ∉ fieldNames) :
    Dressed r r' := by
  unfold closeField at h
  split at h
  case h_8 =>
    cases h
    exact .of_eq rfl
  all_goals exact absurd (by decide) hname

/-- Only the end of a layer and of a field directly inside a layer do more than that. -/
theorem dressed_closeElement (h : r.closeElement text name parent = .ok r')
    (hlayer : name ≠ "Layer") (hfield : parent = some "Layer" → name ∉ fieldNames) :
    Dressed r r' := by
  unfold closeElement at h
  split at h
  · cases h
    exact .of_eq rfl
  · split at h
    · cases h
      exact dressed_closeBox r
    · split at h
      · cases h
        unfold closeService
        split <;> exact .of_eq rfl
      · cases h
        split <;> exact .of_eq rfl
      · exact dressed_closeField h (hfield rfl)
      · cases h
        split
        · exact .of_updateLayer (fun layer => ⟨layer.bbox, layer.styles ++ [text], rfl⟩) r
        · exact .of_eq rfl
      · exact dressed_closeInBox h
      · cases h
        exact .of_eq rfl

/-- A field directly inside a layer is read as such. -/
theorem closeElement_field (r : Reading) (hname : name ∈ fieldNames) (text : String) :
    r.closeElement text name (some "Layer") = r.closeField text name := by
  apply closeElement_layer
  revert name
  decide

theorem closeLayer_eq {own : Layer} {outer : List Layer} (h : r.openLayers = own :: outer) :
    r.closeLayer = { r with
      openLayers := outer.modifyHead fun layer => { layer with layers := layer.layers ++ [own] }
      rootLayer := if outer = [] then r.rootLayer.or (some own) else r.rootLayer } := by
  unfold closeLayer
  rw [h]
  cases outer <;> rfl

/-- The beginning of an element opens its layer if it is a layer, and otherwise changes no more than
the extent of the innermost open layer. -/
theorem openLayers_begin (h : r.begin tag = .ok r') :
    (tag.localName = "Layer" ∧ ∃ queryable, Written.Answers tag queryable ∧
        r'.openLayers = { queryable } :: r.openLayers) ∨
      (tag.localName ≠ "Layer" ∧ Dressed r r') := by
  simp only [Reading.begin] at h
  split at h
  · obtain ⟨inner, hinner, h⟩ := bind_eq_ok_iff.mp h
    cases h
    obtain ⟨hlayer, -⟩ := beginRoot_eq_ok hinner
    refine .inr ⟨hlayer, .of_eq ?_⟩
    unfold beginRoot at hinner
    split at hinner
    · obtain ⟨version, -, hinner⟩ := bind_eq_ok_iff.mp hinner
      cases hinner
      rfl
    · split at hinner <;> cases hinner
      rfl
  · obtain ⟨inner, hinner, h⟩ := bind_eq_ok_iff.mp h
    cases h
    unfold beginInner at hinner
    split at hinner
    · next hlayer =>
        obtain ⟨value, hvalue, hinner⟩ := bind_eq_ok_iff.mp hinner
        cases hinner
        exact .inl ⟨hlayer, _, ⟨value, attribute?_eq_ok hvalue, rfl⟩, rfl⟩
    · next hlayer =>
        refine .inr ⟨hlayer, ?_⟩
        split at hinner
        · cases hinner
          exact .of_eq rfl
        · split at hinner
          · obtain ⟨minX, -, hinner⟩ := bind_eq_ok_iff.mp hinner
            obtain ⟨minY, -, hinner⟩ := bind_eq_ok_iff.mp hinner
            obtain ⟨maxX, -, hinner⟩ := bind_eq_ok_iff.mp hinner
            obtain ⟨maxY, -, hinner⟩ := bind_eq_ok_iff.mp hinner
            cases hinner
            exact .of_updateLayer
              (fun layer => ⟨some ⟨minX, minY, maxX, maxY⟩, layer.styles, rfl⟩) r
          · split at hinner
            · obtain ⟨href, -, hinner⟩ := bind_eq_ok_iff.mp hinner
              split_ifs at hinner
              all_goals
                cases hinner
                exact .of_eq rfl
            · cases hinner
              exact .of_eq rfl

end Reading

/-- The end of an element that is no layer tells the innermost open layer what it tells the element
around. -/
theorem records_closeElement {r r' : Reading} {name text : String} {parent : Option String}
    (h : r.closeElement text name parent = .ok r') (hname : name ≠ "Layer") :
    ∃ f : Layer → Layer, r'.openLayers = r.openLayers.modifyHead f ∧
      (∀ layer, (f layer).layers = layer.layers) ∧
      (parent = some "Layer" → ∀ o layer, Records o layer →
        Records (o.tell name text) (f layer)) ∧
      (parent ≠ some "Layer" → ∀ o layer, Records o layer → Records o (f layer)) := by
  by_cases hfield : parent = some "Layer" ∧ name ∈ fieldNames
  · obtain ⟨rfl, hfield⟩ := hfield
    rw [Reading.closeElement_field r hfield] at h
    obtain ⟨f, rfl, hkept, htold⟩ := Reading.closeField_eq_ok h hfield
    refine ⟨f, Reading.openLayers_updateLayer r f, hkept, fun _ o layer hrecord => ?_,
      fun hparent => absurd rfl hparent⟩
    obtain ⟨hfields, hinner⟩ := hrecord
    exact ⟨htold o layer hfields, hkept layer ▸ hinner⟩
  · obtain ⟨f, hf, hlayers⟩ := Reading.dressed_closeElement h hname fun hparent hname =>
      hfield ⟨hparent, hname⟩
    refine ⟨f, hlayers, layers_of_dresses hf, fun hparent o layer hrecord => ?_,
      fun _ o layer hrecord => hrecord.dress hf⟩
    exact (hrecord.tell_other (fun hname => hfield ⟨hparent, hname⟩) text).dress hf

/-! ### Every event keeps pace -/

/-- The reading knows of elements what the events told of them. -/
structure Follows (s : Survey) (r : Reading) : Prop where
  /-- The open elements. -/
  path : r.path = s.opened.map (·.name)
  /-- The text since the last tag. -/
  text : r.text = s.text
  /-- The open layers are the records of the open Layer elements. -/
  layers : List.Forall₂ Records (s.opened.filter (·.isLayer)) r.openLayers
  /-- The layer tree is the record of the first outermost Layer element that ended. -/
  tree : Option.Rel Records s.trees.head? r.rootLayer

namespace Follows

open Reading

variable {s : Survey} {r r' : Reading} {tag : Tag} {events : List Event}

theorem start : Follows {} {} := ⟨rfl, rfl, .nil, .none⟩

theorem begin (h : Follows s r) (hbegin : r.begin tag = .ok r') : Follows (s.begin tag) r' := by
  have hopened := opened_begin hbegin
  refine ⟨?_, hopened.text, ?_, ?_⟩
  · rw [hopened.path, h.path]
    rfl
  · rcases openLayers_begin hbegin with ⟨hlayer, queryable, hanswers, hlayers⟩ |
      ⟨hlayer, f, hf, hlayers⟩
    · have hopens : Outline.isLayer { tag } = true := beq_iff_eq.mpr hlayer
      rw [Survey.begin, List.filter_cons_of_pos hopens, hlayers]
      exact .cons (.begin hanswers) h.layers
    · have hopens : ¬Outline.isLayer { tag } = true := fun hname => hlayer (beq_iff_eq.mp hname)
      rw [Survey.begin, List.filter_cons_of_neg hopens, hlayers]
      exact records_dress h.layers hf
  · rw [hopened.rootLayer]
    exact h.tree

/-- The innermost open layer is that of the Layer element that ends, and it goes into the innermost
Layer element around, or else into the layer tree. -/
theorem finish_layer {o : Outline} {around : List Outline} (h : Follows s r)
    (hs : s.opened = o :: around) (ho : o.isLayer = true) :
    ∃ own outer, r.openLayers = own :: outer ∧ Records o own ∧
      List.Forall₂ Records (around.filter (·.isLayer)) outer ∧
      r.close = .ok { r with
        path := around.map (·.name)
        openLayers := outer.modifyHead fun layer => { layer with layers := layer.layers ++ [own] }
        rootLayer := if outer = [] then r.rootLayer.or (some own) else r.rootLayer } := by
  have hpath : r.path = o.name :: around.map (·.name) := by
    rw [h.path, hs]
    rfl
  have hname : o.name = "Layer" := beq_iff_eq.mp ho
  have hlayers := h.layers
  rw [hs, List.filter_cons_of_pos ho] at hlayers
  obtain ⟨own, outer, hown, houter, hopen⟩ := List.forall₂_cons_left_iff.mp hlayers
  refine ⟨own, outer, hopen, hown, houter, ?_⟩
  unfold Reading.close
  rw [hpath, hname]
  exact congrArg Except.ok (closeLayer_eq (r := { r with path := around.map (·.name) }) hopen)

theorem any_isLayer_iff {around : List Outline} {outer : List Layer}
    (h : List.Forall₂ Records (around.filter (·.isLayer)) outer) :
    around.any (·.isLayer) = true ↔ outer ≠ [] := by
  rw [ne_eq, ← List.length_eq_zero_iff, ← h.length_eq, List.length_eq_zero_iff,
    List.filter_eq_nil_iff, List.any_eq_true]
  push Not
  rfl

theorem rel_or {a : Option Outline} {b : Option Layer} {o : Outline} {own : Layer}
    (h : Option.Rel Records a b) (hown : Records o own) :
    Option.Rel Records (a.or (some o)) (b.or (some own)) := by
  cases h with
  | some hrecord => exact .some hrecord
  | none => exact .some hown

theorem finish (h : Follows s r) (hclose : r.close = .ok r') :
    Follows s.finish { r' with text := "" } := by
  unfold Survey.finish
  split
  · next hs =>
      have hpath : r.path = [] := by
        rw [h.path, hs]
        rfl
      unfold Reading.close at hclose
      rw [hpath] at hclose
      cases hclose
      exact ⟨h.path, rfl, h.layers, h.tree⟩
  · next o around hs =>
      by_cases ho : o.isLayer = true
      · obtain ⟨own, outer, -, hown, houter, hr'⟩ := h.finish_layer hs ho
        rw [hclose] at hr'
        cases hr'
        have hname : o.name = "Layer" := beq_iff_eq.mp ho
        have htold := records_tell o.name (Text.trim s.text) (f := id) houter
          (fun _ o layer hrecord => hrecord.tell_other (by rw [hname]; decide) _)
          (fun _ _ _ hrecord => hrecord)
        rw [List.modifyHead_id, id] at htold
        simp only [if_pos ho]
        refine ⟨?_, rfl, ?_, ?_⟩
        · rw [map_name_hang, map_name_tell]
        · rw [filter_hang]
          exact records_modifyHead htold fun _ _ hrecord => hrecord.attach hown
        · by_cases houtermost : outer = []
          · have hnone : ¬(around.modifyHead (·.tell o.name (Text.trim s.text))).any
                (·.isLayer) = true := fun hany => any_isLayer_iff htold |>.mp hany houtermost
            rw [if_neg hnone, if_pos houtermost, List.head?_append]
            exact rel_or h.tree hown
          · rw [if_pos ((any_isLayer_iff htold).mpr houtermost), if_neg houtermost]
            exact h.tree
      · have hname : o.name ≠ "Layer" := fun hname => ho (beq_iff_eq.mpr hname)
        have hpath : r.path = o.name :: around.map (·.name) := by
          rw [h.path, hs]
          rfl
        have hlayers := h.layers
        rw [hs, List.filter_cons_of_neg ho] at hlayers
        unfold Reading.close at hclose
        rw [hpath] at hclose
        have hclosed := closed_closeElement hclose
        obtain ⟨f, hopen, -, hlayer, hother⟩ := records_closeElement hclose hname
        simp only [if_neg ho]
        refine ⟨?_, rfl, ?_, ?_⟩
        · rw [map_name_tell]
          exact hclosed.path
        · rw [hopen, ← h.text]
          exact records_tell _ _ hlayers hlayer hother
        · rw [hclosed.rootLayer, completed?_of_ne _ hname, Option.or_none]
          exact h.tree

theorem step {event : Event} (h : Follows s r) (hstep : r.step event = .ok r') :
    Follows (s.step event) r' := by
  cases event with
  | start tag => exact h.begin hstep
  | empty tag =>
      obtain ⟨r₁, hbegin, hclose⟩ := bind_eq_ok_iff.mp hstep
      have hfinish := (h.begin hbegin).finish hclose
      rwa [← (text_close hclose).trans (opened_begin hbegin).text] at hfinish
  | text t =>
      cases hstep
      exact ⟨h.path, congrArg (· ++ t) h.text, h.layers, h.tree⟩
  | characters t =>
      cases hstep
      exact ⟨h.path, congrArg (· ++ t) h.text, h.layers, h.tree⟩
  | finish =>
      obtain ⟨r₁, hclose, hr'⟩ := bind_eq_ok_iff.mp hstep
      cases hr'
      exact h.finish hclose

theorem of_run (h : Reading.run {} events = .ok r) : Follows (survey events) r := by
  induction events using List.reverseRecOn generalizing r with
  | nil =>
      cases h
      exact start
  | append_singleton events event ih =>
      obtain ⟨r₁, hrun, hstep⟩ := run_append_eq_ok_iff.mp h
      rw [run_singleton] at hstep
      rw [survey_concat]
      exact (ih hrun).step hstep

end Follows

/-! ### No layer is lost -/

/-- Whether the event begins a Layer element. -/
def beginsLayer : Event → Bool
  | .start tag => tag.localName == "Layer"
  | .empty tag => tag.localName == "Layer"
  | _ => false

section Counting

open Layer

theorem count_eq (layer : Layer) : layer.count = countAll layer.layers + 1 := by
  cases layer
  rw [count]

theorem countAll_append (layers more : List Layer) :
    countAll (layers ++ more) = countAll layers + countAll more := by
  induction layers with
  | nil => rw [List.nil_append, countAll, Nat.zero_add]
  | cons layer rest ih => rw [List.cons_append, countAll, countAll, ih, Nat.add_assoc]

theorem countAll_modifyHead {f : Layer → Layer} (hf : ∀ layer, (f layer).layers = layer.layers)
    (layers : List Layer) : countAll (layers.modifyHead f) = countAll layers := by
  cases layers with
  | nil => rfl
  | cons layer rest => rw [List.modifyHead_cons, countAll, countAll, count_eq, hf, count_eq]

/-- A layer counts the same inside another one as before it. -/
theorem countAll_attach (own layer : Layer) (rest : List Layer) :
    countAll ({ layer with layers := layer.layers ++ [own] } :: rest) =
      countAll (own :: layer :: rest) := by
  simp only [countAll, count_eq layer, count_eq { layer with layers := layer.layers ++ [own] },
    countAll_append]
  omega

variable {r r' : Reading} {tag : Tag} {events : List Event} {event : Event}

/-- All layers met before there is a layer tree. -/
def Reading.met (r : Reading) : List Layer := r.openLayers ++ r.rootLayer.toList

theorem countAll_begin (h : r.begin tag = .ok r') :
    countAll r'.openLayers =
      countAll r.openLayers + if tag.localName = "Layer" then 1 else 0 := by
  rcases Reading.openLayers_begin h with ⟨hlayer, queryable, -, hopen⟩ | ⟨hlayer, f, hf, hopen⟩
  · rw [hopen, if_pos hlayer, countAll, count_eq, countAll]
    omega
  · rw [hopen, if_neg hlayer, countAll_modifyHead (layers_of_dresses hf)]
    rfl

theorem countAll_closeLayer (r : Reading) (hr : r.rootLayer = none) :
    countAll r.closeLayer.met = countAll r.openLayers := by
  cases hopen : r.openLayers with
  | nil => simp [Reading.closeLayer, Reading.met, hopen, hr]
  | cons own outer =>
      rw [Reading.closeLayer_eq hopen, Reading.met]
      cases outer with
      | nil => simp [hr]
      | cons layer rest =>
          simp only [List.modifyHead_cons, reduceCtorEq, if_false, hr, Option.toList_none,
            List.append_nil]
          exact countAll_attach own layer rest

/-- The end of an element keeps all layers. -/
theorem countAll_close (h : r.close = .ok r') (hr : r.rootLayer = none) :
    countAll r'.met = countAll r.openLayers := by
  unfold Reading.close at h
  split at h
  · cases h
    rw [Reading.met, hr, Option.toList_none, List.append_nil]
  · next name around hpath =>
      by_cases hname : name = "Layer"
      · subst hname
        cases h
        exact countAll_closeLayer { r with path := around } hr
      · have hclosed := Reading.closed_closeElement h
        obtain ⟨f, hopen, hkept, -, -⟩ := records_closeElement h hname
        rw [Reading.met, hclosed.rootLayer, Reading.completed?_of_ne _ hname, Option.or_none, hr,
          Option.toList_none, List.append_nil, hopen, countAll_modifyHead hkept]

/-- One event adds the layer that it begins. -/
theorem countAll_step (h : r.step event = .ok r') (hr : r.rootLayer = none) :
    countAll r'.met = countAll r.openLayers + if beginsLayer event = true then 1 else 0 := by
  have hmet : countAll r.met = countAll r.openLayers := by
    rw [Reading.met, hr, Option.toList_none, List.append_nil]
  cases event with
  | start tag =>
      rw [Reading.met, (Reading.opened_begin h).rootLayer, hr, Option.toList_none, List.append_nil,
        countAll_begin h]
      simp only [beginsLayer, beq_iff_eq]
  | empty tag =>
      obtain ⟨r₁, hbegin, hclose⟩ := bind_eq_ok_iff.mp h
      rw [countAll_close hclose ((Reading.opened_begin hbegin).rootLayer.trans hr),
        countAll_begin hbegin]
      simp only [beginsLayer, beq_iff_eq]
  | text t =>
      cases h
      exact hmet
  | characters t =>
      cases h
      exact hmet
  | finish =>
      obtain ⟨r₁, hclose, hr'⟩ := bind_eq_ok_iff.mp h
      cases hr'
      have hkept := countAll_close hclose hr
      exact hkept

/-- While there is no layer tree, all layers met are open layers or inside them. -/
theorem countAll_run (h : Reading.run {} events = .ok r) (hr : r.rootLayer = none) :
    countAll r.openLayers = events.countP beginsLayer := by
  induction events using List.reverseRecOn generalizing r with
  | nil =>
      cases h
      rfl
  | append_singleton events event ih =>
      obtain ⟨r₁, hrun, hstep⟩ := Reading.run_append_eq_ok_iff.mp h
      rw [Reading.run_singleton] at hstep
      have hr₁ : r₁.rootLayer = none := by
        rw [Option.eq_none_iff_forall_ne_some]
        intro layer hlayer
        rw [Reading.rootLayer_step hlayer hstep] at hr
        cases hr
      have hcount := countAll_step hstep hr₁
      rw [Reading.met, hr, Option.toList_none, List.append_nil, ih hrun hr₁] at hcount
      rw [hcount, List.countP_append, List.countP_singleton]

/-- Layers that are counted were begun, the first of them after all events before. -/
theorem exists_first_layer (h : 0 < events.countP beginsLayer) :
    ∃ before opening inside, events = before ++ opening :: inside ∧
      (∀ e ∈ before, beginsLayer e = false) ∧ beginsLayer opening = true ∧
      (opening :: inside).countP beginsLayer = events.countP beginsLayer := by
  obtain ⟨e, he, hlayer⟩ := List.countP_pos_iff.mp h
  obtain ⟨opening, before, inside, hbefore, hopening, hevents, -⟩ :=
    List.exists_of_eraseP he hlayer
  have hnone : ∀ e ∈ before, beginsLayer e = false := fun e he => by simpa using hbefore e he
  refine ⟨before, opening, inside, hevents, hnone, hopening, ?_⟩
  have hbefore : before.countP beginsLayer = 0 := List.countP_eq_zero.mpr hbefore
  rw [hevents, List.countP_append, hbefore, Nat.zero_add]

end Counting

/-! ### The discipline -/

/-- How what has been read stands to the elements that the events told of. -/
structure InStep (events : List Event) (r : Reading) : Prop where
  /-- The open elements. -/
  path : r.path = (survey events).opened.map (·.name)
  /-- As many layers are open as Layer elements. -/
  depth : r.openLayers.length = r.path.count "Layer"
  /-- Each open layer is the record of its Layer element. -/
  layers : List.Forall₂ Records ((survey events).opened.filter (·.isLayer)) r.openLayers
  /-- The layer tree is the record of the first outermost Layer element that ended. -/
  tree : Option.Rel Records (survey events).trees.head? r.rootLayer
  /-- A Layer element that ends finds its own record innermost, and this goes into the record of the
  innermost Layer element around, or into the layer tree if there is none. -/
  ended : ∀ o around, (survey events).opened = o :: around → o.isLayer = true →
    ∃ own outer, r.openLayers = own :: outer ∧ Records o own ∧
      List.Forall₂ Records (around.filter (·.isLayer)) outer ∧
      r.close = .ok { r with
        path := around.map (·.name)
        openLayers := outer.modifyHead fun layer => { layer with layers := layer.layers ++ [own] }
        rootLayer := if outer = [] then r.rootLayer.or (some own) else r.rootLayer }
  /-- A field directly inside a Layer element changes the record of this element alone. -/
  field : ∀ o parent around r', (survey events).opened = o :: parent :: around →
    parent.isLayer = true → o.name ∈ fieldNames → r.close = .ok r' →
    ∃ own own' outer, r.openLayers = own :: outer ∧ Records parent own ∧
      Records (parent.tell o.name (Text.trim r.text)) own' ∧
      r' = { r with path := (parent :: around).map (·.name), openLayers := own' :: outer }
  /-- The layer tree has as many layers as Layer elements began with its own or later. -/
  complete : ∀ event r' layer, r.step event = .ok r' → r.rootLayer = none →
    r'.rootLayer = some layer →
    ∃ before opening inside, events ++ [event] = before ++ opening :: inside ∧
      (∀ e ∈ before, beginsLayer e = false) ∧ beginsLayer opening = true ∧
      layer.count = (opening :: inside).countP beginsLayer

namespace Follows

variable {s : Survey} {r r' : Reading} {events : List Event}

theorem finish_field {o parent : Outline} {around : List Outline} (h : Follows s r)
    (hs : s.opened = o :: parent :: around) (hparent : parent.isLayer = true)
    (ho : o.name ∈ fieldNames) (hclose : r.close = .ok r') :
    ∃ own own' outer, r.openLayers = own :: outer ∧ Records parent own ∧
      Records (parent.tell o.name (Text.trim r.text)) own' ∧
      r' = { r with path := (parent :: around).map (·.name), openLayers := own' :: outer } := by
  have hpath : r.path = o.name :: (parent :: around).map (·.name) := by
    rw [h.path, hs]
    rfl
  have hname : parent.name = "Layer" := beq_iff_eq.mp hparent
  have hnot : ¬o.isLayer = true := by
    intro hlayer
    rw [beq_iff_eq.mp hlayer] at ho
    exact absurd ho (by decide)
  have hlayers := h.layers
  rw [hs, List.filter_cons_of_neg hnot, List.filter_cons_of_pos hparent] at hlayers
  obtain ⟨own, outer, hown, -, hopen⟩ := List.forall₂_cons_left_iff.mp hlayers
  unfold Reading.close at hclose
  rw [hpath] at hclose
  simp only [List.map_cons, List.head?_cons, hname] at hclose
  rw [Reading.closeElement_field _ ho] at hclose
  obtain ⟨f, rfl, hkept, htold⟩ := Reading.closeField_eq_ok hclose ho
  refine ⟨own, f own, outer, hopen, hown, ?_, ?_⟩
  · obtain ⟨hfields, hinner⟩ := hown
    exact ⟨htold parent own hfields, hkept own ▸ hinner⟩
  · simp only [Reading.updateLayer, hopen, List.map_cons, hname]

end Follows

theorem openLayers_of_close {r r' : Reading} {layer : Layer} (h : r.close = .ok r')
    (hr : r.rootLayer = none) (hr' : r'.rootLayer = some layer) : r'.openLayers = [] := by
  unfold Reading.close at h
  split at h
  · cases h
    rw [hr] at hr'
    cases hr'
  · next name around hpath =>
      have hclosed := Reading.closed_closeElement h
      rw [hclosed.rootLayer, hr, Option.none_or] at hr'
      obtain ⟨hname, hone⟩ := Reading.isSome_completed?_iff.mp (Option.isSome_of_eq_some hr')
      rw [← List.length_eq_zero_iff, hclosed.depth, hone, if_pos hname]

/-- When the layer tree is complete, no layer is open any more. -/
theorem openLayers_of_complete {r r' : Reading} {event : Event} {layer : Layer}
    (hstep : r.step event = .ok r') (hr : r.rootLayer = none) (hr' : r'.rootLayer = some layer) :
    r'.openLayers = [] := by
  cases event with
  | start tag =>
      rw [(Reading.opened_begin hstep).rootLayer, hr] at hr'
      cases hr'
  | empty tag =>
      obtain ⟨r₁, hbegin, hclose⟩ := bind_eq_ok_iff.mp hstep
      exact openLayers_of_close hclose ((Reading.opened_begin hbegin).rootLayer.trans hr) hr'
  | text t | characters t =>
      cases hstep
      have hnone := hr.symm.trans hr'
      cases hnone
  | finish =>
      obtain ⟨r₁, hclose, hr₁⟩ := bind_eq_ok_iff.mp hstep
      cases hr₁
      have hopen := openLayers_of_close hclose hr hr'
      exact hopen

/-- The complete layer tree counts all Layer elements, for the first of them is outermost. -/
theorem exists_first_of_complete {r r' : Reading} {events : List Event} {event : Event}
    {layer : Layer} (hrun : Reading.run {} events = .ok r) (hstep : r.step event = .ok r')
    (hr : r.rootLayer = none) (hr' : r'.rootLayer = some layer) :
    ∃ before opening inside, events ++ [event] = before ++ opening :: inside ∧
      (∀ e ∈ before, beginsLayer e = false) ∧ beginsLayer opening = true ∧
      layer.count = (opening :: inside).countP beginsLayer := by
  have hmet := countAll_step hstep hr
  rw [Reading.met, openLayers_of_complete hstep hr hr', hr', countAll_run hrun hr] at hmet
  have hcount : layer.count = (events ++ [event]).countP beginsLayer := by
    rw [List.countP_append, List.countP_singleton, ← hmet, List.nil_append, Option.toList_some,
      Layer.countAll, Layer.countAll, Nat.add_zero]
  rw [hcount]
  obtain ⟨before, opening, inside, hevents, hnone, hopening, hinside⟩ :=
    exists_first_layer (by rw [← hcount, count_eq]; exact Nat.succ_pos _)
  exact ⟨before, opening, inside, hevents, hnone, hopening, hinside.symm⟩

/-- After any events that could be read, whatever elements they begin and end, open layers and open
elements are in step. -/
theorem open_layers_in_step (events : List Event) (r : Reading)
    (h : Reading.run {} events = .ok r) : InStep events r := by
  have hfollows := Follows.of_run h
  refine ⟨hfollows.path, ?_, hfollows.layers, hfollows.tree, ?_, ?_, ?_⟩
  · have htracks := Reading.tracks_run h
    rw [htracks.depth, htracks.path]
  · intro o around hopened ho
    exact hfollows.finish_layer hopened ho
  · intro o parent around r' hopened hparent ho hclose
    exact hfollows.finish_field hopened hparent ho hclose
  · intro event r' layer hstep hr hr'
    exact exists_first_of_complete h hstep hr hr'

/-- A document in disorder: a layer stands in an element without a meaning, a title in a style, and
a second outermost element follows the first. -/
def disorder : List Event :=
  [.start (plainTag "WMS_Capabilities"), .start (plainTag "Layer"), .start (plainTag "Unknown"),
    .start (plainTag "Layer"), .start (plainTag "Style"), .start (plainTag "Title"), .text "grey",
    .finish, .finish, .start (plainTag "Name"), .text "bridges", .finish, .finish, .finish, .finish,
    .finish, .empty (plainTag "ExceptionReport"), .start (plainTag "WMS_Capabilities"),
    .start (plainTag "Name"), .start (plainTag "Layer"), .start (plainTag "Title"), .text "World"]

/-- After all that, the layer inside is where it belongs, and its name is its own. -/
theorem disorder_in_step :
    ∃ r, Reading.run {} disorder = .ok r ∧ r.path = ["Title", "Layer", "Name", "WMS_Capabilities"] ∧
      (r.rootLayer.map fun layer => (layer.name, layer.layers.map (·.name))) =
        some (none, [some "bridges"]) ∧ InStep disorder r :=
  ⟨_, rfl, rfl, rfl, open_layers_in_step disorder _ rfl⟩

end MapContext.Capabilities
