import Mathlib.Data.List.Induction
import MapContext.Proofs.Capabilities.Steps

/-!
# Truncated documents

Elements that are left open at the end of a document are no fault of it, so a document that was cut
off is read like any other. It still never gives a part of the layer tree for the whole one: the
tree is taken once, when the first outermost layer ends, and there is none before.
-/

namespace MapContext

namespace Xml

/-- An element that has ended. -/
structure Ended where
  /-- Its name. -/
  name : String
  /-- Names of the elements around it, innermost first. -/
  around : List String
  /-- The text between the last tag inside it and its end. -/
  text : String

/-- What events leave behind: open elements and those that have ended. -/
structure Trail where
  /-- Names of the open elements, innermost first. -/
  opened : List String := []
  /-- The text since the last tag. -/
  text : String := ""
  /-- Elements in the order in which they ended. -/
  ended : List Ended := []

/-- An element begins. -/
def Trail.begin (t : Trail) (tag : Tag) : Trail :=
  { t with opened := tag.localName :: t.opened, text := "" }

/-- The innermost element ends, if one is open. -/
def Trail.finish (t : Trail) : Trail :=
  match t.opened with
  | [] => { t with text := "" }
  | name :: around => ⟨around, "", t.ended ++ [⟨name, around, t.text⟩]⟩

/-- What an event adds. -/
def Trail.step (t : Trail) : Event → Trail
  | .start tag => t.begin tag
  | .empty tag => (t.begin tag).finish
  | .text s => { t with text := t.text ++ s }
  | .characters s => { t with text := t.text ++ s }
  | .finish => t.finish

/-- What all events leave behind. -/
def trail (events : List Event) : Trail := events.foldl Trail.step {}

theorem trail_concat (events : List Event) (event : Event) :
    trail (events ++ [event]) = (trail events).step event := by
  rw [trail, List.foldl_append]
  rfl

end Xml

namespace Capabilities

open Xml

/-- A layer with no layer around it. -/
def IsOutermostLayer (e : Ended) : Prop := e.name = "Layer" ∧ "Layer" ∉ e.around

instance : DecidablePred IsOutermostLayer := fun _ => inferInstanceAs (Decidable (_ ∧ _))

/-- The first outermost layer is no longer open: an outermost layer has ended. -/
def LayerComplete (t : Trail) : Prop := ∃ e ∈ t.ended, IsOutermostLayer e

instance (t : Trail) : Decidable (LayerComplete t) :=
  inferInstanceAs (Decidable (∃ e ∈ t.ended, IsOutermostLayer e))

/-- Elements whose text is an error that the service reports. -/
def reportNames : List String := ["ServiceException", "ExceptionText"]

/-- The error that the service reported last. -/
def reported? (t : Trail) : Option String :=
  (t.ended.reverse.find? (·.name ∈ reportNames)).map (Text.trim ·.text)

/-- Why there is no layer tree. -/
def absence (t : Trail) : Error :=
  match reported? t with
  | some reason => .exception reason
  | none => .missingRootLayer

/-- The first event that cannot be read, and why. -/
def FailsWith (events : List Event) (e : Error) : Prop :=
  ∃ before event after r, events = before ++ event :: after ∧
    Reading.run {} before = .ok r ∧ r.step event = .error e

namespace Reading

variable {r r' : Reading} {tag : Tag} {value name : String} {parent : Option String} {t : Trail}

/-! ### What one event changes -/

/-- Two readings differ at most in the fields of layers and in what they know of the service. -/
structure Alike (r r' : Reading) : Prop where
  /-- The open elements. -/
  path : r'.path = r.path
  /-- The text since the last tag. -/
  text : r'.text = r.text
  /-- The number of open layers. -/
  depth : r'.openLayers.length = r.openLayers.length
  /-- The layer tree. -/
  rootLayer : r'.rootLayer = r.rootLayer
  /-- The error that the service reports. -/
  exception : r'.exception = r.exception

theorem Alike.refl (r : Reading) : Alike r r := ⟨rfl, rfl, rfl, rfl, rfl⟩

theorem alike_updateLayer (r : Reading) (f : Layer → Layer) : Alike r (r.updateLayer f) := by
  unfold updateLayer
  split
  · exact .refl r
  · next layer outer h => exact ⟨rfl, rfl, by simp [h], rfl, rfl⟩

theorem Alike.trans {r₁ r₂ r₃ : Reading} (h : Alike r₁ r₂) (h' : Alike r₂ r₃) : Alike r₁ r₃ :=
  ⟨h'.path.trans h.path, h'.text.trans h.text, h'.depth.trans h.depth,
    h'.rootLayer.trans h.rootLayer, h'.exception.trans h.exception⟩

theorem alike_closeBox (r : Reading) : Alike r r.closeBox := by
  have hdone : Alike r { r with pendingBox := none } := ⟨rfl, rfl, rfl, rfl, rfl⟩
  unfold closeBox
  split
  · exact hdone.trans (alike_updateLayer _ _)
  · exact hdone

theorem alike_closeService (r : Reading) (value name : String) :
    Alike r (r.closeService value name) := by
  unfold closeService
  split <;> exact ⟨rfl, rfl, rfl, rfl, rfl⟩

theorem alike_closeField (h : r.closeField value name = .ok r') : Alike r r' := by
  unfold closeField at h
  split at h
  case h_6 =>
    obtain ⟨x, -, h⟩ := bind_eq_ok_iff.mp h
    cases h
    exact alike_updateLayer r _
  case h_7 =>
    obtain ⟨x, -, h⟩ := bind_eq_ok_iff.mp h
    cases h
    exact alike_updateLayer r _
  case h_8 =>
    cases h
    exact .refl r
  all_goals
    cases h
    exact alike_updateLayer r _

theorem alike_closeEdge {put : Float → PartialBox → PartialBox}
    (h : r.closeEdge value name put = .ok r') : Alike r r' := by
  obtain ⟨x, -, h⟩ := bind_eq_ok_iff.mp h
  cases h
  exact ⟨rfl, rfl, rfl, rfl, rfl⟩

theorem alike_closeInBox (h : r.closeInBox value name = .ok r') : Alike r r' := by
  unfold closeInBox at h
  split at h
  case h_5 =>
    cases h
    exact .refl r
  all_goals exact alike_closeEdge h

/-- The layer that a reading takes for the layer tree when an element ends. -/
def completed? (r : Reading) (name : String) : Option Layer :=
  match r.openLayers with
  | [layer] => if name = "Layer" then some layer else none
  | _ => none

theorem completed?_of_ne (r : Reading) (h : name ≠ "Layer") : r.completed? name = none := by
  unfold completed?
  split
  · exact if_neg h
  · rfl

theorem isSome_completed?_iff :
    (r.completed? name).isSome = true ↔ name = "Layer" ∧ r.openLayers.length = 1 := by
  unfold completed?
  split
  · next h => by_cases hname : name = "Layer" <;> simp [h, hname]
  · next h =>
      refine iff_of_false (by simp) fun ⟨_, hlength⟩ => ?_
      obtain ⟨layer, hlayer⟩ := List.length_eq_one_iff.mp hlength
      exact h layer hlayer

/-- What the end of an element changes. -/
structure Closed (r r' : Reading) (value name : String) : Prop where
  /-- The open elements stay. -/
  path : r'.path = r.path
  /-- The text stays. -/
  text : r'.text = r.text
  /-- The end of a layer takes one from the open layers. -/
  depth : r'.openLayers.length = r.openLayers.length - if name = "Layer" then 1 else 0
  /-- The layer tree is taken once. -/
  rootLayer : r'.rootLayer = r.rootLayer.or (r.completed? name)
  /-- Elements that report an error do so with their text. -/
  exception : r'.exception = if name ∈ reportNames then some value else r.exception

theorem Alike.closed (h : Alike r r') (hlayer : name ≠ "Layer") (hreport : name ∉ reportNames)
    (value : String) : Closed r r' value name where
  path := h.path
  text := h.text
  depth := by rw [h.depth, if_neg hlayer, Nat.sub_zero]
  rootLayer := by rw [h.rootLayer, completed?_of_ne r hlayer, Option.or_none]
  exception := by rw [h.exception, if_neg hreport]

theorem closed_closeLayer (r : Reading) (value : String) :
    Closed r r.closeLayer value "Layer" := by
  unfold closeLayer
  split
  · next h => exact ⟨rfl, rfl, by simp [h], by simp [completed?, h], rfl⟩
  · next layer h => exact ⟨rfl, rfl, by simp [h], by simp [completed?, h], rfl⟩
  · next layer outer rest h => exact ⟨rfl, rfl, by simp [h], by simp [completed?, h], rfl⟩

theorem closed_closeElement (h : r.closeElement value name parent = .ok r') :
    Closed r r' value name := by
  unfold closeElement at h
  split at h
  · next hreport =>
      -- an element that reports an error
      have hreport : name ∈ reportNames := by simpa [reportNames] using hreport
      have hlayer : name ≠ "Layer" := by
        rintro rfl
        exact absurd hreport (by decide)
      cases h
      refine ⟨rfl, rfl, by rw [if_neg hlayer, Nat.sub_zero], ?_, by rw [if_pos hreport]⟩
      rw [completed?_of_ne r hlayer, Option.or_none]
  · next hreport =>
      have hreport : name ∉ reportNames := by simpa [reportNames] using hreport
      split at h
      · next hlayer =>
          cases h
          subst hlayer
          exact closed_closeLayer r value
      · next hlayer =>
          suffices Alike r r' from this.closed hlayer hreport value
          split at h
          · cases h
            exact alike_closeBox r
          · split at h
            · cases h
              exact alike_closeService r value name
            · cases h
              split
              · exact ⟨rfl, rfl, rfl, rfl, rfl⟩
              · exact .refl r
            · exact alike_closeField h
            · cases h
              split
              · exact alike_updateLayer r _
              · exact .refl r
            · exact alike_closeInBox h
            · cases h
              exact .refl r

/-- What the beginning of an element changes. -/
structure Opened (r r' : Reading) (name : String) : Prop where
  /-- The element is open. -/
  path : r'.path = name :: r.path
  /-- The text begins anew. -/
  text : r'.text = ""
  /-- A layer is added to the open layers. -/
  depth : r'.openLayers.length = r.openLayers.length + if name = "Layer" then 1 else 0
  /-- The layer tree stays. -/
  rootLayer : r'.rootLayer = r.rootLayer
  /-- The reported error stays. -/
  exception : r'.exception = r.exception

theorem beginRoot_eq_ok (h : r.beginRoot name tag = .ok r') : name ≠ "Layer" ∧ Alike r r' := by
  unfold beginRoot at h
  split at h
  · next hname =>
      obtain ⟨version, -, h⟩ := bind_eq_ok_iff.mp h
      cases h
      refine ⟨?_, rfl, rfl, rfl, rfl, rfl⟩
      rintro rfl
      simp at hname
  · split at h
    · next hname =>
        cases h
        refine ⟨?_, .refl r⟩
        rintro rfl
        simp at hname
    · cases h

theorem beginInner_eq_ok (h : r.beginInner name tag = .ok r') :
    (name = "Layer" ∧ ∃ layer, r' = { r with openLayers := layer :: r.openLayers }) ∨
      (name ≠ "Layer" ∧ Alike r r') := by
  unfold beginInner at h
  split at h
  · next hlayer =>
      obtain ⟨queryable, -, h⟩ := bind_eq_ok_iff.mp h
      cases h
      exact .inl ⟨hlayer, _, rfl⟩
  · next hlayer =>
      refine .inr ⟨hlayer, ?_⟩
      split at h
      · cases h
        exact ⟨rfl, rfl, rfl, rfl, rfl⟩
      · split at h
        · obtain ⟨minX, -, h⟩ := bind_eq_ok_iff.mp h
          obtain ⟨minY, -, h⟩ := bind_eq_ok_iff.mp h
          obtain ⟨maxX, -, h⟩ := bind_eq_ok_iff.mp h
          obtain ⟨maxY, -, h⟩ := bind_eq_ok_iff.mp h
          cases h
          exact alike_updateLayer r _
        · split at h
          · obtain ⟨href, -, h⟩ := bind_eq_ok_iff.mp h
            split_ifs at h
            all_goals
              cases h
              exact ⟨rfl, rfl, rfl, rfl, rfl⟩
          · cases h
            exact .refl r

theorem opened_begin (h : r.begin tag = .ok r') : Opened r r' tag.localName := by
  obtain ⟨inner, hinner, rfl⟩ : ∃ inner, ((tag.localName = "Layer" ∧ ∃ layer,
      inner = { r with openLayers := layer :: r.openLayers }) ∨
      (tag.localName ≠ "Layer" ∧ Alike r inner)) ∧
      r' = { inner with path := tag.localName :: inner.path, text := "" } := by
    simp only [Reading.begin] at h
    split at h
    · obtain ⟨inner, hinner, h⟩ := bind_eq_ok_iff.mp h
      cases h
      exact ⟨inner, .inr (beginRoot_eq_ok hinner), rfl⟩
    · obtain ⟨inner, hinner, h⟩ := bind_eq_ok_iff.mp h
      cases h
      exact ⟨inner, beginInner_eq_ok hinner, rfl⟩
  rcases hinner with ⟨hlayer, layer, rfl⟩ | ⟨hlayer, halike⟩
  · exact ⟨rfl, rfl, by rw [if_pos hlayer]; rfl, rfl, rfl⟩
  · refine ⟨congrArg _ halike.path, rfl, ?_, halike.rootLayer, halike.exception⟩
    rw [if_neg hlayer]
    exact halike.depth

/-! ### What all events change -/

/-- A reading knows as much as the trail of the events tells: which elements are open, how many of
them are layers, whether an outermost layer has ended, and the error that was reported last. -/
structure Tracks (r : Reading) (t : Trail) : Prop where
  /-- The open elements. -/
  path : r.path = t.opened
  /-- The text since the last tag. -/
  text : r.text = t.text
  /-- Of the open elements, the layers have records. -/
  depth : r.openLayers.length = t.opened.count "Layer"
  /-- The layer tree is there once an outermost layer has ended. -/
  rootLayer : r.rootLayer.isSome = true ↔ LayerComplete t
  /-- The last reported error counts. -/
  exception : r.exception = reported? t

theorem tracks_start : Tracks {} {} where
  path := rfl
  text := rfl
  depth := rfl
  rootLayer := by simp [LayerComplete]
  exception := rfl

theorem Tracks.begin (h : Tracks r t) (hbegin : r.begin tag = .ok r') :
    Tracks r' (t.begin tag) := by
  have hopened := opened_begin hbegin
  refine ⟨?_, hopened.text, ?_, ?_, hopened.exception.trans h.exception⟩
  · rw [hopened.path, h.path]
    rfl
  · rw [hopened.depth, h.depth, Trail.begin, List.count_cons]
    simp only [beq_iff_eq]
  · rw [hopened.rootLayer]
    exact h.rootLayer

/-- One more element has ended. -/
theorem layerComplete_concat {opened : List String} {text : String} {ended : List Ended}
    {e : Ended} :
    LayerComplete ⟨opened, text, ended ++ [e]⟩ ↔ (∃ a ∈ ended, IsOutermostLayer a) ∨
      IsOutermostLayer e := by
  simp only [LayerComplete, List.mem_append, List.mem_singleton, or_and_right, exists_or,
    exists_eq_left]

theorem reported?_concat {opened : List String} {text : String} {ended : List Ended} {e : Ended} :
    reported? ⟨opened, text, ended ++ [e]⟩ =
      if e.name ∈ reportNames then some (Text.trim e.text)
      else (ended.reverse.find? (·.name ∈ reportNames)).map (Text.trim ·.text) := by
  simp only [reported?, List.reverse_append, List.reverse_singleton, List.singleton_append,
    List.find?_cons]
  by_cases hreport : e.name ∈ reportNames
  · simp [hreport]
  · simp [hreport]

theorem Tracks.close (h : Tracks r t) (hclose : r.close = .ok r') :
    Tracks { r' with text := "" } t.finish := by
  unfold Reading.close at hclose
  split at hclose
  · next hpath =>
      have hopened : t.opened = [] := h.path.symm.trans hpath
      cases hclose
      simp only [Trail.finish, hopened]
      exact ⟨hpath, rfl, hopened ▸ h.depth, h.rootLayer, h.exception⟩
  · next name outer hpath =>
      have hopened : t.opened = name :: outer := h.path.symm.trans hpath
      have hclosed := closed_closeElement hclose
      have hdepth := h.depth
      rw [hopened, List.count_cons] at hdepth
      simp only [beq_iff_eq] at hdepth
      simp only [Trail.finish, hopened]
      refine ⟨hclosed.path, rfl, ?_, ?_, ?_⟩
      · rw [hclosed.depth, hdepth, Nat.add_sub_cancel]
      · have houtermost : (Reading.completed? { r with path := outer } name).isSome = true ↔
            IsOutermostLayer ⟨name, outer, t.text⟩ := by
          rw [isSome_completed?_iff, IsOutermostLayer]
          refine and_congr_right fun hlayer => ?_
          rw [hdepth, if_pos hlayer, Nat.add_eq_right, List.count_eq_zero]
        rw [hclosed.rootLayer, layerComplete_concat, Option.isSome_or, Bool.or_eq_true,
          houtermost]
        exact or_congr h.rootLayer Iff.rfl
      · rw [hclosed.exception, reported?_concat, h.text]
        rw [h.exception]
        rfl

theorem text_close (h : r.close = .ok r') : r'.text = r.text := by
  unfold Reading.close at h
  split at h
  · cases h
    rfl
  · exact (closed_closeElement h).text

theorem Tracks.step {event : Event} (h : Tracks r t) (hstep : r.step event = .ok r') :
    Tracks r' (t.step event) := by
  cases event with
  | start tag => exact h.begin hstep
  | empty tag =>
      obtain ⟨r₁, hbegin, hclose⟩ := bind_eq_ok_iff.mp hstep
      have hfinish := (h.begin hbegin).close hclose
      rwa [← (text_close hclose).trans (opened_begin hbegin).text] at hfinish
  | text s =>
      cases hstep
      exact ⟨h.path, congrArg (· ++ s) h.text, h.depth, h.rootLayer, h.exception⟩
  | characters s =>
      cases hstep
      exact ⟨h.path, congrArg (· ++ s) h.text, h.depth, h.rootLayer, h.exception⟩
  | finish =>
      obtain ⟨r₁, hclose, hr'⟩ := bind_eq_ok_iff.mp hstep
      cases hr'
      exact h.close hclose

theorem run_append_eq_ok_iff {events more : List Event} :
    r.run (events ++ more) = .ok r' ↔ ∃ r₁, r.run events = .ok r₁ ∧ r₁.run more = .ok r' := by
  rw [run, List.foldlM_append]
  exact bind_eq_ok_iff

theorem tracks_run {events : List Event} (h : Reading.run {} events = .ok r) :
    Tracks r (trail events) := by
  induction events using List.reverseRecOn generalizing r with
  | nil =>
      cases h
      exact tracks_start
  | append_singleton events event ih =>
      obtain ⟨r₁, hrun, hstep⟩ := run_append_eq_ok_iff.mp h
      rw [run_singleton] at hstep
      rw [trail_concat]
      exact (ih hrun).step hstep

/-! ### The tree is taken once -/

theorem rootLayer_close {layer : Layer} (hr : r.rootLayer = some layer)
    (h : r.close = .ok r') : r'.rootLayer = some layer := by
  unfold Reading.close at h
  split at h
  · cases h
    exact hr
  · rw [(closed_closeElement h).rootLayer]
    simp only [hr, Option.some_or]

theorem rootLayer_step {event : Event} {layer : Layer} (hr : r.rootLayer = some layer)
    (h : r.step event = .ok r') : r'.rootLayer = some layer := by
  cases event with
  | start tag => exact (opened_begin h).rootLayer.trans hr
  | empty tag =>
      obtain ⟨r₁, hbegin, hclose⟩ := bind_eq_ok_iff.mp h
      exact rootLayer_close ((opened_begin hbegin).rootLayer.trans hr) hclose
  | text s =>
      cases h
      exact hr
  | characters s =>
      cases h
      exact hr
  | finish =>
      obtain ⟨r₁, hclose, hr'⟩ := bind_eq_ok_iff.mp h
      cases hr'
      have hkept := rootLayer_close hr hclose
      exact hkept

theorem rootLayer_run {events : List Event} {layer : Layer} (hr : r.rootLayer = some layer)
    (h : r.run events = .ok r') : r'.rootLayer = some layer := by
  induction events generalizing r with
  | nil =>
      cases h
      exact hr
  | cons event events ih =>
      obtain ⟨r₁, hstep, hrun⟩ := bind_eq_ok_iff.mp h
      exact ih (rootLayer_step hr hstep) hrun

/-- Reading fails with the first event that cannot be read. -/
theorem run_eq_error_iff {events : List Event} {e : Error} :
    Reading.run {} events = .error e ↔ FailsWith events e := by
  constructor
  · intro h
    induction events using List.reverseRecOn with
    | nil => cases h
    | append_singleton events event ih =>
        cases hrun : Reading.run {} events with
        | error e' =>
            have he : Reading.run {} (events ++ [event]) = .error e' := by
              rw [run, List.foldlM_append]
              exact congrArg (· >>= _) hrun
            obtain rfl : e = e' := Except.error.inj (h.symm.trans he)
            obtain ⟨before, failed, after, r, rfl, hbefore, hfailed⟩ := ih hrun
            exact ⟨before, failed, after ++ [event], r, by simp, hbefore, hfailed⟩
        | ok r =>
            rw [run_append hrun, run_singleton] at h
            exact ⟨events, event, [], r, rfl, hrun, h⟩
  · rintro ⟨before, event, after, r, rfl, hbefore, hfailed⟩
    rw [run_append hbefore, run, List.foldlM_cons, hfailed]
    rfl

theorem exists_rootLayer_of_result {c : Capabilities} (h : r.result = .ok c) :
    ∃ layer, r.rootLayer = some layer ∧ c.rootLayer = layer.inherit [] none [] := by
  unfold result at h
  split at h
  · cases h
  · cases h
  · next layer _ hroot =>
      cases h
      exact ⟨layer, hroot, rfl⟩

theorem result_of_not_layerComplete (h : Tracks r t) (ht : ¬LayerComplete t) :
    r.result = .error (absence t) := by
  have hroot : r.rootLayer = none := by
    rw [← h.rootLayer, Bool.not_eq_true, Option.isSome_eq_false_iff] at ht
    simpa using ht
  unfold result absence
  rw [hroot, h.exception]
  cases reported? t <;> rfl

end Reading

variable {events more : List Event} {fault : Option Fault} {c c' : Capabilities}

theorem exists_of_ofStream_eq_ok (h : ofStream ⟨events, fault⟩ = .ok c) :
    ∃ r layer, Reading.run {} events = .ok r ∧ r.rootLayer = some layer ∧
      c.rootLayer = layer.inherit [] none [] := by
  obtain ⟨r, hrun, h⟩ := bind_eq_ok_iff.mp h
  cases fault with
  | some fault => cases h
  | none =>
      obtain ⟨layer, hroot, hc⟩ := Reading.exists_rootLayer_of_result h
      exact ⟨r, layer, hrun, hroot, hc⟩

/-- A document that is cut off gives the layer tree of the whole document or none. While its first
outermost layer is still open, or not yet there, it gives none: the error is that of the first event
that cannot be read, or else the last one that the service reported, or else that there is no
layer. -/
theorem truncated_tree_whole_or_none (events more : List Event) (fault : Option Fault) :
    (∀ c c', ofStream ⟨events, none⟩ = .ok c → ofStream ⟨events ++ more, fault⟩ = .ok c' →
      c'.rootLayer = c.rootLayer) ∧
    (¬LayerComplete (trail events) →
      (∃ e, FailsWith events e ∧ ofStream ⟨events, none⟩ = .error e) ∨
      ((∀ e, ¬FailsWith events e) ∧
        ofStream ⟨events, none⟩ = .error (absence (trail events)))) := by
  constructor
  · intro c c' hc hc'
    obtain ⟨r, layer, hrun, hroot, hlayer⟩ := exists_of_ofStream_eq_ok hc
    obtain ⟨r', layer', hrun', hroot', hlayer'⟩ := exists_of_ofStream_eq_ok hc'
    rw [Reading.run_append hrun] at hrun'
    have hkept := Reading.rootLayer_run hroot hrun'
    rw [hroot'] at hkept
    cases hkept
    exact hlayer'.trans hlayer.symm
  · intro hopen
    cases hrun : Reading.run {} events with
    | error e =>
        refine .inl ⟨e, Reading.run_eq_error_iff.mp hrun, ?_⟩
        rw [ofStream, hrun, error_bind]
    | ok r =>
        refine .inr ⟨fun e he => ?_, ?_⟩
        · rw [← Reading.run_eq_error_iff, hrun] at he
          cases he
        · rw [ofStream, hrun, ok_bind]
          exact Reading.result_of_not_layerComplete (Reading.tracks_run hrun) hopen

/-- A tag without attributes. -/
def plainTag (name : String) : Tag := ⟨name, [], none⟩

/-- The beginning of a document, up to a layer inside its outermost layer. -/
def worldCut : List Event :=
  [.start (plainTag "WMS_Capabilities"), .start (plainTag "Layer"), .start (plainTag "Title"),
    .text "World", .finish, .empty (plainTag "Layer")]

/-- Another outermost layer and the end of the document. -/
def secondTree : List Event := [.empty (plainTag "Layer"), .finish]

/-- A document that is cut off before its outermost layer ends has no layer; with that end it has
the tree that it has as a whole. -/
theorem world_cut_off :
    ¬LayerComplete (trail worldCut) ∧ ofStream ⟨worldCut, none⟩ = .error .missingRootLayer ∧
      ∃ c c', ofStream ⟨worldCut ++ [.finish], none⟩ = .ok c ∧
        ofStream ⟨worldCut ++ [.finish] ++ secondTree, none⟩ = .ok c' ∧
        c'.rootLayer = c.rootLayer := by
  have hopen : ¬LayerComplete (trail worldCut) := by decide
  refine ⟨hopen, ?_, ?_⟩
  · obtain ⟨-, hnone⟩ := truncated_tree_whole_or_none worldCut [] none
    rcases hnone hopen with ⟨e, hfails, -⟩ | ⟨-, habsent⟩
    · rw [← Reading.run_eq_error_iff] at hfails
      cases hfails
    · exact habsent
  · obtain ⟨hsame, -⟩ := truncated_tree_whole_or_none (worldCut ++ [.finish]) secondTree none
    exact ⟨_, _, rfl, rfl, hsame _ _ rfl rfl⟩

end Capabilities

end MapContext
