import MapContext.Proofs.Context.Moving
import MapContext.Proofs.Forest.Leaves

/-!
# Moves refine tree surgery

The forest of a context is the one whose listing are its resources. A move gives the context of
the forest after surgery, and its outcome tells whether that is another forest.
-/

namespace MapContext

namespace Forest

/-- The forest whose places carry their folders and whose listing are the given resources. -/
def Describes (f : Forest) (rs : List Resource) : Prop :=
  f.numbered none 0 = f ∧ f.flatten = rs

theorem describes_numbered (f : Forest) :
    (f.numbered none 0).Describes (f.numbered none 0).flatten :=
  ⟨numbered_numbered none none 0 0 f, rfl⟩

/-- Resources describe one forest only. -/
theorem Describes.unique {f g : Forest} {rs : List Resource} (hf : f.Describes rs)
    (hg : g.Describes rs) : f = g := by
  rw [← hf.1, ← hg.1]
  apply numbered_eq_of_flatten_eq
  rw [hf.1, hg.1, hf.2, hg.2]

/-- Numbering changes folders only. -/
theorem map_atFolder_numbered (f : Forest) (p : FolderPath) (parent : Option FolderPath) (i : Nat) :
    (f.numbered parent i).flatten.map (·.atFolder p) = f.flatten.map (·.atFolder p) := by
  induction f generalizing parent i with
  | nil => rfl
  | tree r below rest ihb ihr => simp [ihb, ihr]

end Forest

namespace Context

open FolderPath

variable {c c' : Context} {f : Forest} {s t : Resource} {position : Position}

theorem Lists.of_describes (h : f.Describes c.features) (hvalid : validate c.features = .ok ()) :
    c.Lists f := by
  obtain ⟨hids, -⟩ := (validate_eq_ok_iff_exists_forest _).mp hvalid
  refine ⟨h.1.symm ▸ h.2, ?_⟩
  rw [Forest.ids, h.2]
  exact hids

/-- The branch of a resource is what stands at or below it, and the other resources are what is left
when it is cut off. -/
theorem Lists.filter_startsWith (h : c.Lists f) (ht : t ∈ c.features) :
    c.features.filter (·.folder.startsWith t.folder) =
        ((f.numbered none 0).branch t.id).flatten ∧
      c.features.filter (!·.folder.startsWith t.folder) =
        ((f.numbered none 0).detach t.id).flatten := by
  obtain ⟨place, before, after, below, -, hcut, hbranch, hdetach, hout⟩ := h.exists_cut ht
  have hnot : ∀ r ∈ before ++ after, r.folder.startsWith t.folder = false := by
    intro r hr
    rw [← Bool.not_eq_true, startsWith_iff]
    exact not_or.mpr (hout r hr)
  have hbefore : ∀ r ∈ before, r.folder.startsWith t.folder = false :=
    fun r hr => hnot r (List.mem_append_left _ hr)
  have hafter : ∀ r ∈ after, r.folder.startsWith t.folder = false :=
    fun r hr => hnot r (List.mem_append_right _ hr)
  have hin : ∀ r ∈ ((f.numbered none 0).branch t.id).flatten,
      r.folder.startsWith t.folder = true := by
    rw [hbranch]
    intro r hr
    simp only [Forest.flatten_tree, Forest.flatten_nil, List.append_nil, List.mem_cons] at hr
    rcases hr with rfl | hr
    · exact startsWith_self _
    · exact startsWith_iff.mpr (.inr (Forest.within_of_mem hr))
  have hparts := cutSubtree_parts c.features place
  rw [hcut] at hparts
  rw [← hdetach, ← hparts]
  constructor
  · rw [List.filter_append, List.filter_append, List.filter_eq_self.mpr hin,
      List.filter_eq_nil_iff.mpr (by simpa using hbefore),
      List.filter_eq_nil_iff.mpr (by simpa using hafter), List.nil_append, List.append_nil]
  · rw [List.filter_append, List.filter_append, List.filter_eq_self.mpr (by simpa using hbefore),
      List.filter_eq_nil_iff.mpr (by simpa using hin),
      List.filter_eq_self.mpr (by simpa using hafter), List.nil_append]

/-- The branch of a resource are the resource and its descendants. -/
theorem Lists.descendants_eq (h : c.Lists f) (ht : t ∈ c.features) :
    c.descendants t true = ((f.numbered none 0).branch t.id).flatten := by
  obtain ⟨-, -, -, below, -, -, hbranch, -, -⟩ := h.exists_cut ht
  have hnarrow : c.features.filter t.isAncestorOf =
      (c.features.filter (·.folder.startsWith t.folder)).filter t.isAncestorOf := by
    rw [List.filter_filter]
    apply List.filter_congr
    intro r _
    rw [Bool.eq_iff_iff, Bool.and_eq_true]
    exact ⟨fun hr => ⟨hr, (isAncestorOf_iff_startsWith.mp hr).2⟩, And.left⟩
  have hself : ¬t.isAncestorOf t = true := fun hself => (isAncestorOf_iff_startsWith.mp hself).1 rfl
  have hall : (below.numbered (some t.folder) 0).flatten.filter t.isAncestorOf =
      (below.numbered (some t.folder) 0).flatten :=
    List.filter_eq_self.mpr fun r hr => isAncestorOf_iff.mpr (Forest.within_of_mem hr)
  rw [descendants, hnarrow, (h.filter_startsWith ht).1, hbranch, Forest.flatten_tree,
    Forest.flatten_nil, List.append_nil, List.filter_cons_of_neg hself, hall]
  rfl

/-- A resource keeps its parent if its edges in the new forest are edges of the old one. -/
theorem Lists.parent_congr (h : c.Lists f) {g : Forest} (h' : c'.Lists g) {r r' : Resource}
    (hr : r ∈ c.features) (hr' : r' ∈ c'.features) (hid : r'.id = r.id)
    (hedges : ∀ above, (r.id, above) ∈ g.edges none → (r.id, above) ∈ f.edges none) :
    (c'.parent? r').map (·.id) = (c.parent? r).map (·.id) := by
  have hnew := hedges _ (hid ▸ h'.parent_mem_edges hr')
  have hkeys : ((f.edges none).map (·.1)).Nodup := by
    rw [Forest.map_fst_edges]
    exact h.nodup
  have heq := List.inj_on_of_nodup_map hkeys hnew (h.parent_mem_edges hr) rfl
  exact congrArg Prod.snd heq

/-- After surgery every resource but the source has the parent that it had. -/
theorem Lists.parent_transplant (h : c.Lists f) (hs : s ∈ c.features) {target : Resource.Id}
    (ht : target ∈ (f.detach s.id).ids) (h' : c'.Lists (f.transplant s.id target position))
    {r r' : Resource} (hr : r ∈ c.features) (hr' : r' ∈ c'.features) (hid : r'.id = r.id)
    (hne : r.id ≠ s.id) : (c'.parent? r').map (·.id) = (c.parent? r).map (·.id) := by
  have hmem := h.mem_ids hs
  have hedges := Forest.transplant_edges hmem ht h.nodup position
  apply h.parent_congr h' hr hr' hid
  intro above habove
  have hold := hedges.subset (List.mem_filter.mpr ⟨habove, by simp [hne]⟩)
  exact (List.mem_filter.mp hold).1

/-- What moves keeps its order, and so does what stays. -/
theorem Lists.order_transplant (h : c.Lists f) (hs : s ∈ c.features) {target : Resource.Id}
    (ht : target ∈ (f.detach s.id).ids) (h' : c'.Lists (f.transplant s.id target position))
    {moving : List Resource.Id} (hmoving : moving = (c.descendants s true).map (·.id)) :
    (c'.features.map (·.id)).filter (· ∈ moving) = (c.features.map (·.id)).filter (· ∈ moving) ∧
      (c'.features.map (·.id)).filter (· ∉ moving) =
        (c.features.map (·.id)).filter (· ∉ moving) := by
  have hmem := h.mem_ids hs
  obtain ⟨hout, hin⟩ := Forest.transplant_order hmem ht h.nodup position
  have hbranch (a : Resource.Id) : a ∈ (f.branch s.id).ids ↔ a ∈ moving := by
    have hids : (f.branch s.id).ids = ((f.numbered none 0).branch s.id).ids := by
      rw [← Forest.ids_numbered none 0, ← Forest.numbered_branch f s.id none none 0 0,
        Forest.ids_numbered]
    rw [hids, hmoving, Forest.ids, h.descendants_eq hs]
  simp only [hbranch] at hout hin
  rw [← h.ids_eq, ← h'.ids_eq]
  exact ⟨hin, hout⟩

/-- What a move of the resource `s` makes of a context with the forest `f`. -/
structure Transplanted (c : Context) (f : Forest) (s : Resource) (target : Resource.Id)
    (position : Position) (c' : Context) (outcome : MoveOutcome) : Prop where
  /-- The new resources describe the forest after surgery. -/
  forest : ((f.transplant s.id target position).numbered none 0).Describes c'.features
  /-- Nothing but the resources changes. -/
  rest : c' = { c with features := c'.features }
  /-- No resource is lost or added, and none changes but for its folder. -/
  resources (p : FolderPath) :
    (c'.features.map (·.atFolder p)).Perm (c.features.map (·.atFolder p))
  /-- Every other resource keeps its parent. -/
  parents (r r' : Resource) : r ∈ c.features → r' ∈ c'.features → r'.id = r.id → r.id ≠ s.id →
    (c'.parent? r').map (·.id) = (c.parent? r).map (·.id)
  /-- The resources that move keep their order, and so do those that stay. -/
  order (moving : List Resource.Id) : moving = (c.descendants s true).map (·.id) →
    (c'.features.map (·.id)).filter (· ∈ moving) = (c.features.map (·.id)).filter (· ∈ moving) ∧
      (c'.features.map (·.id)).filter (· ∉ moving) = (c.features.map (·.id)).filter (· ∉ moving)
  /-- Nothing had to be done exactly if surgery gives back the forest. -/
  unchanged_iff : outcome = .unchanged ↔ (f.transplant s.id target position).numbered none 0 = f
  /-- If nothing had to be done, nothing was. -/
  unchanged : outcome = .unchanged → c' = c
  /-- Otherwise the outcome names the old folder and the new one, which differ. -/
  moved : outcome ≠ .unchanged → ∃ s', c'.get? s.id = some s' ∧ s.folder ≠ s'.folder ∧
    outcome = .moved s.folder s'.folder

/-- A move to a known target, which is neither the source nor below it, is surgery on the forest
of the context. -/
theorem move_transplants (hvalid : validate c.features = .ok ())
    (hfits : c.Fits) (source target : Resource.Id)
    (hs : c.get? source = some s) (ht : c.get? target = some t) (hne : source ≠ target)
    (hbelow : t.isDescendantOf s = false) (position : Position) :
    ∃ (f : Forest) (c' : Context) (outcome : MoveOutcome),
      (f.Describes c.features ∧ ∀ g : Forest, g.Describes c.features → g = f) ∧
      c.move source (some target) position = .ok (c', outcome) ∧
      Transplanted c f s target position c' outcome := by
  obtain ⟨f₀, h₀⟩ := (validate_eq_ok_iff_lists c).mp hvalid
  let f := f₀.numbered none 0
  have hf : f.Describes c.features := h₀.flatten_eq ▸ Forest.describes_numbered f₀
  have h : c.Lists f := .of_describes hf hvalid
  have hrequire (id : Resource.Id) (r : Resource) (hr : c.get? id = some r) :
      c.require id = .ok r := require_eq_ok_iff.mpr hr
  obtain ⟨hs', rfl⟩ := h.get?_eq_some_iff.mp hs
  obtain ⟨ht', rfl⟩ := h.get?_eq_some_iff.mp ht
  have hwithin : ¬Within (some s.folder) 0 t.folder := by
    intro hw
    have : t.isDescendantOf s = true := isAncestorOf_iff.mpr hw
    rw [hbelow] at this
    exact Bool.false_ne_true this
  have hdetach := h.mem_detach_ids hs' ht' hne.symm hwithin
  obtain ⟨place, -, -, -, hplace, -⟩ := h.exists_cut hs'
  obtain ⟨result, hresult, hsame, hmove⟩ :=
    h.exists_moveSubtree hfits hs' hdetach hplace position
  let f' := (f.transplant s.id t.id position).numbered none 0
  -- whatever the outcome, the new resources are the listing after surgery
  let c' : Context := { c with features := f'.flatten }
  have h' : c'.Lists (f.transplant s.id t.id position) :=
    ⟨rfl, h.nodup_transplant hs' hdetach position⟩
  have hmem : s.id ∈ f.ids := Forest.ids_numbered none 0 f ▸ h.mem_numbered_ids hs'
  have hresource : c'.get? s.id = some (s.atFolder result) :=
    h'.get?_eq_some_iff.mpr ⟨hresult, rfl⟩
  have hkept : result = s.folder → f' = f ∧ c' = c := by
    intro heq
    have hforest : f' = f := (hsame heq).trans hf.1
    refine ⟨hforest, ?_⟩
    show { c with features := f'.flatten } = c
    rw [hforest, hf.2]
  have hchanged : f' = f → result = s.folder := by
    intro heq
    have hfeatures : s.atFolder result ∈ c.features := by
      rw [← hf.2, ← heq]
      exact hresult
    have := h.get?_eq_some_iff.mpr ⟨hfeatures, rfl⟩
    rw [Resource.id_atFolder, hs] at this
    exact congrArg Resource.folder (Option.some.inj this).symm
  have hrun : c.move s.id (some t.id) position =
      .ok (c', if result = s.folder then .unchanged else .moved s.folder result) := by
    simp only [move, if_neg hne, hplace, hrequire _ _ hs, hrequire _ _ ht, ok_bind, hbelow]
    rw [if_neg Bool.false_ne_true, hmove]
    by_cases heq : result = s.folder
    · rw [if_pos heq, if_pos heq, (hkept heq).2]
    · rw [if_neg heq, if_neg heq]
  refine ⟨f, c', _, ⟨hf, fun g hg => hg.unique hf⟩, hrun, ?_⟩
  constructor
  case forest => exact Forest.describes_numbered _
  case rest => rfl
  case resources =>
    intro p
    show (f'.flatten.map _).Perm _
    rw [Forest.map_atFolder_numbered, ← hf.2]
    exact (Forest.transplant_perm hmem hdetach h.nodup position).map _
  case parents =>
    intro r r' hr hr' hid hne
    exact h.parent_transplant hs' hdetach h' hr hr' hid hne
  case order =>
    intro moving hmoving
    exact h.order_transplant hs' hdetach h' hmoving
  case unchanged_iff =>
    constructor
    · intro hout
      exact (hkept (by by_contra hne; simp [hne] at hout)).1
    · intro hout
      rw [if_pos (hchanged hout)]
  case unchanged =>
    intro hout
    exact (hkept (by by_contra hne; simp [hne] at hout)).2
  case moved =>
    intro hout
    have hne : result ≠ s.folder := fun heq => hout (if_pos heq)
    exact ⟨s.atFolder result, hresource, hne.symm, if_neg hne⟩

/-- A group with one layer, and a layer beside it. -/
def groupAndLayer : List Resource :=
  [.new "group" (.root 0) "Group", .new "roads" ((FolderPath.root 0).child 0) "Roads",
    .new "base" (.root 1) "Base"]

/-- A layer moves out of its group. -/
theorem move_transplants_roads :
    ∃ (f : Forest) (c' : Context) (outcome : MoveOutcome),
      f.Describes groupAndLayer ∧
      move { empty "map" with features := groupAndLayer } "roads" (some "base") .right =
        .ok (c', outcome) ∧
      Transplanted { empty "map" with features := groupAndLayer } f
        (.new "roads" ((FolderPath.root 0).child 0) "Roads") "base" .right c' outcome := by
  obtain ⟨f, c', outcome, ⟨hf, -⟩, hrun, hresult⟩ :=
    move_transplants (c := { empty "map" with features := groupAndLayer }) (by rfl)
      (show 3 ≤ maxIndex by decide) "roads" "base" (by rfl) (by rfl) (by decide) (by rfl) .right
  exact ⟨f, c', outcome, hf, hrun, hresult⟩

end Context

end MapContext
