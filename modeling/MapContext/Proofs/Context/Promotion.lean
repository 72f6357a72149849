import Mathlib.Logic.Relation
import MapContext.Proofs.Context.Switching

/-!
# Switching from any state

Documents and edits may leave an active resource above inactive ones, so the switches of a context
need not follow from those of the leaves. Still, switching on does one thing only: it goes upwards
from the target as long as all children of the next parent are active, and in the end everything at
and below the last resource that it reached is on, and nothing else has changed.
-/

namespace MapContext.Context

open FolderPath

variable {rs : List Resource} {c c' : Context} {p q t top : FolderPath} {r s : Resource}
  {active : Bool}

/-! ### Switching subtrees one after the other -/

/-- Switching a larger subtree makes an earlier switch inside of it irrelevant. -/
theorem switchSubtree_cover (h : q.startsWith p = true) (first active : Bool) :
    switchSubtree active p (switchSubtree first q rs) = switchSubtree active p rs := by
  simp only [switchSubtree, List.map_map]
  apply List.map_congr_left
  intro r _
  rw [Function.comp_apply]
  by_cases hq : r.folder.startsWith q = true
  · have hp := startsWith_trans hq h
    rw [if_pos hq, if_pos hp]
    exact if_pos hp
  · rw [if_neg hq]

/-- A subtree inside of one that was switched is switched already. -/
theorem switchSubtree_inside (h : q.startsWith p = true) (active : Bool) :
    switchSubtree active q (switchSubtree active p rs) = switchSubtree active p rs := by
  simp only [switchSubtree, List.map_map]
  apply List.map_congr_left
  intro r _
  rw [Function.comp_apply]
  by_cases hp : r.folder.startsWith p = true
  · rw [if_pos hp]
    exact ite_self (r.switched active)
  · have hq : ¬r.folder.startsWith q = true := fun hq => hp (startsWith_trans hq h)
    rw [if_neg hp, if_neg hq]

/-- Once everything at and below `p` is on, all children of its parent `q` are. -/
def Rises (rs : List Resource) (p q : FolderPath) : Prop :=
  p.parent? = some q ∧ allChildrenActive q (switchSubtree true p rs) = true

theorem Rises.startsWith (h : Rises rs p q) : p.startsWith q = true := by
  obtain ⟨parent, i, rfl⟩ := exists_under p
  obtain rfl : parent = some q := by
    rw [← parent?_under parent i]
    exact h.1
  exact (isAncestorOf_iff_startsWith.mp (isAncestorOf_under q i)).2

theorem startsWith_of_rises (h : Relation.ReflTransGen (Rises rs) p top) :
    p.startsWith top = true := by
  induction h with
  | refl => exact startsWith_self p
  | tail _ hstep ih => exact startsWith_trans ih hstep.startsWith

/-- Where switching on gets to: a folder above the target, or the target, whose parent has an
inactive child. -/
theorem exists_promoted (rs : List Resource) (p : FolderPath) :
    ∃ top, Relation.ReflTransGen (Rises rs) p top ∧
      promote (switchSubtree true p rs) p.ancestors = switchSubtree true top rs ∧
      ∀ q, top.parent? = some q → ¬allChildrenActive q (switchSubtree true top rs) = true := by
  induction p using induction_under with
  | root i =>
      refine ⟨under none i, .refl, rfl, fun q hq => ?_⟩
      rw [parent?_under] at hq
      cases hq
  | child parent i ih =>
      rw [ancestors_under_some, promote]
      by_cases hall : allChildrenActive parent (switchSubtree true (under (some parent) i) rs) =
          true
      · have hrises : Rises rs (under (some parent) i) parent := ⟨parent?_under _ i, hall⟩
        -- the switch of the parent's subtree covers the one made before
        rw [if_pos hall, switchSubtree_cover hrises.startsWith]
        obtain ⟨top, hchain, hpromote, hstop⟩ := ih
        exact ⟨top, hchain.head hrises, hpromote, hstop⟩
      · rw [if_neg hall]
        refine ⟨under (some parent) i, .refl, rfl, fun q hq => ?_⟩
        rw [parent?_under, Option.some.injEq] at hq
        rwa [← hq]

/-- Where everything below a folder is on and its parent has an inactive child, going upwards from
below changes nothing. -/
theorem promote_of_stop (hon : ∀ q : FolderPath, q.startsWith top = true →
      switchSubtree true q rs = rs)
    (hstop : ∀ q, top.parent? = some q → ¬allChildrenActive q rs = true)
    (h : p.startsWith top = true) : promote rs p.ancestors = rs := by
  induction p using induction_under with
  | root i => rfl
  | child parent i ih =>
      rw [ancestors_under_some, promote]
      by_cases htop : under (some parent) i = top
      · have hparent : top.parent? = some parent := by rw [← htop, parent?_under]
        exact if_neg (hstop parent hparent)
      · have habove : parent.startsWith top = true :=
          isAncestorOf_under_some.mp (isAncestorOf_iff_startsWith.mpr ⟨htop, h⟩)
        rw [hon parent habove, ih habove, ite_self]

/-- Switching off reaches everything below and above the target. -/
theorem activated_false (t : FolderPath) (rs : List Resource) :
    activated t false rs = rs.map fun r =>
      if r.folder.startsWith t || r.folder.isAncestorOf t then r.switched false else r := by
  rw [activated, if_neg Bool.false_ne_true, demote, switchSubtree, List.map_map]
  apply List.map_congr_left
  intro r _
  rw [Function.comp_apply]
  by_cases hbelow : r.folder.startsWith t = true
  · rw [if_pos hbelow, hbelow, Bool.true_or, if_pos rfl]
    exact ite_self (r.switched false)
  · rw [if_neg hbelow, Bool.eq_false_iff.mpr hbelow, Bool.false_or]

/-- A switch made twice is the same as made once. -/
theorem activated_activated (t : FolderPath) (active : Bool) (rs : List Resource) :
    activated t active (activated t active rs) = activated t active rs := by
  cases active with
  | true =>
      obtain ⟨top, hchain, hpromote, hstop⟩ := exists_promoted rs t
      have hbelow := startsWith_of_rises hchain
      have honce : activated t true rs = switchSubtree true top rs := hpromote
      rw [honce, activated, if_pos rfl, switchSubtree_inside hbelow]
      exact promote_of_stop (fun q hq => switchSubtree_inside hq true) hstop hbelow
  | false =>
      rw [activated_false, activated_false, List.map_map]
      apply List.map_congr_left
      intro r _
      rw [Function.comp_apply]
      split
      · exact ite_self (r.switched false)
      · rfl

/-! ### The chain of parents -/

theorem allChildrenActive_iff {q : Resource} :
    allChildrenActive q.folder c.features = true ↔ ∀ s ∈ c.children q, s.isActive = true := by
  have hchildren : (c.features.filter fun r =>
      r.depth == q.folder.depth + 1 && q.folder.isAncestorOf r.folder) = c.children q :=
    List.filter_congr fun _ _ => Bool.and_comm _ _
  rw [allChildrenActive, hchildren, List.all_eq_true]

/-- The context in which everything at and below a resource is on. -/
def withSubtreeOn (c : Context) (p : Resource) : Context :=
  { c with features := switchSubtree true p.folder c.features }

/-- Once everything at and below `p` is on, all children of its parent `q` are: `q` is next. -/
def Promotes (c : Context) (p q : Resource) : Prop :=
  c.parent? p = some q ∧ ∀ s ∈ (c.withSubtreeOn p).children q, s.isActive = true

theorem parent?_eq_some_iff (h : Contiguous (c.features.map (·.folder))) :
    c.parent? r = some s ↔ s ∈ c.features ∧ r.folder.parent? = some s.folder := by
  rw [parent?, Option.bind_eq_some_iff, Resource.parentFolder?]
  constructor
  · rintro ⟨p, hp, hs⟩
    obtain ⟨hmem, rfl⟩ := mem_of_atFolder? hs
    exact ⟨hmem, hp⟩
  · rintro ⟨hs, hp⟩
    refine ⟨s.folder, hp, ?_⟩
    obtain ⟨a, ha⟩ := exists_atFolder? (List.mem_map_of_mem hs)
    obtain ⟨hmem, hfolder⟩ := mem_of_atFolder? ha
    obtain rfl := List.inj_on_of_nodup_map h.nodup hmem hs hfolder
    exact ha

/-- The folders that switching on rises to are those of a chain of parents. -/
theorem exists_promotes (h : Contiguous (c.features.map (·.folder))) (hr : r ∈ c.features)
    (hchain : Relation.ReflTransGen (Rises c.features) r.folder top) :
    ∃ s ∈ c.features, s.folder = top ∧ Relation.ReflTransGen c.Promotes r s := by
  -- by induction on the chain, since the parent of every listed folder is listed
  induction hchain with
  | refl => exact ⟨r, hr, rfl, .refl⟩
  | @tail p q _ hstep ih =>
      obtain ⟨s, hs, rfl, hchain⟩ := ih
      obtain ⟨hparent, hall⟩ := hstep
      have hq := h.parent_mem _ (List.mem_map_of_mem hs) q hparent
      obtain ⟨u, hu, rfl⟩ := List.mem_map.mp hq
      exact ⟨u, hu, rfl, hchain.tail ⟨(parent?_eq_some_iff h).mpr ⟨hu, hparent⟩,
        allChildrenActive_iff.mp hall⟩⟩

/-- A resource at whose folder the way upwards stops is a root, or its parent has an inactive
child. -/
theorem exists_inactive_child (h : Contiguous (c.features.map (·.folder))) (hs : s ∈ c.features)
    (hstop : ∀ q, s.folder.parent? = some q → ¬allChildrenActive q c'.features = true) :
    s.depth = 0 ∨ ∃ q, c.parent? s = some q ∧ ∃ a ∈ c'.children q, a.isActive = false := by
  cases hparent : s.folder.parent? with
  | none =>
      left
      rw [Resource.depth, ← under_parent?_index s.folder, hparent, depth_under, segmentsOf_none,
        List.length_nil]
  | some p =>
      right
      obtain ⟨q, hq, rfl⟩ := List.mem_map.mp (h.parent_mem _ (List.mem_map_of_mem hs) p hparent)
      have hnot := hstop q.folder hparent
      rw [allChildrenActive_iff] at hnot
      push Not at hnot
      obtain ⟨a, ha, hoff⟩ := hnot
      exact ⟨q, (parent?_eq_some_iff h).mpr ⟨hq, hparent⟩, a, ha, Bool.eq_false_iff.mpr hoff⟩

/-! ### One switch -/

/-- What a switch leaves alone: everything but the switches of the resources, and the reference
systems that the active resources share. -/
structure KeepsRest (c c' : Context) : Prop where
  /-- The context but for its resources. -/
  context : c' = { c with features := c'.features, crs := sharedCrs c'.features }
  /-- The resources, in their order, but for their switches. -/
  resources : ∀ active, c'.features.map (·.switched active) = c.features.map (·.switched active)

/-- What switching on a target does. -/
structure SwitchedOn (c c' : Context) (t : Resource) : Prop where
  /-- Everything at and below the target is on. -/
  subtree : ∀ r ∈ c'.features, r.folder.startsWith t.folder = true → r.isActive = true
  /-- Nothing goes off. -/
  active : List.Forall₂ (fun r r' => r.isActive = true → r'.isActive = true)
    c.features c'.features
  /-- Parents were promoted one after the other, and everything at and below the last of them is on.
  The others are as they were. It is a root, or its parent has an inactive child. -/
  promoted : ∃ top, Relation.ReflTransGen c.Promotes t top ∧
    c'.features = c.features.map (fun r =>
      if r.folder.startsWith top.folder then r.switched true else r) ∧
    (top.depth = 0 ∨
      ∃ q, c.parent? top = some q ∧ ∃ s ∈ c'.children q, s.isActive = false)

/-- What switching off a target does: everything at, below and above it goes off, and the others are
as they were. -/
def SwitchedOff (c c' : Context) (t : Resource) : Prop :=
  c'.features = c.features.map fun r =>
    if r.folder.startsWith t.folder || r.isAncestorOf t then r.switched false else r

theorem SwitchedOn.of_activated (h : Contiguous (c.features.map (·.folder))) {t : Resource}
    (ht : t ∈ c.features) (hfeatures : c'.features = activated t.folder true c.features) :
    c.SwitchedOn c' t := by
  obtain ⟨top, hchain, hpromote, hstop⟩ := exists_promoted c.features t.folder
  have hbelow := startsWith_of_rises hchain
  obtain ⟨s, hs, rfl, hpromotes⟩ := exists_promotes h ht hchain
  have hmap : c'.features = c.features.map fun r =>
      if r.folder.startsWith s.folder then r.switched true else r := by
    rw [hfeatures]
    exact hpromote
  refine { subtree := ?_, active := ?_, promoted := ⟨s, hpromotes, hmap, ?_⟩ }
  · rw [hmap, List.forall_mem_map]
    intro r _ hr
    split
    · rfl
    · next hnot =>
      rw [if_neg hnot] at hr
      exact absurd (startsWith_trans hr hbelow) hnot
  · rw [hmap, List.forall₂_map_right_iff, List.forall₂_same]
    intro r _ hr
    split
    · rfl
    · exact hr
  · apply exists_inactive_child h hs
    rw [show c'.features = switchSubtree true s.folder c.features from hmap]
    exact hstop

/-- Identifiers stand for the same folders after a switch. -/
theorem get?_of_activated (h : c'.features = activated p active c.features) (id : Resource.Id) :
    (c'.get? id).map (·.folder) = (c.get? id).map (·.folder) := by
  have hpairs := map_activated (g := fun r => (r.id, r.folder)) (fun _ _ => rfl) p active c.features
  have hfind := congrArg (List.find? (·.1 == id)) hpairs
  rw [List.find?_map, List.find?_map] at hfind
  have hfolders := congrArg (Option.map (·.2)) hfind
  rw [Option.map_map, Option.map_map, ← h] at hfolders
  exact hfolders

/-- Switching a resource of a valid context on or off, whatever its switches are. Only switches
change, as told for either case, and the same switch made again changes nothing. -/
theorem activate_from_any_state {c : Context} {id : Resource.Id} {t : Resource}
    (hvalid : validate c.features = .ok ()) (ht : c.get? id = some t) (active : Bool) :
    ∃ c', c.activate id active = .ok c' ∧ c.KeepsRest c' ∧
      (active = true → c.SwitchedOn c' t) ∧ (active = false → c.SwitchedOff c' t) ∧
      c'.activate id active = .ok c' := by
  have h := Forest.contiguous_of_validate hvalid
  have hmem := List.mem_of_find?_eq_some ht
  let c' : Context := { c with features := activated t.folder active c.features }.refreshCrs
  have hactivate : c.activate id active = .ok c' := by
    rw [activate, require_of_get? ht, ok_bind]
    rfl
  have hfeatures : c'.features = activated t.folder active c.features := rfl
  refine ⟨c', hactivate, ?_, ?_, ?_, ?_⟩
  · exact {
      context := rfl
      resources := fun active' => map_activated (fun _ _ => rfl) t.folder active c.features }
  · rintro rfl
    exact .of_activated h hmem rfl
  · rintro rfl
    exact activated_false t.folder c.features
  · obtain ⟨t', ht', hfolder⟩ := Option.map_eq_some_iff.mp
      ((get?_of_activated hfeatures id).trans (congrArg (Option.map (·.folder)) ht))
    have hagain : activated t.folder active c'.features = c'.features :=
      activated_activated t.folder active c.features
    rw [activate, require_of_get? ht', ok_bind, hfolder, hagain]
    rfl

/-- A group whose first layer is on above an inactive one, and whose second layer is off. -/
def unevenlyOn : Context :=
  let group : FolderPath := .root 0
  { Context.empty "map" with
    features := [.new "group" group "Group",
      (Resource.new "roads" (group.child 0) "Roads").switched true,
      .new "bridges" ((group.child 0).child 0) "Bridges",
      .new "water" (group.child 1) "Water"] }

/-- Switching on the second layer promotes the group, and with it the inactive layer goes on. -/
theorem unevenlyOn_promoted :
    ∃ c', unevenlyOn.activate "water" true = .ok c' ∧ unevenlyOn.KeepsRest c' ∧
      unevenlyOn.SwitchedOn c' (.new "water" ((FolderPath.root 0).child 1) "Water") ∧
      c'.activate "water" true = .ok c' ∧ (c'.get? "bridges").map (·.isActive) = some true := by
  have hvalid : validate unevenlyOn.features = .ok () := by decide
  have ht : unevenlyOn.get? "water" =
      some (.new "water" ((FolderPath.root 0).child 1) "Water") := by rfl
  obtain ⟨c', hrun, hrest, hon, -, hagain⟩ := activate_from_any_state hvalid ht true
  refine ⟨c', hrun, hrest, hon rfl, hagain, ?_⟩
  cases hrun
  decide

end MapContext.Context
