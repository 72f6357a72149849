import MapContext.Proofs.Context.Switching

/-!
# Sequences of switches

After any number of switches a context that was consistent is consistent, and a leaf is active as
the last switch at or above it asked for. So switches that ask for the same may be exchanged.
-/

namespace MapContext.Context

open FolderPath

variable {rs : List Resource} {c : Context} {marks : FolderPath → Bool}

/-! ### A sequence of switches -/

/-- Switches resources one after the other. -/
def switchAll (c : Context) (calls : List (Resource.Id × Bool)) : Except Error Context :=
  calls.foldlM (fun c call => c.activate call.1 call.2) c

/-- Whether a call switches a resource of a context at or above a folder. -/
def concerns (c : Context) (p : FolderPath) (call : Resource.Id × Bool) : Bool :=
  (c.get? call.1).any fun t => p.startsWith t.folder

/-- What the last call at or above a folder asked for. -/
def lastSwitch? (c : Context) (p : FolderPath) (calls : List (Resource.Id × Bool)) :
    Option Bool :=
  ((calls.filter (c.concerns p)).getLast?).map (·.2)

/-- The marks after some calls. -/
def marked (c : Context) (marks : FolderPath → Bool) (calls : List (Resource.Id × Bool))
    (p : FolderPath) : Bool :=
  (c.lastSwitch? p calls).getD (marks p)

theorem marked_cons {id : Resource.Id} {target : Resource} (h : c.get? id = some target)
    (active : Bool) (calls : List (Resource.Id × Bool)) :
    c.marked marks ((id, active) :: calls) = c.marked (mark target.folder active marks) calls := by
  funext p
  have hconcerns : c.concerns p (id, active) = p.startsWith target.folder := by
    rw [concerns, h, Option.any_some]
  rw [marked, marked, lastSwitch?, lastSwitch?, List.filter_cons, hconcerns, mark]
  split
  · rw [List.getLast?_cons]
    cases (calls.filter (c.concerns p)).getLast? <;> rfl
  · rfl

theorem get?_of_shown {c₁ : Context} (h : c₁.features = shown marks c.features)
    (id : Resource.Id) : (c₁.get? id).map (·.folder) = (c.get? id).map (·.folder) := by
  rw [get?, h, shown, flagged, List.find?_map, Option.map_map]
  rfl

/-- A switch of a known resource succeeds. -/
theorem activate_of_shown (hcontiguous : Contiguous (c.features.map (·.folder)))
    {c₁ : Context} (h : c₁.features = shown marks c.features)
    {id : Resource.Id} {target : Resource} (hid : c.get? id = some target) (active : Bool) :
    c₁.activate id active = .ok
      { c₁ with features := shown (mark target.folder active marks) c.features }.refreshCrs := by
  have hmem : target.folder ∈ c.features.map (·.folder) :=
    List.mem_map_of_mem (List.mem_of_find?_eq_some hid)
  obtain ⟨r, hr, hfolder⟩ := Option.map_eq_some_iff.mp
    ((get?_of_shown h id).trans (congrArg (Option.map (·.folder)) hid))
  rw [activate, require_of_get? hr, ok_bind, hfolder, h, activated_shown hcontiguous hmem]
  rfl

/-- A sequence of switches shows the marks that the last call above every leaf leaves there. -/
theorem switchAll_of_shown (hcontiguous : Contiguous (c.features.map (·.folder)))
    {calls : List (Resource.Id × Bool)} (hknown : ∀ call ∈ calls, ∃ t, c.get? call.1 = some t)
    {c₁ : Context} (h : c₁.features = shown marks c.features) :
    c₁.switchAll calls = .ok { c₁ with
      features := shown (c.marked marks calls) c.features
      crs := if calls = [] then c₁.crs else
        sharedCrs (shown (c.marked marks calls) c.features) } := by
  induction calls generalizing c₁ marks with
  | nil => exact congrArg (fun features => Except.ok { c₁ with features }) h
  | cons call calls ih =>
      obtain ⟨target, htarget⟩ := hknown call List.mem_cons_self
      have hothers : ∀ call ∈ calls, ∃ t, c.get? call.1 = some t := fun call hcall =>
        hknown call (List.mem_cons_of_mem _ hcall)
      rw [marked_cons htarget, if_neg (List.cons_ne_nil _ _), switchAll, List.foldlM_cons,
        activate_of_shown hcontiguous h htarget, ok_bind]
      refine (ih hothers rfl).trans ?_
      cases calls with
      | nil => rfl
      | cons next rest => rfl

theorem lastSwitch?_of_same {active : Bool} {calls : List (Resource.Id × Bool)}
    (hsame : ∀ call ∈ calls, call.2 = active) (p : FolderPath) :
    c.lastSwitch? p calls = if calls.any (c.concerns p) then some active else none := by
  rw [lastSwitch?]
  cases hlast : (calls.filter (c.concerns p)).getLast? with
  | none =>
      rw [List.getLast?_eq_none_iff, List.filter_eq_nil_iff] at hlast
      rw [if_neg (Bool.eq_false_iff.mp (List.any_eq_false.mpr hlast)), Option.map_none]
  | some last =>
      obtain ⟨hcall, hconcerns⟩ := List.mem_filter.mp (List.mem_of_getLast? hlast)
      rw [if_pos (List.any_eq_true.mpr ⟨last, hcall, hconcerns⟩), Option.map_some,
        hsame last hcall]

/-- Calls that ask for the same may be exchanged. -/
theorem marked_perm {active : Bool} {calls calls' : List (Resource.Id × Bool)}
    (hsame : ∀ call ∈ calls, call.2 = active) (h : calls.Perm calls') :
    c.marked marks calls = c.marked marks calls' := by
  funext p
  have hsame' : ∀ call ∈ calls', call.2 = active := fun call hcall =>
    hsame call (h.mem_iff.mpr hcall)
  rw [marked, marked, lastSwitch?_of_same hsame, lastSwitch?_of_same hsame', h.any_eq]

/-! ### What the switches tell about the leaves -/

theorem Consistent.eq_shown (hc : c.Consistent) (h : Contiguous (c.features.map (·.folder))) :
    c.features = shown (switches c.features) c.features :=
  (flagged_eq_self fun _ hr => hc.isActive_eq h hr).symm

theorem isAncestorOf_iff_of_not_leaf {r l : Resource}
    (hr : r.folder ∉ leaves (c.features.map (·.folder)))
    (hl : l.folder ∈ leaves (c.features.map (·.folder))) :
    r.isAncestorOf l = true ↔ l.folder.startsWith r.folder = true := by
  rw [Resource.isAncestorOf, isAncestorOf_iff_startsWith]
  refine and_iff_right ?_
  intro heq
  exact hr (heq ▸ hl)

theorem isLeaf_of_below {r s : Resource} (hs : s ∈ c.features) (h : r.isAncestorOf s = true) :
    c.isLeaf r = false := by
  rw [isLeaf, Bool.not_eq_false']
  exact List.any_eq_true.mpr ⟨s, hs, h⟩

/-- A resource that is no leaf is active if and only if all leaves below it are. -/
theorem Consistent.isActive_iff_leaves (hc : c.Consistent)
    (h : Contiguous (c.features.map (·.folder))) {r : Resource} (hr : r ∈ c.features)
    (hinner : c.isLeaf r = false) :
    r.isActive = true ↔ ∀ l ∈ c.features, r.isAncestorOf l = true → c.isLeaf l = true →
      l.isActive = true := by
  have hnot : r.folder ∉ leaves (c.features.map (·.folder)) := fun hleaf =>
    Bool.false_ne_true (hinner.symm.trans ((isLeaf_iff hr).mpr hleaf))
  rw [hc.isActive_eq h hr, summary_eq_true_iff]
  constructor
  · intro hall l hl hbelow hleaf
    rw [isLeaf_iff hl] at hleaf
    rw [← switches_eq h hl]
    exact hall l.folder hleaf ((isAncestorOf_iff_of_not_leaf hnot hleaf).mp hbelow)
  · intro hall q hq hstarts
    obtain ⟨l, hl, rfl⟩ := List.mem_map.mp (mem_leaves_iff.mp hq).1
    rw [switches_eq h hl]
    exact hall l hl ((isAncestorOf_iff_of_not_leaf hnot hq).mpr hstarts) ((isLeaf_iff hl).mpr hq)

/-- A resource is indeterminate if and only if some but not all leaves below it are active. -/
theorem Consistent.isIndeterminate_iff (hc : c.Consistent)
    (h : Contiguous (c.features.map (·.folder))) {r : Resource} (hr : r ∈ c.features) :
    c.isIndeterminate r = true ↔
      (∃ l ∈ c.features, r.isAncestorOf l = true ∧ c.isLeaf l = true ∧ l.isActive = true) ∧
      ∃ l ∈ c.features, r.isAncestorOf l = true ∧ c.isLeaf l = true ∧ l.isActive = false := by
  rw [isIndeterminate, Bool.and_eq_true, Bool.not_eq_true', List.any_eq_true]
  constructor
  · rintro ⟨hoff, s, hs, hbelow⟩
    rw [Bool.and_eq_true] at hbelow
    obtain ⟨hbelow, hactive⟩ := hbelow
    have hinner := isLeaf_of_below hs hbelow
    constructor
    · -- below an active resource all leaves are active
      obtain ⟨q, hq, hstarts⟩ := exists_leaf (List.mem_map_of_mem (f := (·.folder)) hs)
      obtain ⟨l, hl, rfl⟩ := List.mem_map.mp (mem_leaves_iff.mp hq).1
      have hunder : r.isAncestorOf l = true := isAncestorOf_of_isAncestorOf hbelow hstarts
      refine ⟨l, hl, hunder, (isLeaf_iff hl).mpr hq, ?_⟩
      rw [hc.isActive_eq h hl]
      rw [hc.isActive_eq h hs] at hactive
      exact summary_of_startsWith hstarts hactive
    · have hsome : ¬∀ l ∈ c.features, r.isAncestorOf l = true → c.isLeaf l = true →
          l.isActive = true := by
        rw [← hc.isActive_iff_leaves h hr hinner, hoff]
        exact Bool.false_ne_true
      push Not at hsome
      obtain ⟨l, hl, hunder, hleaf, hlactive⟩ := hsome
      exact ⟨l, hl, hunder, hleaf, Bool.eq_false_iff.mpr hlactive⟩
  · rintro ⟨⟨l, hl, hunder, hleaf, hactive⟩, l', hl', hunder', hleaf', hoff⟩
    constructor
    · rw [Bool.eq_false_iff]
      intro hon
      have hall := (hc.isActive_iff_leaves h hr (isLeaf_of_below hl hunder)).mp hon
      exact Bool.false_ne_true (hoff.symm.trans (hall l' hl' hunder' hleaf'))
    · exact ⟨l, hl, by rw [hunder, hactive]; rfl⟩

theorem validate_flagged (flags : FolderPath → Bool) (rs : List Resource) :
    validate (flagged flags rs) = validate rs := by
  apply validateFrom_congr
  rw [flagged, List.map_map]
  rfl

/-- Any sequence of switches of known resources refines the set of active leaves. A consistent
context stays valid and consistent after every call, and only switches change. In the end a leaf is
active as the last call at or above it asked for, and every other resource is active if and only if
all leaves below it are; it is indeterminate if and only if some but not all of them are. Calls that
all ask for the same may come in any order. -/
theorem switching_refines_active_leaves (c : Context) (calls : List (Resource.Id × Bool))
    (hvalid : validate c.features = .ok ()) (hconsistent : c.Consistent)
    (hknown : ∀ call ∈ calls, ∃ t, c.get? call.1 = some t) :
    (∀ before after, calls = before ++ after → ∃ c', c.switchAll before = .ok c' ∧
      validate c'.features = .ok () ∧ c'.Consistent) ∧
    ∃ c' flags, c.switchAll calls = .ok c' ∧ c'.features = flagged flags c.features ∧
      (∀ l ∈ c.features, c.isLeaf l = true →
        flags l.folder = (c.lastSwitch? l.folder calls).getD l.isActive) ∧
      (∀ r ∈ c'.features, c'.isLeaf r = false →
        (r.isActive = true ↔ ∀ l ∈ c'.features, r.isAncestorOf l = true → c'.isLeaf l = true →
          l.isActive = true)) ∧
      (∀ r ∈ c'.features, c'.isIndeterminate r = true ↔
        (∃ l ∈ c'.features, r.isAncestorOf l = true ∧ c'.isLeaf l = true ∧ l.isActive = true) ∧
        ∃ l ∈ c'.features, r.isAncestorOf l = true ∧ c'.isLeaf l = true ∧ l.isActive = false) ∧
      ∀ active, (∀ call ∈ calls, call.2 = active) →
        ∀ calls', calls.Perm calls' → c.switchAll calls' = .ok c' := by
  have h := Forest.contiguous_of_validate hvalid
  have hshown := hconsistent.eq_shown h
  obtain ⟨c', hrun, hfeatures⟩ : ∃ c', c.switchAll calls = .ok c' ∧
      c'.features = shown (c.marked (switches c.features) calls) c.features :=
    ⟨_, switchAll_of_shown h hknown hshown, rfl⟩
  have hcontiguous : Contiguous (c'.features.map (·.folder)) := by
    rw [hfeatures, shown, map_folder_flagged]
    exact h
  have hconsistent' : c'.Consistent := consistent_of_shown h hfeatures
  refine ⟨?_, c', _, hrun, hfeatures, ?_, ?_, ?_, ?_⟩
  · rintro before after rfl
    have hbefore : ∀ call ∈ before, ∃ t, c.get? call.1 = some t := fun call hcall =>
      hknown call (List.mem_append_left after hcall)
    refine ⟨_, switchAll_of_shown h hbefore hshown, ?_, consistent_of_shown h rfl⟩
    exact (validate_flagged _ c.features).trans hvalid
  · intro l hl hleaf
    rw [summary_leaf ((isLeaf_iff hl).mp hleaf), marked, switches_eq h hl]
  · intro r hr hinner
    exact hconsistent'.isActive_iff_leaves hcontiguous hr hinner
  · intro r hr
    exact hconsistent'.isIndeterminate_iff hcontiguous hr
  · intro active hsame calls' hperm
    have hknown' : ∀ call ∈ calls', ∃ t, c.get? call.1 = some t := fun call hcall =>
      hknown call (hperm.mem_iff.mpr hcall)
    have hnil : calls' = [] ↔ calls = [] := by
      rw [← List.length_eq_zero_iff, ← List.length_eq_zero_iff, hperm.length_eq]
    rw [← hrun, switchAll_of_shown h hknown' hshown, switchAll_of_shown h hknown hshown,
      marked_perm hsame hperm]
    simp only [hnil]

/-- A group with a layer that is switched on, and an inner group in which one of two layers is. -/
def partlyOn : Context :=
  let group : FolderPath := .root 0
  { Context.empty "map" with
    features := [.new "group" group "Group",
      (Resource.new "roads" (group.child 0) "Roads").switched true,
      .new "water" (group.child 1) "Water",
      (Resource.new "rivers" ((group.child 1).child 0) "Rivers").switched true,
      .new "lakes" ((group.child 1).child 1) "Lakes"] }

/-- Switching the missing layer on, off and on again in groups leads to a consistent context; the
layers may be switched on in any order. -/
theorem partlyOn_switched :
    validate partlyOn.features = .ok () ∧ partlyOn.Consistent ∧
      (∃ c', partlyOn.switchAll [("lakes", true), ("group", false), ("water", true)] = .ok c' ∧
        c'.Consistent) ∧
      ∃ c', partlyOn.switchAll [("lakes", true), ("roads", true)] = .ok c' ∧
        partlyOn.switchAll [("roads", true), ("lakes", true)] = .ok c' := by
  have hvalid : validate partlyOn.features = .ok () := by decide
  have hconsistent : partlyOn.Consistent := by
    unfold Consistent
    decide
  have hknown : ∀ call ∈ [("lakes", true), ("group", false), ("water", true)],
      ∃ t, partlyOn.get? call.1 = some t := by
    simp only [← Option.isSome_iff_exists]
    decide
  have hknown' : ∀ call ∈ [("lakes", true), ("roads", true)],
      ∃ t, partlyOn.get? call.1 = some t := by
    simp only [← Option.isSome_iff_exists]
    decide
  obtain ⟨hsteps, -⟩ := switching_refines_active_leaves partlyOn _ hvalid hconsistent hknown
  obtain ⟨-, c', -, hrun, -, -, -, -, hany⟩ :=
    switching_refines_active_leaves partlyOn _ hvalid hconsistent hknown'
  obtain ⟨c₁, hrun₁, -, hconsistent₁⟩ := hsteps _ [] (List.append_nil _).symm
  exact ⟨hvalid, hconsistent, ⟨c₁, hrun₁, hconsistent₁⟩, c', hrun,
    hany true (by decide) _ (List.Perm.swap _ _ [])⟩

end MapContext.Context
