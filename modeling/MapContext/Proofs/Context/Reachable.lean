import MapContext.Context.Document
import MapContext.Proofs.Context.Appending
import MapContext.Proofs.Context.InPlace
import MapContext.Proofs.Context.Surgery

/-!
# Reachable contexts

A context starts empty, from resources in document order or from a document, and is then edited.
Every context on the way is valid. An edit fails only for the causes that it announces, never
because the resources that it staged were out of order, and it has changed nothing then.
-/

namespace MapContext

namespace Context

/-- An edit of a context with its arguments. -/
inductive Edit where
  /-- Moves a resource with all below it. -/
  | move (source : Resource.Id) (target : Option Resource.Id) (position : Position)
  /-- Inserts a resource. -/
  | insert (target : Option Resource.Id) (resource : Resource) (position : Position)
  /-- Removes a resource with all below it. -/
  | remove (target : Resource.Id)
  /-- Switches a resource on or off. -/
  | activate (target : Resource.Id) (active : Bool)
  /-- Appends the layers of a service. -/
  | append (href : String) (capabilities : Capabilities) (fresh : Nat → Resource.Id)

/-- The context after an edit. -/
def Edit.apply (c : Context) : Edit → Except Error Context
  | .move source target position => (c.move source target position).map (·.1)
  | .insert target resource position => c.insert target resource position
  | .remove target => (c.remove target).map (·.1)
  | .activate target active => c.activate target active
  | .append href capabilities fresh => (c.append href capabilities fresh).map (·.1)

/-- The edit in place. -/
def Edit.inPlace : Edit → InPlace Unit
  | .move source target position => discard (InPlace.move source target position)
  | .insert target resource position => InPlace.insert target resource position
  | .remove target => discard (InPlace.remove target)
  | .activate target active => InPlace.activate target active
  | .append href capabilities fresh => discard (InPlace.append href capabilities fresh)

/-- The identifiers that an append draws are new and differ from each other. -/
def Edit.Fresh (c : Context) : Edit → Prop
  | .append _ capabilities fresh =>
      (∀ i < capabilities.rootLayer.count, fresh i ∉ c.features.map (·.id)) ∧
      ∀ i < capabilities.rootLayer.count, ∀ j < capabilities.rootLayer.count,
        fresh i = fresh j → i = j
  | _ => True

/-- The causes for which an edit may fail. -/
inductive Refused (c : Context) : Edit → Error → Prop
  /-- A resource that is not known cannot be moved. -/
  | moveUnknown {source target : Resource.Id} {position : Position} :
      target ≠ source → c.get? source = none →
      Refused c (.move source (some target) position) (.resourceNotFound source)
  /-- Nothing can be moved relative to a resource that is not known. -/
  | moveToUnknown {source target : Resource.Id} {s : Resource} {position : Position} :
      target ≠ source → c.get? source = some s → c.get? target = none →
      Refused c (.move source (some target) position) (.resourceNotFound target)
  /-- A resource cannot be moved below itself. -/
  | moveBelow {source target : Resource.Id} {s t : Resource} {position : Position} :
      target ≠ source → c.get? source = some s → c.get? target = some t →
      t.isDescendantOf s = true →
      Refused c (.move source (some target) position) (.moveIntoOwnSubtree source target)
  /-- A known identifier cannot be inserted. -/
  | insertKnown {target : Option Resource.Id} {resource r : Resource} {position : Position} :
      c.get? resource.id = some r →
      Refused c (.insert target resource position) (.duplicateId resource.id)
  /-- Nothing can be inserted relative to a resource that is not known. -/
  | insertAtUnknown {target : Resource.Id} {resource : Resource} {position : Position} :
      c.get? resource.id = none → c.get? target = none →
      Refused c (.insert (some target) resource position) (.resourceNotFound target)
  /-- A resource that is not known cannot be removed. -/
  | removeUnknown {target : Resource.Id} :
      c.get? target = none → Refused c (.remove target) (.resourceNotFound target)
  /-- A resource that is not known cannot be switched. -/
  | activateUnknown {target : Resource.Id} {active : Bool} :
      c.get? target = none → Refused c (.activate target active) (.resourceNotFound target)
  /-- The address for capabilities must parse. -/
  | appendCapabilities {href : String} {capabilities : Capabilities} {fresh : Nat → Resource.Id}
      {e : Error} :
      Unreadable (capabilities.capabilitiesHref.getD href) e →
      Refused c (.append href capabilities fresh) e
  /-- The address for maps must parse if there is a layer with a name. -/
  | appendMap {href : String} {capabilities : Capabilities} {fresh : Nat → Resource.Id} {u : Url}
      {layer : Nat × Layer} {e : Error} :
      Url.read (capabilities.capabilitiesHref.getD href) = .ok u →
      layer ∈ capabilities.rootLayer.preorder → layer.2.name.isSome = true →
      Unreadable (capabilities.mapHref.getD href) e →
      Refused c (.append href capabilities fresh) e

/-- The contexts that a client can come to. -/
inductive Reachable : Context → Prop
  /-- An empty context. -/
  | empty (id : String) : Reachable (Context.empty id)
  /-- A context over given resources. -/
  | new {id : String} {features : List Resource} {c : Context} :
      Context.new id features = .ok c → Reachable c
  /-- The context of a document. -/
  | document {d : Document} {c : Context} : ofDocument d = .ok c → Reachable c
  /-- A context after one more edit. -/
  | edit {c c' : Context} (e : Edit) : Reachable c → e.apply c = .ok c' → Reachable c'

variable {c c' : Context} {f : Forest}

/-! ### Every reachable context is valid -/

theorem new_eq_ok_iff {id : String} {rs : List Resource} :
    Context.new id rs = .ok c ↔
      validate rs = .ok () ∧ c = { Context.empty id with features := rs }.refreshCrs := by
  rw [Context.new, bind_eq_ok_iff]
  constructor
  · rintro ⟨_, hvalid, hc⟩
    exact ⟨hvalid, (Except.ok.inj hc).symm⟩
  · rintro ⟨hvalid, rfl⟩
    exact ⟨(), hvalid, rfl⟩

/-- A document is loaded if it says what it is, as all its resources do, and they stand in a valid
order. -/
theorem ofDocument_eq_ok_iff {d : Document} :
    ofDocument d = .ok c ↔
      d.kind = documentKind ∧ (∀ r ∈ d.features, r.kind = resourceKind) ∧
        validate d.features = .ok () ∧
        c = { { Context.empty d.id with features := d.features }.refreshCrs with
          properties := d.properties } := by
  unfold ofDocument
  split
  · next hkind => simp [hkind]
  · next hkind =>
      rw [Decidable.not_not] at hkind
      split
      · next r hfind =>
          have hr := List.find?_some hfind
          have hmem := List.mem_of_find?_eq_some hfind
          simp only [reduceCtorEq, false_iff, not_and]
          intro _ hkinds
          simp [hkinds r hmem] at hr
      · next hfind =>
          have hkinds : ∀ r ∈ d.features, r.kind = resourceKind := by
            simpa using List.find?_eq_none.mp hfind
          rw [bind_eq_ok_iff]
          simp only [new_eq_ok_iff]
          constructor
          · rintro ⟨_, ⟨hvalid, rfl⟩, hc⟩
            exact ⟨hkind, hkinds, hvalid, (Except.ok.inj hc).symm⟩
          · rintro ⟨-, -, hvalid, rfl⟩
            exact ⟨_, ⟨hvalid, rfl⟩, rfl⟩

theorem validate_of_commit {staged : List Resource} (h : c.commit staged = .ok c') :
    validate c'.features = .ok () := by
  obtain ⟨hvalid, rfl⟩ := commit_eq_ok_iff.mp h
  exact hvalid

/-- A move that succeeds either does nothing or commits the others, with one place closed and
another one opened, and the renumbered branch. -/
theorem move_eq_ok_cases {source : Resource.Id} {target : Option Resource.Id}
    {position : Position} {outcome : MoveOutcome}
    (h : c.move source target position = .ok (c', outcome)) :
    c' = c ∨ ∃ (place : Nat) (old slot : Option FolderPath) (i k : Nat) (branch : List Resource),
      renumbered slot k (cutSubtree c.features place).2.1 = .ok branch ∧
      c.commit (shiftSiblings .up slot k (shiftSiblings .down old i
        ((cutSubtree c.features place).1 ++ (cutSubtree c.features place).2.2)) ++ branch) =
        .ok c' := by
  cases target with
  | none =>
      cases h
      exact .inl rfl
  | some target =>
      simp only [move] at h
      split at h
      · cases h
        exact .inl rfl
      · split at h
        · cases h
        · next place _ =>
            obtain ⟨root, -, h⟩ := bind_eq_ok_iff.mp h
            obtain ⟨t, -, h⟩ := bind_eq_ok_iff.mp h
            split at h
            · cases h
            · simp only [moveSubtree] at h
              split at h
              · cases h
              · split at h
                · cases h
                  exact .inl rfl
                · obtain ⟨branch, hbranch, h⟩ := bind_eq_ok_iff.mp h
                  obtain ⟨c'', hcommit, h⟩ := bind_eq_ok_iff.mp h
                  cases h
                  exact .inr ⟨place, _, _, _, _, branch, hbranch, hcommit⟩

/-- An insertion that succeeds commits the others, with a place opened, and the resource there. -/
theorem insert_eq_ok_cases {target : Option Resource.Id} {resource : Resource}
    {position : Position} (h : c.insert target resource position = .ok c') :
    ∃ (slot : Option FolderPath) (k : Nat) (staged : List Resource) (c₁ : Context),
      staged.Perm (resource.atFolder (.under slot k) :: shiftSiblings .up slot k c.features) ∧
      c.commit staged = .ok c₁ ∧ c' = c₁.refreshCrs := by
  cases hget : c.get? resource.id with
  | some r => simp [insert, hget] at h
  | none =>
      rw [insert_eq_landing (get?_eq_none_iff.mp hget)] at h
      obtain ⟨⟨slot, k⟩, -, h⟩ := bind_eq_ok_iff.mp h
      obtain ⟨c₁, hcommit, h⟩ := bind_eq_ok_iff.mp h
      cases h
      refine ⟨slot, k, _, c₁, List.perm_middle.trans ?_, hcommit, rfl⟩
      rw [List.takeWhile_append_dropWhile]

/-- A removal that succeeds commits the others, numbered anew. -/
theorem remove_eq_ok_cases {target : Resource.Id} {removed : List Resource}
    (h : c.remove target = .ok (c', removed)) :
    ∃ (place : Nat) (staged : List Resource) (c₁ : Context),
      removed = (cutSubtree c.features place).2.1 ∧
      renumbered none 0 ((cutSubtree c.features place).1 ++ (cutSubtree c.features place).2.2) =
        .ok staged ∧
      c.commit staged = .ok c₁ ∧
      c' = { c₁ with services := dropFromServices removed c₁.services }.refreshCrs := by
  simp only [remove] at h
  split at h
  · cases h
  · next place _ =>
      obtain ⟨staged, hstaged, h⟩ := bind_eq_ok_iff.mp h
      obtain ⟨c₁, hcommit, h⟩ := bind_eq_ok_iff.mp h
      cases h
      exact ⟨place, staged, c₁, rfl, hstaged, hcommit, rfl⟩

/-- A switch that succeeds finds its resource. -/
theorem activate_eq_ok_cases {target : Resource.Id} {active : Bool}
    (h : c.activate target active = .ok c') :
    ∃ t, c.require target = .ok t ∧
      c' = { c with features := activated t.folder active c.features }.refreshCrs := by
  obtain ⟨t, ht, h⟩ := bind_eq_ok_iff.mp h
  cases h
  exact ⟨t, ht, rfl⟩

/-- An append that succeeds commits the resources of the service after the others. -/
theorem append_eq_ok_cases {href : String} {capabilities : Capabilities}
    {fresh : Nat → Resource.Id} {ids : List Resource.Id}
    (h : c.append href capabilities fresh = .ok (c', ids)) :
    ∃ (rs : List Resource) (c₁ : Context),
      resourcesOf href capabilities c.nextRoot fresh = .ok rs ∧ ids = rs.map (·.id) ∧
      c.commit (c.features ++ rs) = .ok c₁ ∧
      c' = { c₁ with services := addService href capabilities ids c₁.services }.refreshCrs := by
  obtain ⟨rs, hrs, h⟩ := bind_eq_ok_iff.mp h
  obtain ⟨c₁, hcommit, h⟩ := bind_eq_ok_iff.mp h
  cases h
  exact ⟨rs, c₁, hrs, rfl, hcommit, rfl⟩

/-- An edit that succeeds gives a valid context. -/
theorem validate_of_apply {e : Edit} (hc : validate c.features = .ok ())
    (h : e.apply c = .ok c') : validate c'.features = .ok () := by
  cases e with
  | move source target position =>
      obtain ⟨⟨_, outcome⟩, hmove, rfl⟩ := map_eq_ok_iff.mp h
      rcases move_eq_ok_cases hmove with rfl | ⟨_, _, _, _, _, _, -, hcommit⟩
      · exact hc
      · exact validate_of_commit hcommit
  | insert target resource position =>
      obtain ⟨_, _, _, c₁, -, hcommit, rfl⟩ := insert_eq_ok_cases h
      have hvalid := validate_of_commit hcommit
      exact hvalid
  | remove target =>
      obtain ⟨⟨_, removed⟩, hremove, rfl⟩ := map_eq_ok_iff.mp h
      obtain ⟨_, _, c₁, -, -, hcommit, rfl⟩ := remove_eq_ok_cases hremove
      have hvalid := validate_of_commit hcommit
      exact hvalid
  | activate target active =>
      obtain ⟨t, -, rfl⟩ := activate_eq_ok_cases h
      exact (validate_activated t.folder active c.features).trans hc
  | append href capabilities fresh =>
      obtain ⟨⟨_, ids⟩, happend, rfl⟩ := map_eq_ok_iff.mp h
      obtain ⟨_, c₁, -, -, hcommit, rfl⟩ := append_eq_ok_cases happend
      have hvalid := validate_of_commit hcommit
      exact hvalid

theorem Reachable.valid (h : Reachable c) : validate c.features = .ok () := by
  induction h with
  | empty id => rfl
  | new h =>
      obtain ⟨hvalid, rfl⟩ := new_eq_ok_iff.mp h
      exact hvalid
  | document h =>
      obtain ⟨-, -, hvalid, rfl⟩ := ofDocument_eq_ok_iff.mp h
      exact hvalid
  | edit e _ h ih => exact validate_of_apply ih h

/-! ### Why an edit fails -/

theorem require_of_get? {id : Resource.Id} {r : Resource} (h : c.get? id = some r) :
    c.require id = .ok r :=
  require_eq_ok_iff.mpr h

theorem require_of_get?_none {id : Resource.Id} (h : c.get? id = none) :
    c.require id = .error (.resourceNotFound id) :=
  require_eq_error (get?_eq_none_iff.mp h)

theorem position?_of_get?_none {id : Resource.Id} (h : c.get? id = none) : c.position? id = none :=
  position?_eq_none_iff.mpr (get?_eq_none_iff.mp h)

/-- A move of a known source looks for the target next. -/
theorem Lists.exists_move_eq (h : c.Lists f) {source target : Resource.Id} {s : Resource}
    (hs : c.get? source = some s) (hne : target ≠ source) (position : Position) :
    ∃ place, c.position? source = some place ∧ c.move source (some target) position = (do
      let t ← c.require target
      if t.isDescendantOf s then .error (.moveIntoOwnSubtree source target)
      else c.moveSubtree place s target position) := by
  obtain ⟨hmem, rfl⟩ := h.get?_eq_some_iff.mp hs
  obtain ⟨place, -, -, -, hplace, -⟩ := h.exists_cut hmem
  refine ⟨place, hplace, ?_⟩
  simp only [move, if_neg hne.symm, hplace, require_of_get? hs, ok_bind]

theorem Lists.move_eq_error_iff (h : c.Lists f) (hfits : c.Fits) {source : Resource.Id}
    {target : Option Resource.Id} {position : Position} {e : Error} :
    c.move source target position = .error e ↔ Refused c (.move source target position) e := by
  constructor
  · intro hmove
    cases target with
    | none => simp [move] at hmove
    | some target =>
        by_cases hne : target = source
        · simp [move, hne] at hmove
        cases hs : c.get? source with
        | none =>
            simp only [move, if_neg (Ne.symm hne), position?_of_get?_none hs] at hmove
            cases hmove
            exact .moveUnknown hne hs
        | some s =>
            obtain ⟨place, hplace, heq⟩ := h.exists_move_eq hs hne position
            rw [heq] at hmove
            cases ht : c.get? target with
            | none =>
                rw [require_of_get?_none ht, error_bind] at hmove
                cases hmove
                exact .moveToUnknown hne hs ht
            | some t =>
                rw [require_of_get? ht, ok_bind] at hmove
                split at hmove
                · next hbelow =>
                    cases hmove
                    exact .moveBelow hne hs ht hbelow
                · next hbelow =>
                    -- nothing is left that could go wrong
                    obtain ⟨hs', rfl⟩ := h.get?_eq_some_iff.mp hs
                    obtain ⟨ht', rfl⟩ := h.get?_eq_some_iff.mp ht
                    have hdetach := h.mem_detach_ids hs' ht' hne fun hw =>
                      hbelow (FolderPath.isAncestorOf_iff.mpr hw)
                    obtain ⟨result, -, -, hresult⟩ :=
                      h.exists_moveSubtree hfits hs' hdetach hplace position
                    rw [hresult] at hmove
                    split at hmove <;> cases hmove
  · intro hrefused
    cases hrefused with
    | moveUnknown hne hs => simp only [move, if_neg hne.symm, position?_of_get?_none hs]
    | moveToUnknown hne hs ht =>
        obtain ⟨place, hplace, heq⟩ := h.exists_move_eq hs hne position
        rw [heq, require_of_get?_none ht, error_bind]
    | moveBelow hne hs ht hbelow =>
        obtain ⟨place, hplace, heq⟩ := h.exists_move_eq hs hne position
        rw [heq, require_of_get? ht, ok_bind, if_pos hbelow]

theorem Lists.insert_eq_error_iff (h : c.Lists f) (hfits : c.Fits) {target : Option Resource.Id}
    {resource : Resource} {position : Position} {e : Error} :
    c.insert target resource position = .error e ↔
      Refused c (.insert target resource position) e := by
  constructor
  · intro hinsert
    cases hget : c.get? resource.id with
    | some r =>
        simp only [insert, hget] at hinsert
        cases hinsert
        exact .insertKnown hget
    | none =>
        have hnew := get?_eq_none_iff.mp hget
        cases target with
        | none =>
            rw [h.insert_eq hfits hnew (by simp)] at hinsert
            cases hinsert
        | some target =>
            cases ht : c.get? target with
            | none =>
                rw [insert_eq_landing hnew, landing, require_of_get?_none ht] at hinsert
                cases hinsert
                exact .insertAtUnknown hget ht
            | some t =>
                have htarget : target ∈ c.features.map (·.id) := by
                  obtain ⟨ht', rfl⟩ := h.get?_eq_some_iff.mp ht
                  exact List.mem_map_of_mem ht'
                rw [h.insert_eq hfits hnew (by simpa using htarget)] at hinsert
                cases hinsert
  · intro hrefused
    cases hrefused with
    | insertKnown hget => simp only [insert, hget]
    | insertAtUnknown hget ht =>
        rw [insert_eq_landing (get?_eq_none_iff.mp hget), landing, require_of_get?_none ht]
        rfl

theorem Lists.remove_eq_error_iff (h : c.Lists f) {target : Resource.Id} {e : Error} :
    c.remove target = .error e ↔ Refused c (.remove target) e := by
  constructor
  · intro hremove
    cases ht : c.get? target with
    | none =>
        simp only [remove, position?_of_get?_none ht] at hremove
        cases hremove
        exact .removeUnknown ht
    | some t =>
        obtain ⟨ht', rfl⟩ := h.get?_eq_some_iff.mp ht
        rw [h.remove_eq ht'] at hremove
        cases hremove
  · rintro ⟨⟩
    next ht => simp only [remove, position?_of_get?_none ht]

theorem activate_eq_error_iff {target : Resource.Id} {active : Bool} {e : Error} :
    c.activate target active = .error e ↔ Refused c (.activate target active) e := by
  constructor
  · intro hactivate
    cases ht : c.get? target with
    | none =>
        simp only [activate, require_of_get?_none ht, error_bind] at hactivate
        cases hactivate
        exact .activateUnknown ht
    | some t =>
        simp only [activate, require_of_get? ht, ok_bind] at hactivate
        cases hactivate
  · rintro ⟨⟩
    next ht => simp only [activate, require_of_get?_none ht, error_bind]

theorem Lists.append_eq_error_iff (h : c.Lists f) {href : String} {capabilities : Capabilities}
    {fresh : Nat → Resource.Id} (hfresh : Edit.Fresh c (.append href capabilities fresh))
    {e : Error} :
    c.append href capabilities fresh = .error e ↔
      Refused c (.append href capabilities fresh) e := by
  have hstep : c.append href capabilities fresh = .error e ↔
      resourcesOf href capabilities c.nextRoot fresh = .error e := by
    cases hrs : resourcesOf href capabilities c.nextRoot fresh with
    | error e' => simp only [append, hrs, error_bind, Except.error.injEq]
    | ok rs =>
        obtain ⟨g, happend⟩ := h.exists_append hrs hfresh.1 hfresh.2
        simp [happend]
  rw [hstep, resourcesOf_eq_error_iff]
  constructor
  · rintro (hbad | ⟨⟨u, hread⟩, ⟨layer, hlayer, hname⟩, hbad⟩)
    · exact .appendCapabilities hbad
    · exact .appendMap hread hlayer hname hbad
  · intro hrefused
    cases hrefused with
    | appendCapabilities hbad => exact .inl hbad
    | appendMap hread hlayer hname hbad => exact .inr ⟨⟨_, hread⟩, ⟨_, hlayer, hname⟩, hbad⟩

/-- An edit in place gives what the edit gives, and keeps the context if there is nothing. -/
theorem Edit.on_inPlace (e : Edit) :
    InPlace.on e.inPlace c = InPlace.written c (e.apply c >>= InPlace.alone) := by
  have hdiscard {α : Type} (edit : InPlace α) (result : Except Error (Context × α))
      (h : InPlace.on edit c = InPlace.written c result) :
      InPlace.on (discard edit) c =
        InPlace.written c (result.map (·.1) >>= InPlace.alone) := by
    have hbind : InPlace.on (discard edit) c = InPlace.on (edit >>= fun _ => pure ()) c := rfl
    rw [hbind, InPlace.on_bind, h]
    cases result <;> rfl
  cases e with
  | move source target position => exact hdiscard _ _ (InPlace.on_move source target position)
  | insert target resource position => exact InPlace.on_insert target resource position
  | remove target => exact hdiscard _ _ (InPlace.on_remove target)
  | activate target active => exact InPlace.on_activate target active
  | append href capabilities fresh =>
      exact hdiscard _ _ (InPlace.on_append href capabilities fresh)

/-- A reachable context is valid, and the next edit fails exactly for its announced causes. In
place it then leaves the context as it was, and otherwise it gives the new context. -/
theorem Reachable.edit_fails_iff_refused (h : Reachable c) (hfits : c.Fits) :
    validate c.features = .ok () ∧
      ∀ edit : Edit, edit.Fresh c →
        (∀ e, edit.apply c = .error e ↔ Refused c edit e) ∧
        (∀ e c', InPlace.on edit.inPlace c = (.error e, c') ↔ Refused c edit e ∧ c' = c) ∧
        (∀ c', InPlace.on edit.inPlace c = (.ok (), c') ↔ edit.apply c = .ok c') := by
  obtain ⟨f, hf⟩ := (validate_eq_ok_iff_lists c).mp h.valid
  refine ⟨h.valid, fun edit hfresh => ?_⟩
  have herror (e : Error) : edit.apply c = .error e ↔ Refused c edit e := by
    cases edit with
    | move source target position => exact map_eq_error_iff.trans (hf.move_eq_error_iff hfits)
    | insert target resource position => exact hf.insert_eq_error_iff hfits
    | remove target => exact map_eq_error_iff.trans hf.remove_eq_error_iff
    | activate target active => exact activate_eq_error_iff
    | append href capabilities fresh =>
        exact map_eq_error_iff.trans (hf.append_eq_error_iff hfresh)
  refine ⟨herror, ?_, ?_⟩
  · intro e c'
    rw [← herror, edit.on_inPlace]
    cases edit.apply c with
    | error e' => simp [InPlace.written, eq_comm]
    | ok c'' => simp [InPlace.written, InPlace.alone]
  · intro c'
    rw [edit.on_inPlace]
    cases edit.apply c with
    | error e' => simp [InPlace.written]
    | ok c'' => simp [InPlace.written, InPlace.alone]

/-- After a layer was switched on, its group still cannot be moved below that layer, and nothing
changes. -/
theorem group_not_moved_below_itself :
    ∃ c : Context, Reachable c ∧ c.Fits ∧
      (Edit.move "group" (some "roads") .left).Fresh c ∧ validate c.features = .ok () ∧
      InPlace.on (Edit.move "group" (some "roads") .left).inPlace c =
        (.error (.moveIntoOwnSubtree "group" "roads"), c) := by
  let start : Context := { Context.empty "map" with features := groupAndLayer }.refreshCrs
  let c : Context := { start with
    features := activated ((FolderPath.root 0).child 0) true groupAndLayer }.refreshCrs
  have hnew : Context.new "map" groupAndLayer = .ok start := by rfl
  have hedit : (Edit.activate "roads" true).apply start = .ok c := by rfl
  have hreachable : Reachable c := .edit _ (.new hnew) hedit
  have hfits : c.Fits := show 3 ≤ FolderPath.maxIndex by decide
  obtain ⟨hvalid, hedits⟩ := hreachable.edit_fails_iff_refused hfits
  obtain ⟨-, hfails, -⟩ := hedits (.move "group" (some "roads") .left) trivial
  refine ⟨c, hreachable, hfits, trivial, hvalid, (hfails _ c).mpr ⟨?_, rfl⟩⟩
  exact .moveBelow (s := .switched (.new "group" (.root 0) "Group") true)
    (t := .switched (.new "roads" ((FolderPath.root 0).child 0) "Roads") true)
    (by decide) rfl rfl rfl

end Context

end MapContext
