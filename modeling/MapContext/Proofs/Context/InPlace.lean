import MapContext.Context.Activation
import MapContext.Proofs.Context.Listed

/-!
# Edits in place

A client keeps one context and edits it in place: an edit reads the context, stages a list of
resources, and writes the parts of the context one after another. Here the edits are written that
way. They do the same as the edits that give a new context, and an edit that fails has written
nothing.
-/

namespace MapContext

namespace Context

/-- An edit of a context in place. -/
abbrev InPlace := ExceptT Error (StateM Context)

namespace InPlace

/-- What an edit gives, and the context afterwards. -/
def on {α : Type} (edit : InPlace α) (c : Context) : Except Error α × Context :=
  StateT.run edit.run c

/-- Goes on only if nothing was wrong. -/
def check {α : Type} (result : Except Error α) : InPlace α := ExceptT.mk (pure result)

/-- Writes the resources, if their order is valid. -/
def commit (staged : List Resource) : InPlace Unit := do
  let committed ← check ((← get).commit staged)
  modify fun c => { c with features := committed.features }

/-- Computes the shared reference systems anew. -/
def refresh : InPlace Unit := modify refreshCrs

/-- Moves a resource with all below it. -/
def move (source : Resource.Id) (target : Option Resource.Id) (position : Position) :
    InPlace MoveOutcome := do
  let c ← get
  match target with
  | none => return .unchanged
  | some target =>
    if source = target then return .unchanged
    else match c.position? source with
      | none => throw (.resourceNotFound source)
      | some place => do
        let root ← check (c.require source)
        let t ← check (c.require target)
        if t.isDescendantOf root then throw (.moveIntoOwnSubtree source target)
        else
          let (before, subtree, after) := cutSubtree c.features place
          let staged := shiftSiblings .down root.folder.parent? (root.folder.index + 1)
            (before ++ after)
          match staged.find? (·.id == target) with
          | none => throw (.resourceNotFound target)
          | some t =>
            let (parent, index) := destination staged t.folder position
            let result := FolderPath.under parent index
            if result = root.folder then return .unchanged
            else do
              let staged := shiftSiblings .up parent index staged
              let subtree ← check (renumbered parent index subtree)
              commit (staged ++ subtree)
              return .moved root.folder result

/-- Inserts a resource. -/
def insert (target : Option Resource.Id) (resource : Resource) (position : Position) :
    InPlace Unit := do
  let c ← get
  match c.get? resource.id with
  | some _ => throw (.duplicateId resource.id)
  | none => do
    let (parent, index) ←
      match target with
      | none => pure (none, c.nextRoot)
      | some id => do
        let t ← check (c.require id)
        pure (destination c.features t.folder position)
    let staged := shiftSiblings .up parent index c.features
    let folder := FolderPath.under parent index
    let before (r : Resource) : Bool := r.folder < folder
    commit (staged.takeWhile before ++ resource.atFolder folder :: staged.dropWhile before)
    refresh

/-- Removes a resource with all below it. -/
def remove (target : Resource.Id) : InPlace (List Resource) := do
  let c ← get
  match c.position? target with
  | none => throw (.resourceNotFound target)
  | some place => do
    let (before, removed, after) := cutSubtree c.features place
    let staged ← check (renumbered none 0 (before ++ after))
    commit staged
    modify fun c => { c with services := dropFromServices removed c.services }
    refresh
    return removed

/-- Switches a resource on or off. -/
def activate (target : Resource.Id) (active : Bool) : InPlace Unit := do
  let c ← get
  let t ← check (c.require target)
  modify fun c => { c with features := activated t.folder active c.features }
  refresh

/-- Appends the layers of a service. -/
def append (href : String) (capabilities : Capabilities) (fresh : Nat → Resource.Id) :
    InPlace (List Resource.Id) := do
  let c ← get
  let rs ← check (resourcesOf href capabilities c.nextRoot fresh)
  let ids := rs.map (·.id)
  commit (c.features ++ rs)
  modify fun c => { c with services := addService href capabilities ids c.services }
  refresh
  return ids

/-- What an edit in place gives if the edit gives a new context or fails. -/
def written {α : Type} (c : Context) : Except Error (Context × α) → Except Error α × Context
  | .ok (c', a) => (.ok a, c')
  | .error e => (.error e, c)

/-- The new context of an edit without another result. -/
def alone (c : Context) : Except Error (Context × Unit) := .ok (c, ())

variable {α β : Type} {c : Context}

@[simp] theorem on_pure (a : α) : on (pure a) c = (.ok a, c) := rfl

@[simp] theorem on_throw (e : Error) : on (throw e : InPlace α) c = (.error e, c) := rfl

@[simp] theorem on_get : on (get : InPlace Context) c = (.ok c, c) := rfl

@[simp] theorem on_modify (f : Context → Context) :
    on (modify f : InPlace Unit) c = (.ok (), f c) := rfl

@[simp] theorem on_check (result : Except Error α) : on (check result) c = (result, c) := rfl

@[simp] theorem on_refresh : on refresh c = (.ok (), c.refreshCrs) := rfl

theorem on_bind (edit : InPlace α) (next : α → InPlace β) :
    on (edit >>= next) c =
      match on edit c with
      | (.ok a, c') => on (next a) c'
      | (.error e, c') => (.error e, c') := by
  show StateT.run (ExceptT.run (edit >>= next)) c = _
  simp only [ExceptT.run_bind, StateT.run_bind, on]
  cases StateT.run (ExceptT.run edit) c with
  | mk result c' => cases result <;> rfl

theorem on_commit (staged : List Resource) :
    on (commit staged) c = written c ((c.commit staged).map fun c' => (c', ())) := by
  rw [commit, on_bind, on_get]
  simp only [on_bind, on_check]
  cases hc : c.commit staged with
  | error e => rfl
  | ok c' =>
      have hrest : c' = { c with features := c'.features } := by
        obtain ⟨-, rfl⟩ := commit_eq_ok_iff.mp hc
        rfl
      simp only [on_modify, Except.map, written]
      rw [← hrest]

theorem on_get_bind (next : Context → InPlace α) : on (get >>= next) c = on (next c) c := by
  rw [on_bind, on_get]

/-- Up to the first write both kinds of edit do the same. -/
theorem on_check_bind {γ : Type} {result : Except Error γ} {next : γ → InPlace α}
    {next' : γ → Except Error (Context × α)} (h : ∀ a, on (next a) c = written c (next' a)) :
    on (check result >>= next) c = written c (result >>= next') := by
  rw [on_bind, on_check]
  cases result with
  | error e => rfl
  | ok a => exact h a

/-- What is written after the resources cannot fail. -/
theorem on_commit_bind {staged : List Resource} {next : Unit → InPlace α}
    {next' : Context → Except Error (Context × α)}
    (h : ∀ c', on (next ()) c' = written c (next' c')) :
    on (commit staged >>= next) c = written c (c.commit staged >>= next') := by
  rw [on_bind, on_commit]
  cases c.commit staged with
  | error e => rfl
  | ok c' => exact h c'

/-- A move writes the resources as its last step. -/
theorem on_move (source : Resource.Id) (target : Option Resource.Id) (position : Position) :
    on (move source target position) c = written c (c.move source target position) := by
  rw [move, on_get_bind]
  cases target with
  | none => rfl
  | some target =>
      simp only [Context.move]
      by_cases hself : source = target
      · simp only [if_pos hself]
        rfl
      · simp only [if_neg hself]
        cases c.position? source with
        | none => rfl
        | some place =>
            refine on_check_bind fun root => on_check_bind fun t => ?_
            by_cases hbelow : t.isDescendantOf root = true
            · simp only [if_pos hbelow]
              rfl
            · simp only [if_neg hbelow, moveSubtree]
              cases List.find? (fun r => r.id == target) (shiftSiblings .down root.folder.parent?
                (root.folder.index + 1) ((cutSubtree c.features place).1 ++
                  (cutSubtree c.features place).2.2)) with
              | none => rfl
              | some t' =>
                  simp only
                  split
                  · rfl
                  · exact on_check_bind fun subtree => on_commit_bind fun c' => rfl

/-- An insertion writes the resources, then the reference systems. -/
theorem on_insert (target : Option Resource.Id) (resource : Resource) (position : Position) :
    on (insert target resource position) c =
      written c (c.insert target resource position >>= alone) := by
  rw [insert, on_get_bind, Context.insert]
  cases c.get? resource.id with
  | some r => rfl
  | none =>
      cases target with
      | none =>
          simp only [pure_bind, bind_assoc]
          exact on_commit_bind fun c' => rfl
      | some id =>
          simp only [pure_bind, bind_assoc]
          exact on_check_bind fun t => on_commit_bind fun c' => rfl

/-- A removal writes the resources, then the services, then the reference systems. -/
theorem on_remove (target : Resource.Id) :
    on (remove target) c = written c (c.remove target) := by
  rw [remove, on_get_bind, Context.remove]
  cases c.position? target with
  | none => rfl
  | some place => exact on_check_bind fun staged => on_commit_bind fun c' => rfl

/-- A switch writes the resources, then the reference systems. -/
theorem on_activate (target : Resource.Id) (active : Bool) :
    on (activate target active) c = written c (c.activate target active >>= alone) := by
  rw [activate, on_get_bind, Context.activate]
  simp only [bind_assoc, pure_bind]
  exact on_check_bind fun t => rfl

/-- An append writes the resources, then the services, then the reference systems. -/
theorem on_append (href : String) (capabilities : Capabilities) (fresh : Nat → Resource.Id) :
    on (append href capabilities fresh) c = written c (c.append href capabilities fresh) := by
  rw [append, on_get_bind, Context.append]
  exact on_check_bind fun rs => on_commit_bind fun c' => rfl

end InPlace

end Context

end MapContext
