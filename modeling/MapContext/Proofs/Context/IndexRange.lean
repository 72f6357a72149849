import MapContext.Proofs.Context.Bounds
import MapContext.Proofs.Context.Checked
import MapContext.Proofs.Context.LayerResources
import MapContext.Proofs.Context.SharedCrs

/-!
# Indices stay in their range

Validation never counts too far, whatever the folders are, and what edits do to valid lists never
leaves the range of indices: checked edits do what edits do.
-/

namespace MapContext

namespace Context

open FolderPath

namespace Checked

variable {α β : Type}

/-! ### Programs that do not stop -/

theorem run_bind {x : Run α} {r : Except Error α} {f : α → Run β} {g : α → Except Error β}
    (hx : x.run = .ok r) (hf : ∀ a, r = .ok a → (f a).run = .ok (g a)) :
    (x >>= f).run = .ok (r >>= g) := by
  rw [ExceptT.run_bind, hx]
  cases r with
  | ok a => exact hf a rfl
  | error e => rfl

theorem run_step {x : Except Trap α} {a : α} (hx : x = .ok a) (f : α → Run β) :
    ((liftM x : Run α) >>= f) = f a := by
  rw [hx]
  rfl

theorem run_result (r : Except Error α) : (liftM r : Run α).run = .ok r := by
  cases r <;> rfl

/-! ### Indices and paths -/

variable {i k n index : Nat} {indices : List Nat} {p q : FolderPath} {parent : Option FolderPath}
  {rs : List Resource}

theorem increment_eq (h : i < maxIndex) : increment i = .ok (i + 1) := if_pos h

theorem entry_eq (h : indices[k]? = some i) : entry indices k = .ok i := by
  rw [entry, h]

theorem initial_eq (h : k ≤ indices.length) : initial indices k = .ok (indices.take k) := if_pos h

theorem withSegment_eq (h : k < p.segments.length) (value : Nat) :
    withSegment p k value = .ok (p.withSegment k value) := if_pos h

theorem shift_up_eq (h : i < maxIndex) : shift .up i = .ok (Shift.up.apply i) := by
  rw [shift, if_pos h, Shift.apply, Nat.min_eq_left h]

theorem shift_down_eq (h : 0 < i) : shift .down i = .ok (Shift.down.apply i) := if_pos h

theorem exists_segment (h : Within parent 0 q) :
    ∃ i, q.segments[(segmentsOf parent).length]? = some i := by
  obtain ⟨i, rest, -, hq⟩ := h
  exact ⟨i, by simp [hq]⟩

/-- Below a parent a path has the segment of the child. -/
theorem isAtOrAfter_eq (parent : Option FolderPath) (index : Nat) (folder : FolderPath) :
    isAtOrAfter parent index folder = .ok (Context.isAtOrAfter parent index folder) := by
  unfold isAtOrAfter Context.isAtOrAfter
  cases parent with
  | none =>
      obtain ⟨i, hi⟩ := exists_segment (within_none folder)
      simp only [if_true, entry_eq hi, ok_bind, Bool.true_and, segment?, hi]
      rfl
  | some p =>
      cases hbelow : p.isAncestorOf folder with
      | false =>
          simp only [hbelow, Bool.false_and]
          rfl
      | true =>
          obtain ⟨i, hi⟩ := exists_segment (isAncestorOf_iff.mp hbelow)
          simp only [hbelow, if_true, entry_eq hi, ok_bind, Bool.true_and, segment?, hi]
          rfl

/-- Shifted siblings are what they are without checks, if each shift goes all the way. -/
theorem shiftSiblings_eq {direction : Shift}
    (h : ∀ r ∈ rs, ∀ i, r.folder.segments[(segmentsOf parent).length]? = some i → index ≤ i →
      shift direction i = .ok (direction.apply i)) :
    shiftSiblings direction parent index rs =
      .ok (Context.shiftSiblings direction parent index rs) := by
  apply mapM_of_forall
  intro r hr
  rw [shifted, isAtOrAfter_eq, ok_bind]
  cases hafter : Context.isAtOrAfter parent index r.folder with
  | false => rfl
  | true =>
      obtain ⟨j, rest, hj, hsegments⟩ := isAtOrAfter_iff.mp hafter
      have hget : r.folder.segments[(segmentsOf parent).length]? = some j := by
        rw [hsegments]
        simp
      have hdepth := (List.getElem?_eq_some_iff.mp hget).1
      simp only [if_true, entry_eq hget, h r hr j hget hj, withSegment_eq hdepth, ok_bind, segment?,
        hget, Option.getD_some]
      rfl

/-! ### Places -/

theorem childCount_eq (features : List Resource) (h : p.depth < maxIndex) :
    childCount features p = .ok (Context.childCount features p) := by
  rw [childCount, increment_eq h, ok_bind, Context.childCount]
  rfl

theorem destination_eq (features : List Resource) (h : p.Below n) (hn : n ≤ maxIndex)
    (position : Position) :
    destination features p position = .ok (Context.destination features p position) := by
  cases position with
  | left | firstChild => rfl
  | right =>
      rw [destination, increment_eq (Nat.lt_of_lt_of_le h.index_lt hn)]
      rfl
  | lastChild =>
      rw [destination, childCount_eq features (Nat.lt_of_lt_of_le h.depth_lt hn)]
      rfl

theorem nextRoot_eq {c : Context} (h : ∀ r ∈ c.features, r.folder.Below n) (hn : n ≤ maxIndex) :
    nextRoot c = .ok c.nextRoot := by
  have hindices : c.roots.mapM (fun r => increment r.index) =
      .ok (c.roots.map fun r => r.index + 1) := by
    apply mapM_of_forall
    intro r hr
    exact increment_eq (Nat.lt_of_lt_of_le (h r (List.mem_of_mem_filter hr)).index_lt hn)
  rw [nextRoot, hindices, ok_bind, Context.nextRoot]
  rfl

theorem pick_eq {test : Resource → Except Trap Bool} {p : Resource → Bool}
    (h : ∀ r ∈ rs, test r = .ok (p r)) : pick test rs = .ok (rs.filter p) := by
  induction rs with
  | nil => rfl
  | cons r rs ih =>
      rw [List.forall_mem_cons] at h
      rw [pick, h.1, ok_bind, ih h.2, ok_bind, List.filter_cons]
      rfl

/-- A sibling has a segment at the depth of the resource. -/
theorem rightSiblings_eq (c : Context) (target : Resource) (includeSelf withSubtrees : Bool) :
    rightSiblings c target includeSelf withSubtrees =
      .ok (c.rightSiblings target includeSelf withSubtrees) := by
  apply pick_eq
  intro r hr
  have hdepth : target.depth = (segmentsOf target.parentFolder?).length := by
    rw [Resource.parentFolder?, segmentsOf_parent?, List.length_dropLast]
    rfl
  have hwithin : Within target.parentFolder? 0 r.folder := by
    obtain ⟨-, hr⟩ := List.mem_filter.mp hr
    rw [Bool.and_eq_true, Bool.and_eq_true] at hr
    cases hparent : target.parentFolder? with
    | none => exact within_none r.folder
    | some p =>
        rw [hparent] at hr
        exact isAncestorOf_iff.mp hr.1.1
  obtain ⟨i, hi⟩ := exists_segment hwithin
  rw [← hdepth] at hi
  rw [entry_eq hi, ok_bind, segment?, hi]
  cases includeSelf <;> rfl

/-! ### Validation -/

theorem violation?_eq (h : p.Below n) (hn : n < maxIndex) (q : FolderPath) :
    violation? p q = .ok (Context.violation? p q) := by
  have hlength := h.length
  have hq := List.length_pos_iff.mpr q.nonempty
  unfold violation? Context.violation?
  simp only [increment_eq (Nat.lt_of_le_of_lt hlength hn), ok_bind]
  split
  · rfl
  · next hskips =>
      split
      · next hchild =>
          obtain ⟨i, hi⟩ : ∃ i, q.segments[p.segments.length]? = some i :=
            ⟨_, List.getElem?_eq_getElem (by omega)⟩
          have hinitial : p.segments.length ≤ q.segments.length := by omega
          simp only [initial_eq hinitial, entry_eq hi, ok_bind, hi, ne_eq, Option.some.injEq]
          split <;> rfl
      · next hchild =>
          have hk : q.segments.length - 1 < p.segments.length := by omega
          have hlast := List.getElem?_eq_getElem hk
          have hindex : q.segments[q.segments.length - 1]? = some q.index := by
            rw [index, List.getLast_eq_getElem]
            exact List.getElem?_eq_getElem _
          have hcount := Nat.lt_trans (h.get_lt hlast) hn
          have hinitial := Nat.sub_le q.segments.length 1
          simp only [initial_eq hinitial, initial_eq hk.le, entry_eq hlast,
            entry_eq hindex, increment_eq hcount, ok_bind, hlast, Option.getD_some]
          split <;> rfl

theorem misplaced?_eq {previous : Option FolderPath} (h : ∀ p ∈ previous, p.Below n)
    (hn : n < maxIndex) (q : FolderPath) :
    misplaced? previous q = .ok (Context.misplaced? previous q) := by
  cases previous with
  | none => rfl
  | some p => exact violation?_eq (h p rfl) hn q

/-- Validation never counts too far, whatever the folders are: those before were accepted. -/
theorem run_validateFrom {seen : List Resource.Id} {previous : Option FolderPath}
    (h : ∀ p ∈ previous, p.Below index) (hrs : index + rs.length ≤ maxIndex) :
    (validateFrom seen previous index rs).run =
      .ok (Context.validateFrom seen previous index rs) := by
  induction rs generalizing seen previous index with
  | nil => rfl
  | cons r rs ih =>
      rw [List.length_cons] at hrs
      unfold validateFrom Context.validateFrom
      split
      · rfl
      · rw [run_step (misplaced?_eq h (by omega) r.folder)]
        cases hplace : Context.misplaced? previous r.folder with
        | some fault => rfl
        | none =>
            have hr := Below.of_misplaced? hplace h
            exact ih (fun p hp => Option.some.inj hp ▸ hr) (by omega)

theorem run_validate (h : rs.length ≤ maxIndex) :
    (validate rs).run = .ok (Context.validate rs) :=
  run_validateFrom (fun _ hp => nomatch hp) (by omega)

theorem run_commit (c : Context) (h : rs.length ≤ maxIndex) :
    (commit c rs).run = .ok (c.commit rs) := by
  have hsorted : (rs.mergeSort fun a b => decide (a.folder ≤ b.folder)).length ≤ maxIndex := by
    rwa [List.length_mergeSort]
  exact run_bind (run_validate hsorted) fun _ _ => rfl

/-! ### Renumbering -/

section Renumbering

variable {start base level bound offset : Nat} {top previous : FolderPath} {counters : Counters}

theorem joined_eq (h : counters.Counts parent p) : joined parent counters.current = .ok p := by
  have hjoin : join? parent counters.current = some p := by
    rw [join?, ← h.path, ofSegments?, dif_neg p.nonempty]
  rw [joined, hjoin]

/-- The counter of a level that is not skipped is there. -/
theorem count_eq (start : Nat) (h : counters.free = counters.current.map (· + 1))
    (hlevel : level ≤ counters.current.length)
    (hindex : Counters.taken start level counters.current < maxIndex) :
    count start level counters = .ok (counters.next start level) := by
  have hlength : ((counters.current.take level).map (· + 1)).length = level := by
    simpa using hlevel
  have hentry : ((counters.current.take level).map (· + 1) ++
      [Counters.taken start level counters.current])[level]? =
        some (Counters.taken start level counters.current) := by
    rw [List.getElem?_append_right hlength.le, hlength]
    simp
  simp only [count, Counters.next, Counters.kept_eq h hlevel, entry_eq hentry, increment_eq hindex,
    ok_bind, List.getD_eq_getElem?_getD, hentry, Option.getD_some]
  rfl

/-- What a pass gives. -/
def outcome : List Resource × Option Error → Except Error (List Resource)
  | (rs, none) => .ok rs
  | (_, some e) => .error e

theorem outcome_cons (r : Resource) (pass : List Resource × Option Error) :
    (outcome pass >>= fun rs => .ok (r :: rs)) = outcome (r :: pass.1, pass.2) := by
  obtain ⟨rs, _ | e⟩ := pass <;> rfl

/-- The counters of a pass stay below the greatest in use and the number of resources. -/
theorem run_renumberFrom (base offset : Nat) (rs : List Resource)
    (htop : top.depth = (segmentsOf parent).length)
    (hcounts : counters.Counts parent previous) (hstart : start < bound)
    (hbound : ∀ i ∈ counters.current, i < bound) (hrs : bound + rs.length ≤ maxIndex) :
    (renumberFrom parent start base counters offset rs).run =
      .ok (outcome (Context.renumberFrom base top previous offset rs)) := by
  induction rs generalizing counters previous bound offset with
  | nil => rfl
  | cons r rs ih =>
      rw [List.length_cons] at hrs
      have hlength : previous.depth + 1 = (segmentsOf parent).length + counters.current.length := by
        rw [depth_add_one, hcounts.path, List.length_append]
      unfold renumberFrom
      by_cases habove : r.depth < base
      · rw [if_pos habove, Context.renumberFrom, if_pos habove]
        rfl
      · rw [if_neg habove]
        by_cases hskips : counters.current.length < r.depth - base
        · have hstops : previous.depth + 1 < top.depth + (r.depth - base) := by omega
          rw [renumberFrom_cons_of_not (fun _ => hstops), subtreeFault, if_neg habove]
          simp only [if_pos hskips]
          rfl
        · have hlevel := Nat.le_of_not_lt hskips
          have htaken : Counters.taken start (r.depth - base) counters.current < bound + 1 :=
            Counters.taken_lt (Nat.lt_succ_of_lt hstart) fun i hi => Nat.succ_lt_succ (hbound i hi)
          have hcount := count_eq start hcounts.free hlevel (by omega)
          have hnext := hcounts.next start hlevel
          have hcurrent : ∀ i ∈ (counters.next start (r.depth - base)).current, i < bound + 1 := by
            rw [Counters.next_eq hcounts.free hlevel]
            intro i hi
            rcases List.mem_append.mp hi with hi | hi
            · exact Nat.lt_succ_of_lt (hbound i (List.mem_of_mem_take hi))
            · rwa [List.mem_singleton.mp hi]
          have hrest := ih (offset + 1) hnext (Nat.lt_succ_of_lt hstart) hcurrent (by omega)
          rw [renumberFrom_cons_of_le (Nat.le_of_not_lt habove) (by omega), htop]
          simp only [if_neg hskips]
          rw [run_step hcount, run_step (joined_eq hnext), ← outcome_cons]
          exact run_bind hrest fun _ _ => rfl

theorem run_renumbered (h : start + rs.length ≤ maxIndex) :
    (renumbered parent start rs).run = .ok (Context.renumbered parent start rs) := by
  cases rs with
  | nil => rfl
  | cons first rs =>
      rw [List.length_cons] at h
      have hcounts := Counters.counts_first parent start
      have hcount : count start 0 ⟨[], []⟩ = .ok (Counters.next start 0 ⟨[], []⟩) := by
        apply count_eq start rfl (Nat.le_refl 0)
        change start < maxIndex
        omega
      have hcurrent : ∀ i ∈ (Counters.next start 0 ⟨[], []⟩).current, i < start + 1 := by
        simp [Counters.next]
      have hrest := run_renumberFrom first.depth 1 rs
        (depth_under parent start) hcounts (Nat.lt_succ_self start) hcurrent (by omega)
      have houtcome : Context.renumbered parent start (first :: rs) =
          outcome (renumber parent start (first :: rs)) := by
        rw [Context.renumbered]
        rcases renumber parent start (first :: rs) with ⟨rs', _ | e⟩ <;> rfl
      rw [houtcome, renumber, ← outcome_cons]
      simp only [renumbered, renumberFrom, Nat.lt_irrefl, if_false, Nat.sub_self, Nat.not_lt_zero]
      rw [run_step hcount, run_step (joined_eq hcounts)]
      exact run_bind hrest fun _ _ => rfl

end Renumbering

/-! ### Shifts of small indices -/

theorem shiftUp_eq (h : ∀ r ∈ rs, r.folder.Below n) (hn : n ≤ maxIndex) :
    shiftSiblings .up parent index rs = .ok (Context.shiftSiblings .up parent index rs) :=
  shiftSiblings_eq fun r hr _ hi _ =>
    shift_up_eq (Nat.lt_of_lt_of_le ((h r hr).get_lt hi) hn)

/-- Indices that are not below the length of a valid list can be too great to be shifted. -/
example : shiftSiblings .up none 0 [.new "sea" (.root maxIndex) "Sea"] = .error .clipped := by rfl

/-- A gap that closes lies after an index. -/
theorem shiftDown_eq (hindex : 0 < index) :
    shiftSiblings .down parent index rs = .ok (Context.shiftSiblings .down parent index rs) :=
  shiftSiblings_eq fun _ _ _ _ hle => shift_down_eq (Nat.lt_of_lt_of_le hindex hle)

/-! ### Edits of valid contexts -/

section Edits

variable {c : Context} {root : Resource} {target : Resource.Id} {place : Nat}

theorem run_moveSubtree (h : ∀ r ∈ c.features, r.folder.Below c.features.length)
    (hc : c.features.length + c.features.length ≤ maxIndex) (hroot : root ∈ c.features)
    (position : Position) :
    (moveSubtree c place root target position).run =
      .ok (c.moveSubtree place root target position) := by
  have hcut := cutSubtree_perm c.features place
  unfold moveSubtree Context.moveSubtree
  generalize cutSubtree c.features place = parts at hcut ⊢
  obtain ⟨before, subtree, after⟩ := parts
  dsimp only at hcut ⊢
  have hlengths := hcut.length_eq
  simp only [List.length_append] at hlengths
  have hothers : ∀ r ∈ before ++ after, r.folder.Below c.features.length := fun r hr =>
    h r (hcut.mem_iff.mp (List.mem_append_left _ hr))
  have hgap := (h root hroot).index_lt
  have hstaged := below_shiftDown root.folder.parent? (root.folder.index + 1) hothers
  rw [run_step (increment_eq (by omega)), run_step (shiftDown_eq (Nat.succ_pos _))]
  generalize hshifted : Context.shiftSiblings .down root.folder.parent? (root.folder.index + 1)
    (before ++ after) = staged at hstaged ⊢
  have hlength : staged.length = before.length + after.length := by
    rw [← hshifted, length_shiftSiblings, List.length_append]
  cases hfind : staged.find? (·.id == target) with
  | none => rfl
  | some t =>
      have ht := hstaged t (List.mem_of_find?_eq_some hfind)
      have hindex := index_destination_le staged ht (by omega) position
      dsimp only
      rw [run_step (destination_eq staged ht (by omega) position)]
      generalize Context.destination staged t.folder position = slot at hindex ⊢
      obtain ⟨parent, index⟩ := slot
      dsimp only at hindex ⊢
      split
      · rfl
      · rw [run_step (shiftUp_eq hstaged (by omega))]
        refine run_bind (run_renumbered (by omega)) fun branch hbranch => ?_
        have hbranchLength := length_of_renumbered hbranch
        have hcommitted : (Context.shiftSiblings .up parent index staged ++ branch).length ≤
            maxIndex := by
          rw [List.length_append, length_shiftSiblings]
          omega
        exact run_bind (run_commit c hcommitted) fun _ _ => rfl

/-- A move counts no further than twice the number of resources. -/
theorem run_move (h : ∀ r ∈ c.features, r.folder.Below c.features.length)
    (hc : c.features.length + c.features.length ≤ maxIndex) (source : Resource.Id)
    (target : Option Resource.Id) (position : Position) :
    (move c source target position).run = .ok (c.move source target position) := by
  cases target with
  | none => rfl
  | some target =>
      by_cases hself : source = target
      · simp only [move, Context.move, if_pos hself]
        rfl
      cases hplace : c.position? source with
      | none =>
          simp only [move, Context.move, if_neg hself, hplace]
          rfl
      | some place =>
          simp only [move, Context.move, if_neg hself, hplace]
          refine run_bind (run_result _) fun root hroot => ?_
          refine run_bind (run_result _) fun t _ => ?_
          have hmem := List.mem_of_find?_eq_some (require_eq_ok_iff.mp hroot)
          split
          · rfl
          · exact run_moveSubtree h hc hmem position

theorem run_landing (h : ∀ r ∈ c.features, r.folder.Below c.features.length)
    (hc : c.features.length ≤ maxIndex) (target : Option Resource.Id) (position : Position) :
    (landing c target position).run = .ok (c.landing target position) := by
  cases target with
  | none =>
      rw [landing, run_step (nextRoot_eq h hc)]
      rfl
  | some id =>
      refine run_bind (run_result _) fun t ht => ?_
      have hmem := List.mem_of_find?_eq_some (require_eq_ok_iff.mp ht)
      rw [destination_eq c.features (h t hmem) hc position]
      rfl

theorem run_insert (h : Context.validate c.features = .ok ())
    (hc : c.features.length + 1 ≤ maxIndex) (target : Option Resource.Id) (resource : Resource)
    (position : Position) :
    (insert c target resource position).run = .ok (c.insert target resource position) := by
  have hbelow := below_of_validate h
  cases hget : c.get? resource.id with
  | some r =>
      simp only [insert, Context.insert, hget]
      rfl
  | none =>
      rw [insert_eq_landing (get?_eq_none_iff.mp hget)]
      simp only [insert, hget]
      refine run_bind (run_landing hbelow (by omega) target position) fun slot _ => ?_
      obtain ⟨parent, index⟩ := slot
      rw [run_step (shiftUp_eq hbelow (by omega))]
      refine run_bind (run_commit c ?_) fun _ _ => rfl
      rw [List.length_append, List.length_cons, ← Nat.add_assoc, ← List.length_append,
        List.takeWhile_append_dropWhile, length_shiftSiblings]
      exact hc

theorem run_remove (hc : c.features.length ≤ maxIndex) (target : Resource.Id) :
    (remove c target).run = .ok (c.remove target) := by
  cases hplace : c.position? target with
  | none =>
      simp only [remove, Context.remove, hplace]
      rfl
  | some place =>
      simp only [remove, Context.remove, hplace]
      have hcut := (cutSubtree_perm c.features place).length_eq
      rw [List.length_append] at hcut
      generalize cutSubtree c.features place = parts at hcut ⊢
      obtain ⟨before, removed, after⟩ := parts
      have hlength : (before ++ after).length ≤ maxIndex := by
        dsimp only at hcut
        omega
      have hrenumbered := (Nat.zero_add (before ++ after).length).trans_le hlength
      refine run_bind (run_renumbered hrenumbered) fun staged hstaged => ?_
      rw [← length_of_renumbered hstaged] at hlength
      exact run_bind (run_commit c hlength) fun _ _ => rfl

theorem run_resourcesOf {root : Nat} {capabilities : Capabilities}
    (h : root + capabilities.rootLayer.count ≤ maxIndex) (href : String)
    (fresh : Nat → Resource.Id) :
    (resourcesOf href capabilities root fresh).run =
      .ok (Context.resourcesOf href capabilities root fresh) := by
  refine run_bind (run_result _) fun u _ => ?_
  refine run_bind (run_result _) fun rs hrs => ?_
  rw [← length_of_layerResources hrs] at h
  exact run_renumbered h

theorem run_append (h : Context.validate c.features = .ok ()) {capabilities : Capabilities}
    (hc : c.features.length + capabilities.rootLayer.count ≤ maxIndex) (href : String)
    (fresh : Nat → Resource.Id) :
    (append c href capabilities fresh).run = .ok (c.append href capabilities fresh) := by
  have hroot := nextRoot_le h
  rw [append, run_step (nextRoot_eq (below_of_validate h) (by omega))]
  refine run_bind (run_resourcesOf (by omega) href fresh) fun rs hrs => ?_
  have hlength : (c.features ++ rs).length ≤ maxIndex := by
    rw [List.length_append, length_of_resourcesOf hrs]
    exact hc
  exact run_bind (run_commit c hlength) fun _ _ => rfl

end Edits

end Checked

/-! ### Reachable contexts -/

/-- A list in memory has fewer entries than this. -/
def listLimit : Nat := 2 ^ 63

/-- The layers that an edit appends are held in memory. -/
def Edit.Fits : Edit → Prop
  | .append _ capabilities _ => capabilities.rootLayer.count < listLimit
  | _ => True

theorem Checked.run_apply {c : Context} (h : Context.validate c.features = .ok ())
    (hn : c.features.length < listLimit) {e : Edit} (he : e.Fits) :
    (Checked.apply c e).run = .ok (e.apply c) := by
  have hlimit : listLimit + listLimit = maxIndex + 1 := rfl
  cases e with
  | move source target position =>
      rw [Edit.apply, ← bind_pure_eq_map]
      exact run_bind (run_move (below_of_validate h) (by omega) source target position)
        fun _ _ => rfl
  | insert target resource position => exact run_insert h (by omega) target resource position
  | remove target =>
      rw [Edit.apply, ← bind_pure_eq_map]
      exact run_bind (run_remove (by omega) target) fun _ _ => rfl
  | activate target active => exact run_result _
  | append href capabilities fresh =>
      have hcount : capabilities.rootLayer.count < listLimit := he
      rw [Edit.apply, ← bind_pure_eq_map]
      exact run_bind (run_append h (by omega) href fresh) fun _ _ => rfl

/-- In a reachable context every index of a folder is less than the number of resources. No edit of
it, no query for siblings and no validation, of whatever list, counts too far, clips a shift or
looks past the end of a path: with checks, each gives what it gives without. -/
theorem Reachable.indices_in_range {c : Context} (h : Reachable c)
    (hn : c.features.length < listLimit) :
    (∀ r ∈ c.features, ∀ i ∈ r.folder.segments, i < c.features.length) ∧
      (∀ e : Edit, e.Fits → (Checked.apply c e).run = .ok (e.apply c)) ∧
      (∀ rs : List Resource, rs.length < listLimit →
        (Checked.validate rs).run = .ok (validate rs)) ∧
      ∀ (target : Resource) (includeSelf withSubtrees : Bool),
        Checked.rightSiblings c target includeSelf withSubtrees =
          .ok (c.rightSiblings target includeSelf withSubtrees) := by
  refine ⟨fun r hr => (below_of_validate h.valid r hr).segments, ?_, ?_, ?_⟩
  · exact fun e he => Checked.run_apply h.valid hn he
  · intro rs hrs
    have hlimit : listLimit ≤ maxIndex := by decide
    exact Checked.run_validate (hrs.le.trans hlimit)
  · exact Checked.rightSiblings_eq c

/-- A service is appended to three resources, and a folder with the greatest index is refused. -/
theorem traffic_appended_in_range :
    ∃ c : Context, Reachable c ∧ c.features.length < listLimit ∧
      (∀ r ∈ c.features, ∀ i ∈ r.folder.segments, i < 3) ∧
      (Edit.append "map://city/wms" traffic Nat.repr).Fits ∧
      (Checked.apply c (.append "map://city/wms" traffic Nat.repr)).run =
        .ok (Edit.apply c (.append "map://city/wms" traffic Nat.repr)) ∧
      (Checked.validate [.new "sea" (.root maxIndex) "Sea"]).run =
        .ok (.error (.invalidStructure 0 (.root maxIndex) .firstNotRoot)) := by
  have hnew : Context.new "map" groupAndLayer =
      .ok { Context.empty "map" with features := groupAndLayer }.refreshCrs := by rfl
  have hreachable := Reachable.new hnew
  have hlength : groupAndLayer.length < listLimit := by decide
  obtain ⟨hsegments, hedits, hvalidate, -⟩ := hreachable.indices_in_range hlength
  have hfits : (Edit.append "map://city/wms" traffic Nat.repr).Fits :=
    show traffic.rootLayer.count < listLimit by decide
  refine ⟨_, hreachable, hlength, hsegments, hfits, hedits _ hfits, ?_⟩
  exact hvalidate _ (by decide)

end Context

end MapContext
