import MapContext.Proofs.Forest.Order

/-!
# Valid orders are listings of forests

Validity compares neighbours only. What it accepts is the same as a listing of a numbered forest:
a path may follow another one exactly when it is the next child of some parent whose earlier
children end there.
-/

namespace MapContext

namespace FolderPath

/-- Child number `i` of a parent may directly follow a path: the first child follows the parent
itself, every other one follows the child before it or what is below that one. -/
def Precedes (previous parent : Option FolderPath) : Nat → Prop
  | 0 => previous = parent
  | i + 1 => segmentsOf parent ++ [i] <+: segmentsOf previous

theorem precedes_first (p : Option FolderPath) : Precedes p p 0 := rfl

/-- Where the children of a child end, the next child may follow. -/
theorem Precedes.next {previous parent : Option FolderPath} {i k : Nat}
    (h : Precedes previous (some (under parent i)) k) : Precedes previous parent (i + 1) := by
  cases k with
  | zero =>
      obtain rfl : previous = _ := h
      exact List.prefix_rfl
  | succ k => exact (List.prefix_append _ _).trans h

/-- The first child follows its parent; a later one follows a path that passes through the child
before it. -/
theorem precedes_some_iff (p : FolderPath) (parent : Option FolderPath) (i : Nat) :
    Precedes (some p) parent i ↔
      (p.segments = segmentsOf parent ∧ i = 0) ∨
      (p.segments.take (segmentsOf parent).length = segmentsOf parent ∧
        ∃ j, p.segments[(segmentsOf parent).length]? = some j ∧ i = j + 1) := by
  constructor
  · intro h
    cases i with
    | zero => exact .inl ⟨congrArg segmentsOf (show some p = parent from h), rfl⟩
    | succ i =>
        obtain ⟨t, ht⟩ := h
        have ht : segmentsOf parent ++ [i] ++ t = p.segments := ht
        exact .inr (by simp [← ht])
  · rintro (⟨h, rfl⟩ | ⟨htake, j, hget, rfl⟩)
    · exact segmentsOf_injective h
    · refine List.prefix_iff_eq_take.mpr ?_
      simp only [List.length_append, List.length_singleton, segmentsOf_some,
        List.take_add_one, hget, htake, Option.toList_some]

theorem violation?_eq_none_iff (p : FolderPath) (parent : Option FolderPath) (i : Nat) :
    Context.violation? p (under parent i) = none ↔ Precedes (some p) parent i := by
  rw [precedes_some_iff]
  have hlen : (under parent i).segments.length = (segmentsOf parent).length + 1 := by simp
  simp only [Context.violation?, hlen, index_under]
  rcases Nat.lt_trichotomy p.segments.length (segmentsOf parent).length with hlt | heq | hgt
  · -- more than one level down
    have hskip : p.segments.length + 1 < (segmentsOf parent).length + 1 := by omega
    have hne : p.segments ≠ segmentsOf parent := fun h => by simp [h] at hlt
    have hnone : p.segments[(segmentsOf parent).length]? = none := by
      rw [List.getElem?_eq_none_iff]
      omega
    simp [hskip, hne, hnone]
  · -- one level down
    have hnone : p.segments[(segmentsOf parent).length]? = none := by
      rw [List.getElem?_eq_none_iff]
      omega
    simp only [heq, hnone]
    by_cases hp : p.segments = segmentsOf parent <;> by_cases hi : i = 0 <;>
      simp [hp, hi, eq_comm]
  · -- on the level of the path or of one of its ancestors
    have hskip : ¬p.segments.length + 1 < (segmentsOf parent).length + 1 := by omega
    have hchild : ¬(segmentsOf parent).length + 1 = p.segments.length + 1 := by omega
    have hne : p.segments ≠ segmentsOf parent := fun h => by simp [h] at hgt
    have hget := List.getElem?_eq_getElem hgt
    have htake : (under parent i).segments.take (segmentsOf parent).length = segmentsOf parent := by
      simp
    simp only [hskip, if_false, hchild, Nat.add_sub_cancel, htake, hget, hne, false_and, false_or,
      Option.getD_some, Option.some.injEq, exists_eq_left']
    by_cases hp : p.segments.take (segmentsOf parent).length = segmentsOf parent
    · by_cases hi : i = p.segments[(segmentsOf parent).length] + 1
      · simp [hp, hi]
      · simp only [hp, hi, ne_eq, not_true_eq_false, if_false, and_false, iff_false]
        split <;> simp
    · have hp' : segmentsOf parent ≠ p.segments.take (segmentsOf parent).length :=
        fun h => hp h.symm
      simp [hp, hp']

theorem misplaced?_eq_none_iff (previous parent : Option FolderPath) (i : Nat) :
    Context.misplaced? previous (under parent i) = none ↔ Precedes previous parent i := by
  cases previous with
  | some p => exact violation?_eq_none_iff p parent i
  | none =>
      have hroot : under parent i = root 0 ↔ segmentsOf parent ++ [i] = [0] := by
        rw [root, FolderPath.mk.injEq, segments_under]
      simp only [Context.misplaced?, ite_eq_left_iff, reduceCtorEq, imp_false, not_not, hroot]
      cases i with
      | zero =>
          constructor
          · intro h
            exact segmentsOf_injective (by simpa using h.symm)
          · intro h
            rw [← show none = parent from h]
            rfl
      | succ i =>
          constructor
          · intro h
            have := congrArg List.getLast? h
            simp at this
          · intro h
            have := List.IsPrefix.length_le (show segmentsOf parent ++ [i] <+: [] from h)
            simp at this

end FolderPath

namespace Context

/-- Every resource may directly follow the one before it; the first one follows `previous`. -/
def Ordered : Option FolderPath → List Resource → Prop
  | _, [] => True
  | previous, r :: rs => misplaced? previous r.folder = none ∧ Ordered (some r.folder) rs

/-- The folder of the last resource, or the one before all of them. -/
def lastFolder (previous : Option FolderPath) (rs : List Resource) : Option FolderPath :=
  rs.foldl (fun _ r => some r.folder) previous

@[simp] theorem lastFolder_nil (previous : Option FolderPath) :
    lastFolder previous [] = previous := rfl

@[simp] theorem lastFolder_cons (previous : Option FolderPath) (r : Resource)
    (rs : List Resource) : lastFolder previous (r :: rs) = lastFolder (some r.folder) rs := rfl

@[simp] theorem lastFolder_append (previous : Option FolderPath) (rs ss : List Resource) :
    lastFolder previous (rs ++ ss) = lastFolder (lastFolder previous rs) ss :=
  List.foldl_append

theorem ordered_append (previous : Option FolderPath) (rs ss : List Resource) :
    Ordered previous (rs ++ ss) ↔ Ordered previous rs ∧ Ordered (lastFolder previous rs) ss := by
  induction rs generalizing previous with
  | nil => simp [Ordered]
  | cons r rs ih => simp [Ordered, ih, and_assoc]

theorem validateFrom_eq_ok_iff (seen : List Resource.Id) (previous : Option FolderPath)
    (index : Nat) (rs : List Resource) :
    validateFrom seen previous index rs = .ok () ↔
      (∀ r ∈ rs, r.id ∉ seen) ∧ (rs.map (·.id)).Nodup ∧ Ordered previous rs := by
  induction rs generalizing seen previous index with
  | nil => simp [validateFrom, Ordered]
  | cons r rs ih =>
      unfold validateFrom
      by_cases hseen : r.id ∈ seen
      · simp [hseen]
      · cases hplace : misplaced? previous r.folder with
        | some fault => simp [hseen, hplace, Ordered]
        | none =>
            simp only [List.contains_iff_mem, hseen, if_false, ih, Ordered, hplace, true_and,
              List.mem_cons, not_or, List.map_cons, List.nodup_cons, List.mem_map,
              forall_eq_or_imp, not_false_iff]
            constructor
            · rintro ⟨hids, hnodup, hrs⟩
              exact ⟨fun a ha => (hids a ha).2, ⟨fun ⟨a, ha, h⟩ => (hids a ha).1 h, hnodup⟩, hrs⟩
            · rintro ⟨hids, ⟨hr, hnodup⟩, hrs⟩
              exact ⟨fun a ha => ⟨fun h => hr ⟨a, ha, h⟩, hids a ha⟩, hnodup, hrs⟩

/-- Validity in terms of neighbours: identifiers differ, and every resource may follow the one
before it. -/
theorem validate_eq_ok_iff (rs : List Resource) :
    validate rs = .ok () ↔ (rs.map (·.id)).Nodup ∧ Ordered none rs := by
  simp [validate, validateFrom_eq_ok_iff]

end Context

namespace Forest

open Context FolderPath

/-- After a numbered forest the next child of the same parent may follow. -/
theorem precedes_lastFolder (f : Forest) {previous parent : Option FolderPath} {i : Nat}
    (h : Precedes previous parent i) :
    Precedes (lastFolder previous (f.numbered parent i).flatten) parent (i + f.width) := by
  induction f generalizing previous parent i with
  | nil => exact h
  | tree r below rest ihb ihr =>
      have hbelow := ihb (precedes_first (some (under parent i)))
      have hrest := ihr hbelow.next
      rw [Nat.add_right_comm, Nat.add_assoc] at hrest
      simpa using hrest

/-- The listing of a numbered forest is in order, wherever its first tree may follow. -/
theorem ordered_numbered (f : Forest) {previous parent : Option FolderPath} {i : Nat}
    (h : Precedes previous parent i) : Ordered previous (f.numbered parent i).flatten := by
  induction f generalizing previous parent i with
  | nil => trivial
  | tree r below rest ihb ihr =>
      refine ⟨(misplaced?_eq_none_iff previous parent i).mpr h, ?_⟩
      rw [ordered_append]
      have hbelow := precedes_lastFolder below (precedes_first (some (under parent i)))
      exact ⟨ihb (precedes_first _), ihr hbelow.next⟩

/-- What directly follows a path and lies below it is its first child. -/
theorem eq_first_child {p q : FolderPath} (hq : misplaced? (some p) q = none)
    (h : Within (some p) 0 q) : q = under (some p) 0 := by
  obtain ⟨above, k, rfl⟩ := exists_under q
  rw [misplaced?_eq_none_iff] at hq
  cases k with
  | zero => rw [show some p = above from hq]
  | succ k =>
      have hle := List.IsPrefix.length_le (show segmentsOf above ++ [k] <+: p.segments from hq)
      obtain ⟨j, rest, _, hj⟩ := h
      have := congrArg List.length hj
      simp at this hle
      omega

/-- What directly follows a child or the places below it, and lies below the same parent but not
below that child, is the next child. -/
theorem eq_next_child {previous parent : Option FolderPath} {i : Nat} {q : FolderPath}
    (hprevious : segmentsOf parent ++ [i] <+: segmentsOf previous)
    (hq : misplaced? previous q = none) (hbelow : ¬Within (some (under parent i)) 0 q)
    (h : Within parent 0 q) : q = under parent (i + 1) := by
  obtain ⟨above, k, rfl⟩ := exists_under q
  rw [misplaced?_eq_none_iff] at hq
  cases k with
  | zero =>
      -- a first child would lie below the earlier child
      obtain rfl : previous = above := hq
      obtain ⟨t, ht⟩ := hprevious
      refine absurd ?_ hbelow
      cases t with
      | nil => exact ⟨0, [], Nat.le_refl 0, by simp [← ht]⟩
      | cons j t => exact ⟨j, t ++ [0], Nat.zero_le j, by simp [← ht]⟩
  | succ k =>
      have hk : segmentsOf above ++ [k] <+: segmentsOf previous := hq
      rcases List.prefix_or_prefix_of_prefix hprevious hk with ⟨t, ht⟩ | ⟨t, ht⟩
      · rcases List.eq_nil_or_concat t with rfl | ⟨init, last, rfl⟩
        · have heq := List.append_inj' (show segmentsOf parent ++ [i] = segmentsOf above ++ [k] by
            simpa using ht) rfl
          rw [segmentsOf_injective heq.1, (List.cons.inj heq.2).1]
        · refine absurd ?_ hbelow
          have habove : segmentsOf parent ++ [i] ++ init = segmentsOf above := by
            have := congrArg List.dropLast ht
            simpa [← List.append_assoc] using this
          cases init with
          | nil => exact ⟨k + 1, [], Nat.zero_le _, by simp [← habove]⟩
          | cons j init => exact ⟨j, init ++ [k + 1], Nat.zero_le j, by simp [← habove]⟩
      · rcases List.eq_nil_or_concat t with rfl | ⟨init, last, rfl⟩
        · have heq := List.append_inj' (show segmentsOf above ++ [k] = segmentsOf parent ++ [i] by
            simpa using ht) rfl
          rw [segmentsOf_injective heq.1, (List.cons.inj heq.2).1]
        · -- a shorter path does not lie below the parent
          obtain ⟨j, rest, _, hj⟩ := h
          have h₁ := congrArg List.length ht
          have h₂ := congrArg List.length hj
          simp at h₁ h₂
          omega

/-- Resources in order begin with the listing of a forest below any parent whose next child is the
only place below it that may come first; what is left does not lie below that parent. -/
theorem exists_forest_append (n : Nat) {rs : List Resource} (hn : rs.length ≤ n)
    {previous parent : Option FolderPath} {i : Nat} (hprevious : Precedes previous parent i)
    (hrs : Ordered previous rs)
    (hhead : ∀ r, rs.head? = some r → Within parent 0 r.folder → r.folder = under parent i) :
    ∃ (f : Forest) (others : List Resource), rs = (f.numbered parent i).flatten ++ others ∧
      ∀ r, others.head? = some r → ¬Within parent 0 r.folder := by
  induction n using Nat.strongRecOn generalizing rs previous parent i with
  | ind n ih =>
      cases rs with
      | nil => exact ⟨nil, [], rfl, by simp⟩
      | cons r rs =>
          simp only [List.length_cons] at hn
          by_cases hw : Within parent 0 r.folder
          · have hr : r.folder = under parent i := hhead r rfl hw
            obtain ⟨_, hrs⟩ := hrs
            rw [hr] at hrs
            obtain ⟨below, others, hsplit, hothers⟩ :=
              ih rs.length (by omega) (Nat.le_refl _) (precedes_first (some (under parent i)))
                hrs (by
                intro a ha hbelow
                obtain ⟨_, hbs⟩ : ∃ bs, rs = a :: bs := List.head?_eq_some_iff.mp ha
                rw [‹rs = _›] at hrs
                exact eq_first_child hrs.1 hbelow)
            rw [hsplit, ordered_append] at hrs
            have hnext := (precedes_lastFolder below (precedes_first (some (under parent i)))).next
            have hle : others.length ≤ rs.length := by simp [hsplit]
            obtain ⟨rest, left, hsplit', hleft⟩ :=
              ih others.length (by omega) (Nat.le_refl _) hnext hrs.2 (by
                intro a ha hw
                obtain ⟨bs, rfl⟩ := List.head?_eq_some_iff.mp ha
                exact eq_next_child hnext hrs.2.1 (hothers a rfl) hw)
            refine ⟨tree r below rest, left, ?_, hleft⟩
            simp only [numbered_tree, flatten_tree, ← hr, Resource.atFolder_self, List.cons_append,
              List.append_assoc]
            rw [hr, ← hsplit', ← hsplit]
          · exact ⟨nil, r :: rs, rfl, by simpa using hw⟩

/-- Resources in order are the listing of a numbered forest. -/
theorem exists_flatten_eq {rs : List Resource} (h : Ordered none rs) :
    ∃ f : Forest, (f.numbered none 0).flatten = rs := by
  obtain ⟨f, others, hsplit, hothers⟩ :=
    exists_forest_append rs.length (Nat.le_refl _) (precedes_first none) h (by
      intro r hr _
      obtain ⟨_, rfl⟩ := List.head?_eq_some_iff.mp hr
      have hfirst := h.1
      simp only [misplaced?, ite_eq_left_iff, reduceCtorEq, imp_false, not_not] at hfirst
      exact hfirst)
  cases others with
  | nil => exact ⟨f, by simpa using hsplit.symm⟩
  | cons r others => exact absurd (within_none r.folder) (hothers r rfl)

/-- A listing determines the forest that it was read off. -/
theorem numbered_eq_of_flatten_eq {f g : Forest} {parent : Option FolderPath} {i : Nat}
    (h : (f.numbered parent i).flatten = (g.numbered parent i).flatten) :
    f.numbered parent i = g.numbered parent i := by
  induction f generalizing g parent i with
  | nil =>
      cases g with
      | nil => rfl
      | tree r below rest => simp at h
  | tree a below rest ihb ihr =>
      cases g with
      | nil => simp at h
      | tree b below' rest' =>
          simp only [numbered_tree, flatten_tree, List.cons.injEq, tree.injEq] at h ⊢
          obtain ⟨hroot, htail⟩ := h
          -- what lies below the root is what comes from the forest below it
          let p := under parent i
          have hpart (below rest : Forest) :
              ((below.numbered (some p) 0).flatten ++ (rest.numbered parent (i + 1)).flatten).filter
                (fun r => p.isAncestorOf r.folder) = (below.numbered (some p) 0).flatten := by
            rw [List.filter_append, List.filter_eq_self.mpr, List.filter_eq_nil_iff.mpr,
              List.append_nil]
            · intro r hr hp
              obtain ⟨j, tail, _, hj⟩ := isAncestorOf_iff.mp hp
              obtain ⟨j', tail', hle, hj'⟩ := within_of_mem hr
              rw [hj'] at hj
              simp [p] at hj
              omega
            · intro r hr
              exact isAncestorOf_iff.mpr (within_of_mem hr)
          have hbelow : (below.numbered (some p) 0).flatten =
              (below'.numbered (some p) 0).flatten := by
            rw [← hpart below rest, ← hpart below' rest', htail]
          rw [hbelow, List.append_cancel_left_eq] at htail
          exact ⟨hroot, ihb hbelow, ihr htail⟩

end Forest

namespace Context

/-- A list of resources is valid exactly if its identifiers differ and it is the listing of a
forest whose roots and children are numbered from zero without gaps. -/
theorem validate_eq_ok_iff_exists_forest (rs : List Resource) :
    validate rs = .ok () ↔
      (rs.map (·.id)).Nodup ∧ ∃ f : Forest, (f.numbered none 0).flatten = rs := by
  rw [validate_eq_ok_iff]
  constructor
  · rintro ⟨hids, hrs⟩
    exact ⟨hids, Forest.exists_flatten_eq hrs⟩
  · rintro ⟨hids, f, rfl⟩
    exact ⟨hids, f.ordered_numbered (FolderPath.precedes_first none)⟩

end Context

end MapContext
