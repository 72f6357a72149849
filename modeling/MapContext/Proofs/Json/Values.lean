import MapContext.Json.Decode
import MapContext.Proofs.Json.Texts
import MapContext.Proofs.Result

/-!
# Values that are read back

A value that was read from JSON text has its members sorted by key. Such a value is read back from
its own text exactly if each of its numbers is and it is not nested too deep.
-/

namespace MapContext.Json

/-- Induction over a value. -/
@[elab_as_elim]
theorem Value.induction {motive : Value → Prop} (null : motive .null)
    (boolean : ∀ b, motive (.boolean b)) (number : ∀ n, motive (.number n))
    (text : ∀ s, motive (.text s))
    (array : ∀ items, (∀ v ∈ items, motive v) → motive (.array items))
    (object : ∀ members, (∀ m ∈ members, motive m.2) → motive (.object members)) (v : Value) :
    motive v := by
  refine @Value.rec motive (fun items => ∀ v ∈ items, motive v)
    (fun members => ∀ m ∈ members, motive m.2) (fun m => motive m.2) null boolean number text
    array object ?_ ?_ ?_ ?_ (fun _ _ h => h) v
  · intro v hv
    cases hv
  · intro v vs hv hvs
    exact List.forall_mem_cons.mpr ⟨hv, hvs⟩
  · intro m hm
    cases hm
  · intro m ms hm hms
    exact List.forall_mem_cons.mpr ⟨hm, hms⟩

/-! ### Sorted values -/

/-- Keys that ascend strictly. -/
def Members.Ascending (members : Members) : Prop := (members.map (·.1)).Pairwise (· < ·)

/-- A value all of whose objects are sorted by key. -/
inductive Value.Sorted : Value → Prop
  /-- There are no members. -/
  | null : Value.Sorted .null
  /-- There are no members. -/
  | boolean (b : Bool) : Value.Sorted (.boolean b)
  /-- There are no members. -/
  | number (n : Number) : Value.Sorted (.number n)
  /-- There are no members. -/
  | text (s : String) : Value.Sorted (.text s)
  /-- The items are sorted. -/
  | array {items : List Value} (h : ∀ v ∈ items, Value.Sorted v) : Value.Sorted (.array items)
  /-- The keys ascend, and the values of the members are sorted. -/
  | object {members : Members} (hkeys : members.Ascending)
      (h : ∀ m ∈ members, Value.Sorted m.2) : Value.Sorted (.object members)

/-- Members that a reader keeps: they are sorted, with sorted values. -/
structure Members.Sorted (members : Members) : Prop where
  /-- The keys ascend. -/
  ascending : members.Ascending
  /-- The values are sorted. -/
  values : ∀ m ∈ members, m.2.Sorted

theorem Members.mem_put {key : String} {value : Value} {members : Members} {m : String × Value}
    (h : m ∈ members.put key value) : m = (key, value) ∨ m ∈ members := by
  induction members with
  | nil => exact .inl (List.mem_singleton.mp h)
  | cons n members ih =>
      obtain ⟨k, v⟩ := n
      simp only [Members.put] at h
      split at h
      · exact List.mem_cons.mp h
      · split at h
        · exact (List.mem_cons.mp h).imp_right (List.mem_cons_of_mem _)
        · rcases List.mem_cons.mp h with rfl | h
          · exact .inr List.mem_cons_self
          · exact (ih h).imp_right (List.mem_cons_of_mem _)

/-- A member of a new key is put beside the others. -/
theorem Members.mem_put_of_mem {key : String} {value : Value} {members : Members}
    {m : String × Value} (hnew : members.get? key = none) (h : m ∈ members) :
    m ∈ members.put key value := by
  induction members with
  | nil => cases h
  | cons n members ih =>
      obtain ⟨k, v⟩ := n
      rw [Members.get?, List.lookup_cons] at hnew
      simp only [Members.put]
      split
      · exact List.mem_cons_of_mem _ h
      · split
        · next heq => simp [heq] at hnew
        · next hne =>
            rw [show (key == k) = false from beq_false_of_ne hne] at hnew
            rcases List.mem_cons.mp h with rfl | h
            · exact List.mem_cons_self
            · exact List.mem_cons_of_mem _ (ih hnew h)

theorem Members.ascending_cons {m : String × Value} {members : Members} :
    Members.Ascending (m :: members) ↔ (∀ n ∈ members, m.1 < n.1) ∧ members.Ascending := by
  simp [Members.Ascending]

/-- Members stay sorted when one is put among them. -/
theorem Members.Ascending.put {members : Members} (h : members.Ascending) (key : String)
    (value : Value) : (members.put key value).Ascending := by
  induction members with
  | nil => simp [Members.put, Members.Ascending]
  | cons n members ih =>
      obtain ⟨k, v⟩ := n
      obtain ⟨hk, hrest⟩ := Members.ascending_cons.mp h
      simp only [Members.put]
      split
      · next hlt =>
          refine Members.ascending_cons.mpr ⟨?_, h⟩
          intro m hm
          rcases List.mem_cons.mp hm with rfl | hm
          · exact hlt
          · exact String.lt_trans hlt (hk m hm)
      · next hnot =>
          split
          · next heq =>
              subst heq
              exact Members.ascending_cons.mpr ⟨hk, hrest⟩
          · next hne =>
              refine Members.ascending_cons.mpr ⟨?_, ih hrest⟩
              intro m hm
              rcases Members.mem_put hm with rfl | hm
              · exact Decidable.byContradiction fun hge =>
                  hne (String.le_antisymm (String.not_lt.mp hge) (String.not_lt.mp hnot))
              · exact hk m hm

theorem Members.Sorted.put {members : Members} (h : members.Sorted) (key : String)
    {value : Value} (hvalue : value.Sorted) : (members.put key value).Sorted := by
  refine ⟨h.ascending.put key value, ?_⟩
  intro m hm
  rcases Members.mem_put hm with rfl | hm
  · exact hvalue
  · exact h.values m hm

/-- A member with a greater key is put at the end. -/
theorem Members.put_last {members : Members} {key : String} (value : Value)
    (h : ∀ m ∈ members, m.1 < key) : members.put key value = members ++ [(key, value)] := by
  induction members with
  | nil => rfl
  | cons n members ih =>
      obtain ⟨k, v⟩ := n
      obtain ⟨hk, hrest⟩ := List.forall_mem_cons.mp h
      have hne : key ≠ k := by
        rintro rfl
        exact String.lt_irrefl key hk
      rw [Members.put, if_neg (String.lt_asymm hk), if_neg hne, ih hrest, List.cons_append]

/-! ### What is read is sorted -/

theorem Tree.values_eq_mapM (ts : List Tree) : Tree.values ts = ts.mapM Tree.value := by
  induction ts with
  | nil => rfl
  | cons t ts ih => rw [Tree.values, List.mapM_cons, ih]

mutual

/-- A value that is read is sorted. -/
theorem Tree.sorted_of_value (t : Tree) {v : Value} (h : t.value = .ok v) : v.Sorted := by
  cases t with
  | null =>
      cases h
      exact .null
  | boolean b =>
      cases h
      exact .boolean b
  | number n =>
      cases h
      exact .number n
  | text s =>
      cases h
      exact .text s
  | array items ending =>
      obtain ⟨vs, hvs, h⟩ := bind_eq_ok_iff.mp h
      obtain ⟨-, -, h⟩ := bind_eq_ok_iff.mp h
      cases h
      exact .array (Tree.sorted_of_values items hvs)
  | object members ending =>
      obtain ⟨ms, hms, h⟩ := bind_eq_ok_iff.mp h
      have hsorted := Tree.sorted_of_members members hms ⟨by simp [Members.Ascending], by simp⟩
      cases ending with
      | some p => cases h
      | none =>
          cases h
          exact .object hsorted.ascending hsorted.values
  | broken p => cases h
  | blocked p inside => cases h
termination_by structural t

/-- Values that are read are sorted. -/
theorem Tree.sorted_of_values (ts : List Tree) {vs : List Value} (h : Tree.values ts = .ok vs) :
    ∀ v ∈ vs, v.Sorted := by
  cases ts with
  | nil =>
      cases h
      simp
  | cons t ts =>
      obtain ⟨w, hw, h⟩ := bind_eq_ok_iff.mp h
      obtain ⟨ws, hws, h⟩ := bind_eq_ok_iff.mp h
      cases h
      exact List.forall_mem_cons.mpr ⟨Tree.sorted_of_value t hw, Tree.sorted_of_values ts hws⟩
termination_by structural ts

/-- Members that are read stay sorted. -/
theorem Tree.sorted_of_members (ts : TreeMembers) {done ms : Members}
    (h : Tree.members ts done = .ok ms) (hdone : done.Sorted) : ms.Sorted := by
  cases ts with
  | nil =>
      cases h
      exact hdone
  | cons t ts =>
      obtain ⟨key, t⟩ := t
      cases key with
      | none => cases h
      | some k =>
          obtain ⟨w, hw, h⟩ := bind_eq_ok_iff.mp h
          exact Tree.sorted_of_members ts h (hdone.put k (Tree.sorted_of_value t hw))
termination_by structural ts

end

/-! ### What is read back -/

/-- Each number of the value has a property, and the value is nested less deep than the given
remaining depth. -/
inductive Value.Fits (p : Number → Prop) : Nat → Value → Prop
  /-- There are no numbers. -/
  | null (room : Nat) : Value.Fits p room .null
  /-- There are no numbers. -/
  | boolean (room : Nat) (b : Bool) : Value.Fits p room (.boolean b)
  /-- The number has the property. -/
  | number (room : Nat) {n : Number} (h : p n) : Value.Fits p room (.number n)
  /-- There are no numbers. -/
  | text (room : Nat) (s : String) : Value.Fits p room (.text s)
  /-- There is room for an array and, one level deeper, for its items. -/
  | array {room : Nat} {items : List Value} (hroom : 1 < room)
      (h : ∀ v ∈ items, Value.Fits p (room - 1) v) : Value.Fits p room (.array items)
  /-- There is room for an object and, one level deeper, for its members. -/
  | object {room : Nat} {members : Members} (hroom : 1 < room)
      (h : ∀ m ∈ members, Value.Fits p (room - 1) m.2) : Value.Fits p room (.object members)

section Reread

variable {p : Number → Prop} {room : Nat}

@[simp] theorem Value.fits_null : Value.Fits p room .null := .null room

@[simp] theorem Value.fits_boolean (b : Bool) : Value.Fits p room (.boolean b) := .boolean room b

@[simp] theorem Value.fits_text (s : String) : Value.Fits p room (.text s) := .text room s

@[simp] theorem Value.fits_number {n : Number} : Value.Fits p room (.number n) ↔ p n := by
  constructor
  · intro h
    cases h with
    | number _ h => exact h
  · exact .number room

@[simp] theorem Value.fits_array {items : List Value} :
    Value.Fits p room (.array items) ↔ 1 < room ∧ ∀ v ∈ items, Value.Fits p (room - 1) v := by
  constructor
  · intro h
    cases h with
    | array hroom h => exact ⟨hroom, h⟩
  · rintro ⟨hroom, h⟩
    exact .array hroom h

@[simp] theorem Value.fits_object {members : Members} :
    Value.Fits p room (.object members) ↔
      1 < room ∧ ∀ m ∈ members, Value.Fits p (room - 1) m.2 := by
  constructor
  · intro h
    cases h with
    | object hroom h => exact ⟨hroom, h⟩
  · rintro ⟨hroom, h⟩
    exact .object hroom h

theorem Value.rereadItems_eq_map (room : Nat) (vs : List Value) :
    Value.rereadItems room vs = vs.map (Value.reread room) := by
  induction vs with
  | nil => rfl
  | cons v vs ih => rw [Value.rereadItems, List.map_cons, ih]

theorem Value.rereadMembers_eq_map (room : Nat) (ms : Members) :
    Value.rereadMembers room ms = ms.map fun m => (some m.1, m.2.reread room) := by
  induction ms with
  | nil => rfl
  | cons m ms ih => rw [Value.rereadMembers, List.map_cons, ih]

/-- A member that is read, with its key. -/
def memberValue (room : Nat) (m : String × Value) : Except Error (String × Value) :=
  (m.2.reread room).value.map fun v => (m.1, v)

theorem memberValue_eq_ok_iff {m n : String × Value} :
    memberValue room m = .ok n ↔ n.1 = m.1 ∧ (m.2.reread room).value = .ok n.2 := by
  rw [memberValue, map_eq_ok_iff]
  constructor
  · rintro ⟨v, hv, rfl⟩
    exact ⟨rfl, hv⟩
  · rintro ⟨hkey, hv⟩
    exact ⟨n.2, hv, Prod.ext hkey.symm rfl⟩

/-- Sorted members are read in their order. -/
theorem members_reread {ms : Members} (done : Members) (h : (done ++ ms).Ascending) :
    Tree.members (Value.rereadMembers room ms) done =
      (ms.mapM (memberValue room)).map (done ++ ·) := by
  induction ms generalizing done with
  | nil => simp [Value.rereadMembers, Tree.members, pure, Except.pure]
  | cons m ms ih =>
      obtain ⟨k, v⟩ := m
      have hlast : ∀ n ∈ done, n.1 < k := by
        intro n hn
        have hpairwise := h
        rw [Members.Ascending, List.map_append, List.pairwise_append] at hpairwise
        exact hpairwise.2.2 n.1 (List.mem_map_of_mem hn) k (by simp)
      have hrest : ∀ w, ((done ++ [(k, w)]) ++ ms).Ascending := by
        intro w
        simpa [Members.Ascending] using h
      rw [Value.rereadMembers, Tree.members, List.mapM_cons, memberValue]
      cases (v.reread room).value with
      | error e => rfl
      | ok w =>
          rw [ok_bind, Members.put_last w hlast, ih _ (hrest w), map_ok, ok_bind]
          cases ms.mapM (memberValue room) with
          | error e => rfl
          | ok ws => simp [pure, Except.pure]

theorem exists_members_reread_iff {ms : Members} (done : Members) :
    (∃ r, Tree.members (Value.rereadMembers room ms) done = .ok r) ↔
      ∀ m ∈ ms, ∃ w, (m.2.reread room).value = .ok w := by
  induction ms generalizing done with
  | nil => simp [Value.rereadMembers, Tree.members]
  | cons m ms ih =>
      obtain ⟨k, v⟩ := m
      rw [Value.rereadMembers, Tree.members, List.forall_mem_cons]
      simp only [bind_eq_ok_iff]
      constructor
      · rintro ⟨r, w, hw, hr⟩
        exact ⟨⟨w, hw⟩, (ih _).mp ⟨r, hr⟩⟩
      · rintro ⟨⟨w, hw⟩, hms⟩
        obtain ⟨r, hr⟩ := (ih (done.put k w)).mpr hms
        exact ⟨r, w, hw, hr⟩

/-- A number whose text is read back as some number. -/
def Number.Legible (x : Number) : Prop := ∃ y, x.reread = .number y

theorem Number.Durable.legible {x : Number} (h : x.Durable) : x.Legible := ⟨x, h⟩

theorem value_number_reread_eq_ok_iff {x : Number} {v : Value} :
    x.reread.value = .ok v ↔ ∃ y, x.reread = .number y ∧ v = .number y := by
  rcases x.reread_cases with ⟨y, hy⟩ | hblocked
  · rw [hy, Tree.value]
    constructor
    · intro h
      cases h
      exact ⟨y, rfl, rfl⟩
    · rintro ⟨z, hz, rfl⟩
      cases hz
      rfl
  · rw [hblocked, Tree.value]
    constructor
    · intro h
      cases h
    · rintro ⟨y, hy, -⟩
      cases hy

theorem value_nested_eq_ok_iff {t : Tree} {v : Value} :
    (nested room t).value = .ok v ↔ 1 < room ∧ t.value = .ok v := by
  rw [nested]
  split
  · next hroom =>
      constructor
      · intro h
        cases h
      · rintro ⟨hroom', -⟩
        omega
  · next hroom => exact ⟨fun h => ⟨by omega, h⟩, fun h => h.2⟩

theorem value_array_reread_eq_ok_iff {items : List Value} {v : Value} :
    ((Value.array items).reread room).value = .ok v ↔ 1 < room ∧ ∃ vs, v = .array vs ∧
      (items.map (Value.reread (room - 1))).mapM Tree.value = .ok vs := by
  rw [Value.reread, value_nested_eq_ok_iff, Tree.value, Tree.values_eq_mapM,
    Value.rereadItems_eq_map, bind_eq_ok_iff]
  constructor
  · rintro ⟨hroom, vs, hvs, h⟩
    cases h
    exact ⟨hroom, vs, rfl, hvs⟩
  · rintro ⟨hroom, vs, rfl, hvs⟩
    exact ⟨hroom, vs, hvs, rfl⟩

theorem value_object_reread_eq_ok_iff {members : Members} {v : Value} :
    ((Value.object members).reread room).value = .ok v ↔ 1 < room ∧ ∃ ms, v = .object ms ∧
      Tree.members (Value.rereadMembers (room - 1) members) [] = .ok ms := by
  rw [Value.reread, value_nested_eq_ok_iff, Tree.value, bind_eq_ok_iff]
  constructor
  · rintro ⟨hroom, ms, hms, h⟩
    cases h
    exact ⟨hroom, ms, rfl, hms⟩
  · rintro ⟨hroom, ms, rfl, hms⟩
    exact ⟨hroom, ms, hms, rfl⟩

/-- Sorted members are read back exactly if each of their values is. -/
theorem members_reread_eq_ok_iff {ms : Members} (h : ms.Ascending) :
    Tree.members (Value.rereadMembers room ms) [] = .ok ms ↔
      ∀ m ∈ ms, (m.2.reread room).value = .ok m.2 := by
  have hmap : (ms.map id).mapM (memberValue room) = .ok ms ↔
      ∀ m ∈ ms, memberValue room (id m) = .ok m := mapM_eq_ok_iff
  rw [List.map_id] at hmap
  rw [members_reread [] h, map_eq_ok_iff]
  simp only [List.nil_append]
  simp only [exists_eq_right, hmap, id, memberValue_eq_ok_iff, true_and]

/-- A sorted value is read back from its text exactly if each of its numbers is and there is room
for it. -/
theorem value_reread_eq_ok_iff {v : Value} (hv : v.Sorted) (room : Nat) :
    (v.reread room).value = .ok v ↔ v.Fits Number.Durable room := by
  induction v using Value.induction generalizing room with
  | null => simp [Value.reread, Tree.value]
  | boolean b => simp [Value.reread, Tree.value]
  | number n =>
      rw [Value.reread, value_number_reread_eq_ok_iff, Value.fits_number, Number.Durable]
      constructor
      · rintro ⟨y, hy, heq⟩
        cases heq
        exact hy
      · intro h
        exact ⟨n, h, rfl⟩
  | text s => simp [Value.reread, Tree.value]
  | array items ih =>
      cases hv with
      | array hitems =>
          have hself : (∃ vs, Value.array items = .array vs ∧
              (items.map (Value.reread (room - 1))).mapM Tree.value = .ok vs) ↔
              ∀ v ∈ items, v.Fits Number.Durable (room - 1) := by
            simp only [Value.array.injEq, exists_eq_left', mapM_eq_ok_iff]
            exact forall₂_congr fun v hv => ih v hv (hitems v hv) (room - 1)
          rw [value_array_reread_eq_ok_iff, hself, Value.fits_array]
  | object members ih =>
      cases hv with
      | object hkeys hmembers =>
          have hself : (∃ ms, Value.object members = .object ms ∧
              Tree.members (Value.rereadMembers (room - 1) members) [] = .ok ms) ↔
              ∀ m ∈ members, m.2.Fits Number.Durable (room - 1) := by
            simp only [Value.object.injEq, exists_eq_left', members_reread_eq_ok_iff hkeys]
            exact forall₂_congr fun m hm => ih m hm (hmembers m hm) (room - 1)
          rw [value_object_reread_eq_ok_iff, hself, Value.fits_object]

/-- Sorted members are read back exactly if each number of theirs is and there is room for them. -/
theorem Members.Sorted.reread_eq_ok_iff {ms : Members} (h : ms.Sorted) (room : Nat) :
    Tree.members (Value.rereadMembers room ms) [] = .ok ms ↔
      ∀ m ∈ ms, m.2.Fits Number.Durable room := by
  rw [members_reread_eq_ok_iff h.ascending]
  exact forall₂_congr fun m hm => value_reread_eq_ok_iff (h.values m hm) room

/-- Some value is read from the text of a value exactly if each of its numbers is in range and
there is room for it. -/
theorem exists_value_reread_iff {v : Value} (room : Nat) :
    (∃ w, (v.reread room).value = .ok w) ↔ v.Fits Number.Legible room := by
  induction v using Value.induction generalizing room with
  | null => simp [Value.reread, Tree.value]
  | boolean b => simp [Value.reread, Tree.value]
  | number n =>
      rw [Value.fits_number, Number.Legible]
      simp only [Value.reread, value_number_reread_eq_ok_iff]
      constructor
      · rintro ⟨_, y, hy, -⟩
        exact ⟨y, hy⟩
      · rintro ⟨y, hy⟩
        exact ⟨.number y, y, hy, rfl⟩
  | text s => simp [Value.reread, Tree.value]
  | array items ih =>
      have hitems : (∃ vs, (items.map (Value.reread (room - 1))).mapM Tree.value = .ok vs) ↔ _ :=
        exists_mapM_eq_ok_iff
      rw [List.forall_mem_map] at hitems
      have hfits := forall₂_congr fun v (hv : v ∈ items) => ih v hv (room - 1)
      rw [Value.fits_array, ← hfits, ← hitems]
      simp only [value_array_reread_eq_ok_iff]
      constructor
      · rintro ⟨_, hroom, vs, -, hvs⟩
        exact ⟨hroom, vs, hvs⟩
      · rintro ⟨hroom, vs, hvs⟩
        exact ⟨.array vs, hroom, vs, rfl, hvs⟩
  | object members ih =>
      have hfits := forall₂_congr fun m (hm : m ∈ members) => ih m hm (room - 1)
      rw [Value.fits_object, ← hfits, ← exists_members_reread_iff []]
      simp only [value_object_reread_eq_ok_iff]
      constructor
      · rintro ⟨_, hroom, ms, -, hms⟩
        exact ⟨hroom, ms, hms⟩
      · rintro ⟨hroom, ms, hms⟩
        exact ⟨.object ms, hroom, ms, rfl, hms⟩

end Reread

end MapContext.Json
