import Mathlib.Data.List.Nodup
import MapContext.Json.Tree
import MapContext.Proofs.Json.Records

/-!
# Formats that do not drift

A format tells of a record how each of its fields is read and written, and where the members that
stand for no field are kept. Whatever was read in a format is recovered from what is written for it.
The fields come from the members of their keys, and the other members pass unchanged.
-/

namespace MapContext.Json

variable {α β : Type}

/-! ### Values as trees -/

theorem Value.itemTrees_eq_map (vs : List Value) : itemTrees vs = vs.map toTree := by
  induction vs with
  | nil => rfl
  | cons v vs ih => rw [itemTrees, List.map_cons, ih]

theorem Value.memberTrees_eq_met (ms : Members) : memberTrees ms = metMembers toTree ms := by
  induction ms with
  | nil => rfl
  | cons m ms ih => rw [memberTrees, ih, metMembers, metMembers, List.map_cons]

theorem Value.toTree_array (vs : List Value) :
    (Value.array vs).toTree = .array (vs.map toTree) .closed := by
  rw [toTree, itemTrees_eq_map]

theorem Value.toTree_object (ms : Members) :
    (Value.object ms).toTree = .object (metMembers toTree ms) none := by
  rw [toTree, memberTrees_eq_met]

/-- Sorted members are kept in their order. -/
theorem Members.members_met (done : Members) {ms : Members} (h : (done ++ ms).Ascending)
    (hvalues : ∀ m ∈ ms, m.2.toTree.value = .ok m.2) :
    Tree.members (metMembers Value.toTree ms) done = .ok (done ++ ms) := by
  induction ms generalizing done with
  | nil => rw [List.append_nil]; rfl
  | cons m ms ih =>
      obtain ⟨k, v⟩ := m
      obtain ⟨hv, hvalues⟩ := List.forall_mem_cons.mp hvalues
      have hlast : ∀ n ∈ done, n.1 < k := by
        intro n hn
        rw [Members.Ascending, List.map_append, List.pairwise_append] at h
        exact h.2.2 n.1 (List.mem_map_of_mem hn) k (by simp)
      have hrest : ((done ++ [(k, v)]) ++ ms).Ascending := by
        rwa [List.append_assoc, List.singleton_append]
      rw [metMembers, List.map_cons, Tree.members, hv, ok_bind, Members.put_last v hlast]
      rw [← metMembers, ih _ hrest hvalues, List.append_assoc, List.singleton_append]

/-- A sorted value is kept as it is. -/
theorem Value.value_toTree {v : Value} (h : v.Sorted) : v.toTree.value = .ok v := by
  induction v using Value.induction with
  | null => rfl
  | boolean b => rfl
  | number n => rfl
  | text s => rfl
  | array items ih =>
      cases h with
      | array hitems =>
          have hvalues : (items.map toTree).mapM Tree.value = .ok items :=
            mapM_eq_ok_iff.mpr fun v hv => ih v hv (hitems v hv)
          rw [toTree_array, Tree.value, Tree.values_eq_mapM, hvalues]
          rfl
  | object members ih =>
      cases h with
      | object hkeys hmembers =>
          rw [toTree_object, Tree.value,
            Members.members_met [] hkeys fun m hm => ih m hm (hmembers m hm)]
          rfl

theorem Members.Sorted.members_met {ms : Members} (h : ms.Sorted) :
    Tree.members (metMembers Value.toTree ms) [] = .ok ms :=
  Members.members_met [] h.ascending fun m hm => Value.value_toTree (h.values m hm)

/-! ### Readers that recover what they read -/

/-- Whatever a reader accepts, it recovers it from what is written for it. -/
def Recovers (d : Decoder α) (encode : α → Value) : Prop :=
  ∀ t a, d t = .ok a → d (encode a).toTree = .ok a

variable {d : Decoder β} {encode : β → Value}

theorem recovers_string : Recovers string .text := fun _ _ _ => rfl

theorem recovers_boolean : Recovers boolean .boolean := fun _ _ _ => rfl

theorem isFinite_of_float {t : Tree} {x : Float} (h : float t = .ok x) : x.isFinite = true := by
  cases t with
  | number n =>
      cases n with
      | float y =>
          cases h
          exact y.isFinite
      | integer n =>
          simp only [float] at h
          split at h
          · next hfinite =>
              cases h
              exact hfinite
          · cases h
  | _ => exact absurd h (Tree.refuse_ne_ok _ _ x)

theorem recovers_float : Recovers float .ofFloat := by
  intro t x h
  have hvalue : Value.ofFloat x = .number (.float ⟨x, isFinite_of_float h⟩) := by
    rw [Value.ofFloat, dif_pos]
  rw [hvalue]
  rfl

/-- A value that is not missing is read in the same way where it may be missing. -/
theorem optional_of_ok (hnull : ∀ b, d .null ≠ .ok b) {t : Tree} {b : β} (h : d t = .ok b) :
    optional d t = .ok (some b) := by
  cases t with
  | null => exact absurd h (hnull b)
  | _ => exact map_eq_ok_iff.mpr ⟨b, h, rfl⟩

theorem Recovers.mapM (h : Recovers d encode) {bs : List β} (hbs : ∀ b ∈ bs, ∃ t, d t = .ok b) :
    (bs.map fun b => (encode b).toTree).mapM d = .ok bs := by
  refine mapM_eq_ok_iff.mpr fun b hb => ?_
  obtain ⟨t, ht⟩ := hbs b hb
  exact h t b ht

theorem Recovers.list (h : Recovers d encode) :
    Recovers (list d) fun bs => .array (bs.map encode) := by
  intro t bs hbs
  rw [Value.toTree_array, List.map_map, Json.list]
  have hread := h.mapM (mem_of_list hbs)
  exact bind_eq_ok_iff.mpr ⟨bs, hread, rfl⟩

/-! ### Columns -/

/-- A field of a record, with its place in the record and the value that is written for it. -/
structure Column (α : Type) where
  /-- What the field contains. -/
  Content : Type
  /-- The key. -/
  key : String
  /-- The reader of a value. -/
  decoder : Decoder Content
  /-- Stores the content. -/
  put : Content → α → α
  /-- The stored content. -/
  get : α → Content
  /-- The value that is written, unless the field is left out. -/
  write : Content → Option Value

namespace Column

/-- The field as it is read. -/
def field (c : Column α) : Field α := Json.field c.key c.decoder c.put

/-- A field that is always written. -/
def always (key : String) (d : Decoder β) (put : β → α → α) (get : α → β) (encode : β → Value) :
    Column α :=
  ⟨β, key, d, put, get, fun b => some (encode b)⟩

/-- A field that is left out when it is absent. -/
def optional (key : String) (d : Decoder β) (put : Option β → α → α) (get : α → Option β)
    (encode : β → Value) : Column α :=
  ⟨Option β, key, Json.optional d, put, get, fun b => b.map encode⟩

/-- A field that is written as `null` when it is absent. -/
def nullable (key : String) (d : Decoder β) (put : Option β → α → α) (get : α → Option β)
    (encode : β → Value) : Column α :=
  ⟨Option β, key, Json.optional d, put, get, fun b => some ((b.map encode).getD .null)⟩

/-- A field that is left out when it is empty. -/
def list (key : String) (d : Decoder β) (put : List β → α → α) (get : α → List β)
    (encode : β → Value) : Column α :=
  ⟨List β, key, Json.list d, put, get, listValue encode⟩

/-- A content that stood in the record before it was read, or was read. -/
def Obtained (c : Column α) (start : α) (b : c.Content) : Prop :=
  b = c.get start ∨ ∃ t, c.decoder t = .ok b

theorem Obtained.exists_decoder {c : Column α} {start : α} {b : c.Content} (h : c.Obtained start b)
    (hstart : ∃ t, c.decoder t = .ok (c.get start)) : ∃ t, c.decoder t = .ok b := by
  rcases h with rfl | h
  · exact hstart
  · exact h

/-- Each content is recovered from what is written for it; only the one from before may be left
out. -/
def Recovered (c : Column α) (start : α) : Prop :=
  ∀ b, c.Obtained start b →
    (c.write b = none ∧ b = c.get start) ∨ ∃ v, c.write b = some v ∧ c.decoder v.toTree = .ok b

variable {key : String} {start : α}

theorem recovered_always {put : β → α → α} {get : α → β} (h : Recovers d encode)
    (hstart : ∃ t, d t = .ok (get start)) : (always key d put get encode).Recovered start := by
  rintro b (rfl | ⟨t, ht⟩)
  · obtain ⟨t, ht⟩ := hstart
    exact .inr ⟨_, rfl, h t _ ht⟩
  · exact .inr ⟨_, rfl, h t b ht⟩

section Option

variable {put : Option β → α → α} {get : α → Option β} (h : Recovers d encode)
  (hnull : ∀ b, d .null ≠ .ok b) (hstart : get start = none)

include h hnull hstart

theorem recovered_optional : (optional key d put get encode).Recovered start := by
  intro b hb
  cases b with
  | none => exact .inl ⟨rfl, hstart.symm⟩
  | some b =>
      rcases hb with hb | ⟨t, ht⟩
      · exact absurd (hb.trans hstart) (Option.some_ne_none b)
      · exact .inr ⟨_, rfl, optional_of_ok hnull (h t b (mem_of_optional ht b rfl))⟩

theorem recovered_nullable : (nullable key d put get encode).Recovered start := by
  intro b hb
  cases b with
  | none => exact .inr ⟨_, rfl, rfl⟩
  | some b =>
      rcases hb with hb | ⟨t, ht⟩
      · exact absurd (hb.trans hstart) (Option.some_ne_none b)
      · exact .inr ⟨_, rfl, optional_of_ok hnull (h t b (mem_of_optional ht b rfl))⟩

end Option

theorem recovered_list {put : List β → α → α} {get : α → List β} (h : Recovers d encode)
    (hstart : get start = []) : (list key d put get encode).Recovered start := by
  intro bs hbs
  cases bs with
  | nil => exact .inl ⟨rfl, hstart.symm⟩
  | cons b bs =>
      rcases hbs with hbs | ⟨t, ht⟩
      · exact absurd (hbs.trans hstart) (List.cons_ne_nil b bs)
      · exact .inr ⟨_, rfl, h.list t _ ht⟩

end Column

/-! ### Formats -/

/-- The format of a record: its form as it is read, and a column for each field. -/
structure Format (α : Type) where
  /-- The form as it is read. -/
  schema : Schema α
  /-- The fields in declaration order. -/
  columns : List (Column α)
  /-- The other members that are kept. -/
  rest : α → Members
  /-- The columns are those of the fields. -/
  fields_eq : schema.fields = columns.map Column.field
  /-- Their keys differ. -/
  nodup : (columns.map Column.key).Nodup
  /-- What is stored in a column is found there. -/
  get_put : ∀ c ∈ columns, ∀ b a, c.get (c.put b a) = b
  /-- What is stored in another column does not matter. -/
  get_put_of_ne : ∀ c ∈ columns, ∀ c' ∈ columns, c.key ≠ c'.key →
    ∀ b a, c.get (c'.put b a) = c.get a
  /-- What is stored in a column does not matter for the other members. -/
  rest_put : ∀ c ∈ columns, ∀ b a, rest (c.put b a) = rest a
  /-- In the beginning there are no other members. -/
  rest_start : rest schema.start = []
  /-- Other members do not matter for the columns. -/
  get_keep : ∀ keep, schema.keep = some keep → ∀ c ∈ columns, ∀ ms a, c.get (keep ms a) = c.get a
  /-- Other members are found where they are kept. -/
  rest_keep : ∀ keep, schema.keep = some keep → ∀ ms a, rest (keep ms a) = ms
  /-- There are none if they are not kept. -/
  rest_eq_nil : schema.keep = none → ∀ a, rest a = []
  /-- A record is determined by its columns and its other members. -/
  ext : ∀ a b, (∀ c ∈ columns, c.get a = c.get b) → rest a = rest b → a = b
  /-- A required field is always written. -/
  required : ∀ c ∈ columns.take schema.required, ∀ b, (c.write b).isSome = true
  /-- Each field is recovered. -/
  recovered : ∀ c ∈ columns, c.Recovered schema.start

namespace Format

variable {f : Format α} {a : α} {c c' : Column α} {v : Value}

/-- The fields with the values that are written for them. -/
def entries (f : Format α) (a : α) : List (Entry α) :=
  f.columns.map fun c => (c.field, c.write (c.get a))

/-- The record as it is written: its fields, and then the other members. -/
def toJson (f : Format α) (a : α) : Value := .object (written (f.entries a) ++ f.rest a)

theorem keys_eq (f : Format α) : f.schema.fields.map (·.key) = f.columns.map Column.key := by
  rw [f.fields_eq, List.map_map]
  rfl

theorem eq_of_key (hc : c ∈ f.columns) (hc' : c' ∈ f.columns) (h : c.key = c'.key) : c = c' :=
  List.inj_on_of_nodup_map f.nodup hc hc' h

/-- The columns of a record that is read were read, or are as before. The other members are sorted,
and none of them stands for a field. -/
theorem obtained_of_decode {t : Tree} (h : f.schema.decode t = .ok a) :
    (∀ c ∈ f.columns, c.Obtained f.schema.start (c.get a)) ∧ (f.rest a).Sorted ∧
      ∀ m ∈ f.rest a, m.1 ∉ f.schema.fields.map (·.key) := by
  refine Schema.property_of_decode (p := fun a =>
    (∀ c ∈ f.columns, c.Obtained f.schema.start (c.get a)) ∧ (f.rest a).Sorted ∧
      ∀ m ∈ f.rest a, m.1 ∉ f.schema.fields.map (·.key)) ?_ ?_ ?_ h
  · intro g hg t change hchange a ⟨hcolumns, hrest⟩
    rw [f.fields_eq] at hg
    obtain ⟨c, hc, rfl⟩ := List.mem_map.mp hg
    obtain ⟨b, hb, rfl⟩ := map_eq_ok_iff.mp hchange
    refine ⟨fun c' hc' => ?_, by rwa [f.rest_put c hc]⟩
    by_cases hkey : c'.key = c.key
    · obtain rfl := eq_of_key hc' hc hkey
      exact .inr ⟨t, by rw [f.get_put c' hc']; exact hb⟩
    · rw [f.get_put_of_ne c' hc' c hc hkey]
      exact hcolumns c' hc'
  · refine ⟨fun c _ => .inl rfl, ?_⟩
    rw [f.rest_start]
    exact ⟨⟨by simp [Members.Ascending], by simp⟩, by simp⟩
  · rintro keep hkeep ms hsorted hunknown a ⟨hcolumns, -⟩
    rw [f.rest_keep keep hkeep]
    refine ⟨fun c hc => ?_, hsorted, hunknown⟩
    rw [f.get_keep keep hkeep c hc]
    exact hcolumns c hc

/-- The columns are read one after the other from what is written for them. -/
theorem exists_foldlM {columns : List (Column α)} (hcolumns : ∀ c ∈ columns, c ∈ f.columns)
    (hnodup : (columns.map Column.key).Nodup) {a₀ : α}
    (hobtained : ∀ c ∈ columns, c.Obtained f.schema.start (c.get a))
    (hstart : ∀ c ∈ columns, c.get a₀ = c.get f.schema.start) :
    ∃ a', (columns.map fun c => (c.field, c.write (c.get a))).foldlM (readMet Value.toTree) a₀ =
        .ok a' ∧
      (∀ c ∈ columns, c.get a' = c.get a) ∧
      (∀ c ∈ f.columns, c.key ∉ columns.map Column.key → c.get a' = c.get a₀) ∧
      f.rest a' = f.rest a₀ := by
  induction columns generalizing a₀ with
  | nil => exact ⟨a₀, rfl, by simp, fun _ _ _ => rfl, rfl⟩
  | cons c columns ih =>
      obtain ⟨hc, hcolumns⟩ := List.forall_mem_cons.mp hcolumns
      obtain ⟨hnew, hnodup⟩ := List.nodup_cons.mp hnodup
      obtain ⟨hobtained₁, hobtained⟩ := List.forall_mem_cons.mp hobtained
      obtain ⟨hstart₁, hstart⟩ := List.forall_mem_cons.mp hstart
      have hne (c' : Column α) (hc' : c' ∈ columns) : c'.key ≠ c.key := fun heq =>
        hnew (heq ▸ List.mem_map_of_mem hc')
      -- reading the first column stores its content and nothing else
      obtain ⟨a₁, hread, hget, hothers, hrest⟩ : ∃ a₁,
          readMet Value.toTree a₀ (c.field, c.write (c.get a)) = .ok a₁ ∧ c.get a₁ = c.get a ∧
            (∀ c' ∈ f.columns, c'.key ≠ c.key → c'.get a₁ = c'.get a₀) ∧
            f.rest a₁ = f.rest a₀ := by
        rcases f.recovered c hc _ hobtained₁ with ⟨hnone, hsame⟩ | ⟨v, hsome, hv⟩
        · rw [hnone]
          exact ⟨a₀, rfl, hstart₁.trans hsame.symm, fun _ _ _ => rfl, rfl⟩
        · rw [hsome]
          refine ⟨c.put (c.get a) a₀, ?_, f.get_put c hc _ _,
            fun c' hc' hkey => f.get_put_of_ne c' hc' c hc hkey _ _, f.rest_put c hc _ _⟩
          simp only [readMet, Column.field, field, hv, map_ok]
      have hstart' : ∀ c' ∈ columns, c'.get a₁ = c'.get f.schema.start := by
        intro c' hc'
        rw [hothers c' (hcolumns c' hc') (hne c' hc'), hstart c' hc']
      obtain ⟨a', hfold, hcontents, hkept, hrest'⟩ := ih hcolumns hnodup hobtained hstart'
      refine ⟨a', ?_, List.forall_mem_cons.mpr ⟨?_, hcontents⟩, ?_, hrest'.trans hrest⟩
      · rw [List.map_cons, List.foldlM_cons, hread, ok_bind, hfold]
      · rw [hkept c hc hnew, hget]
      · intro c' hc' hkey
        rw [List.map_cons, List.mem_cons, not_or] at hkey
        obtain ⟨hkey, hkeys⟩ := hkey
        rw [hkept c' hc' hkeys, hothers c' hc' hkey]

/-- A record is read from what is written for it if its columns were read and its other members
could have been. -/
theorem decode_toJson (hobtained : ∀ c ∈ f.columns, c.Obtained f.schema.start (c.get a))
    (hsorted : (f.rest a).Sorted) (hunknown : ∀ m ∈ f.rest a, m.1 ∉ f.schema.fields.map (·.key)) :
    f.schema.decode (f.toJson a).toTree = .ok a := by
  obtain ⟨a', hfold, hcontents, -, hrest⟩ :=
    exists_foldlM (fun _ hc => hc) f.nodup hobtained (fun _ _ => rfl)
  rw [f.rest_start] at hrest
  have hfields : f.schema.fields = (f.entries a).map (·.1) := by
    rw [f.fields_eq, entries, List.map_map]
    rfl
  have hkeys : (f.schema.fields.map (·.key)).Nodup := f.keys_eq ▸ f.nodup
  have hrequired : ∀ e ∈ (f.entries a).take f.schema.required, e.2.isSome = true := by
    intro e he
    rw [entries, ← List.map_take] at he
    obtain ⟨c, hc, rfl⟩ := List.mem_map.mp he
    exact f.required c hc _
  rw [toJson, Value.toTree_object]
  cases hkeep : f.schema.keep with
  | none =>
      have hnone := f.rest_eq_nil hkeep
      rw [hnone a, List.append_nil, Schema.decode_met hfields hkeys hrequired hkeep, entries,
        hfold, f.ext a' a hcontents (by rw [hnone, hnone])]
  | some keep =>
      rw [Schema.decode_met_append hfields hkeys hrequired hkeep hunknown, entries, hfold,
        ok_bind, hsorted.members_met, map_ok]
      congr 1
      refine f.ext _ _ (fun c hc => ?_) (f.rest_keep keep hkeep _ _)
      rw [f.get_keep keep hkeep c hc, hcontents c hc]

/-- What is read in a format is recovered from what is written for it. -/
theorem recovers (f : Format α) : Recovers f.schema.decode f.toJson := by
  intro t a h
  obtain ⟨hobtained, hsorted, hunknown⟩ := obtained_of_decode h
  exact decode_toJson hobtained hsorted hunknown

end Format

/-! ### The members of a value -/

/-- The values of a record under their keys: the members of an object, or the items of an array
under the keys of the fields in declaration order. -/
def Schema.assigned (s : Schema α) : Value → Members
  | .object ms => ms
  | .array items => (s.fields.map (·.key)).zip items
  | _ => []

/-- The value under a key, `null` if there is none. -/
def Schema.part (s : Schema α) (key : String) (v : Value) : Value :=
  ((s.assigned v).lookup key).getD .null

/-- The items of an array. -/
def Value.items : Value → List Value
  | .array vs => vs
  | _ => []

/-- The members that stand for no field. -/
def Schema.others (s : Schema α) (ms : Members) : Members :=
  ms.filter fun m => !(s.fields.map (·.key)).contains m.1

/-- The members of a value that stand for no field. -/
def Schema.unknown (s : Schema α) (v : Value) : Members := s.others (s.assigned v)

section Parts

variable {s : Schema α} {ms ns : Members} {v : Value}

theorem mem_of_lookup {key : String} {w : Value} (h : ms.lookup key = some w) : (key, w) ∈ ms := by
  obtain ⟨before, after, rfl, -⟩ := List.lookup_eq_some_iff.mp h
  simp

/-- The values of a sorted value are sorted. -/
theorem sorted_of_mem_assigned (h : v.Sorted) {m : String × Value} (hm : m ∈ s.assigned v) :
    m.2.Sorted := by
  cases h with
  | object _ hvalues => exact hvalues m hm
  | array hitems => exact hitems m.2 (List.of_mem_zip hm).2
  | _ => cases hm

theorem Schema.sorted_part (h : v.Sorted) (key : String) : (s.part key v).Sorted := by
  rw [part]
  cases hlookup : (s.assigned v).lookup key with
  | none => exact .null
  | some w => exact sorted_of_mem_assigned h (mem_of_lookup hlookup)

theorem Value.sorted_of_mem_items (h : v.Sorted) : ∀ w ∈ v.items, w.Sorted := by
  cases h with
  | array hitems => exact hitems
  | _ => simp [items]

theorem Schema.others_append : s.others (ms ++ ns) = s.others ms ++ s.others ns :=
  List.filter_append ..

theorem Schema.others_eq_nil (h : ∀ m ∈ ms, m.1 ∈ s.fields.map (·.key)) : s.others ms = [] := by
  apply List.filter_eq_nil_iff.mpr
  intro m hm
  simpa using h m hm

theorem Schema.others_eq_self (h : ∀ m ∈ ms, m.1 ∉ s.fields.map (·.key)) : s.others ms = ms := by
  apply List.filter_eq_self.mpr
  intro m hm
  simpa using h m hm

end Parts

namespace Format

variable {f : Format α} {a : α} {c : Column α} {v : Value}

/-- A member changes the column of its key only, and is added to the others if there is none. -/
theorem member_cases {draft draft' : Draft α} {key : String} {t : Tree}
    (h : f.schema.member draft key t = .ok draft') :
    (∃ c ∈ f.columns, c.key = key ∧ draft'.others = draft.others ∧
      ∃ b, c.decoder t = .ok b ∧ draft'.record = c.put b draft.record) ∨
    (key ∉ f.schema.fields.map (·.key) ∧ draft'.record = draft.record ∧
      ∀ keep, f.schema.keep = some keep → ∃ w, t.value = .ok w ∧
        draft'.others = draft.others.put key w) := by
  rw [Schema.member] at h
  split at h
  · next g hg =>
      obtain ⟨c, hc, rfl⟩ := List.mem_map.mp (f.fields_eq ▸ List.mem_of_find?_eq_some hg)
      have hkey : c.field.key = key := by simpa using List.find?_some hg
      split at h
      · cases h
      · obtain ⟨change, hchange, h⟩ := bind_eq_ok_iff.mp h
        obtain ⟨b, hb, rfl⟩ := map_eq_ok_iff.mp hchange
        cases h
        exact .inl ⟨c, hc, hkey, rfl, b, hb, rfl⟩
  · next hnone =>
      have hkey : key ∉ f.schema.fields.map (·.key) := by
        intro hmem
        obtain ⟨g, hg, rfl⟩ := List.mem_map.mp hmem
        exact List.find?_eq_none.mp hnone g hg (beq_self_eq_true _)
      refine .inr ⟨hkey, ?_⟩
      split at h
      · next keep hkeep =>
          obtain ⟨w, hw, h⟩ := bind_eq_ok_iff.mp h
          cases h
          exact ⟨rfl, fun _ _ => ⟨w, hw, rfl⟩⟩
      · next hkeep =>
          obtain ⟨_, -, h⟩ := bind_eq_ok_iff.mp h
          cases h
          exact ⟨rfl, fun keep hsome => by rw [hkeep] at hsome; cases hsome⟩

/-- A column is read from the member of its key, if there is one. -/
def ReadFrom (c : Column α) (ms : Members) (before after : α) : Prop :=
  match ms.lookup c.key with
  | some w => c.decoder w.toTree = .ok (c.get after)
  | none => c.get after = c.get before

theorem readFrom_members (hc : c ∈ f.columns) {ms : Members} (hms : (ms.map (·.1)).Nodup)
    {draft draft' : Draft α}
    (h : f.schema.members draft (metMembers Value.toTree ms) = .ok draft') :
    ReadFrom c ms draft.record draft'.record := by
  induction ms generalizing draft with
  | nil =>
      cases h
      exact rfl
  | cons m ms ih =>
      obtain ⟨k, w⟩ := m
      obtain ⟨hnew, hms⟩ := List.nodup_cons.mp hms
      obtain ⟨draft₁, hmember, h⟩ := bind_eq_ok_iff.mp h
      have hrest := ih hms h
      rw [ReadFrom] at hrest ⊢
      by_cases hkey : c.key = k
      · subst hkey
        rw [lookup_eq_none_of_not_mem hnew] at hrest
        rw [List.lookup_cons_self]
        rcases member_cases hmember with ⟨c', hc', hkey', -, b, hb, hrecord⟩ | ⟨hunknown, -⟩
        · obtain rfl := eq_of_key hc' hc hkey'
          rw [hrest, hrecord, f.get_put c' hc']
          exact hb
        · rw [f.keys_eq] at hunknown
          exact absurd (List.mem_map_of_mem hc) hunknown
      · rw [lookup_cons_of_ne hkey]
        have hsame : c.get draft₁.record = c.get draft.record := by
          rcases member_cases hmember with ⟨c', hc', hkey', -, b, -, hrecord⟩ | ⟨-, hrecord, -⟩
          · rw [hrecord, f.get_put_of_ne c hc c' hc' (fun heq => hkey (heq.trans hkey'))]
          · rw [hrecord]
        rwa [hsame] at hrest

theorem readFrom_sequence (hc : c ∈ f.columns) {columns : List (Column α)}
    (hcolumns : ∀ c ∈ columns, c ∈ f.columns) (hnodup : (columns.map Column.key).Nodup)
    {index : Nat} {items : List Value} {a b : α}
    (h : f.schema.sequence .closed index a (columns.map Column.field)
      (items.map Value.toTree) = .ok b) :
    ReadFrom c ((columns.map Column.key).zip items) a b := by
  induction columns generalizing index items a with
  | nil =>
      obtain ⟨_, -, h⟩ := bind_eq_ok_iff.mp h
      cases h
      exact rfl
  | cons c' columns ih =>
      obtain ⟨hc', hcolumns⟩ := List.forall_mem_cons.mp hcolumns
      obtain ⟨hnew, hnodup⟩ := List.nodup_cons.mp hnodup
      cases items with
      | nil =>
          obtain ⟨_, -, h⟩ := bind_eq_ok_iff.mp h
          split at h
          · cases h
          · cases h
            exact rfl
      | cons w items =>
          obtain ⟨change, hchange, h⟩ := bind_eq_ok_iff.mp h
          obtain ⟨content, hcontent, rfl⟩ := map_eq_ok_iff.mp hchange
          have hrest := ih hcolumns hnodup h
          rw [ReadFrom] at hrest ⊢
          rw [List.map_cons, List.zip_cons_cons]
          by_cases hkey : c.key = c'.key
          · obtain rfl := eq_of_key hc hc' hkey
            have hnone : c.key ∉ ((columns.map Column.key).zip items).map (·.1) := by
              intro hmem
              obtain ⟨pair, hpair, heq⟩ := List.mem_map.mp hmem
              exact hnew (heq ▸ (List.of_mem_zip hpair).1)
            rw [lookup_eq_none_of_not_mem hnone, f.get_put c hc] at hrest
            rw [List.lookup_cons_self, hrest]
            exact hcontent
          · rw [lookup_cons_of_ne hkey]
            rwa [f.get_put_of_ne c hc c' hc' hkey] at hrest

/-- A column of a record that is read comes from the value under its key; without one it is as
before. -/
theorem readFrom_of_decode (hc : c ∈ f.columns) (hv : v.Sorted)
    (h : f.schema.decode v.toTree = .ok a) :
    ReadFrom c (f.schema.assigned v) f.schema.start a := by
  cases v with
  | object ms =>
      cases hv with
      | object hkeys _ =>
          rw [Value.toTree_object] at h
          obtain ⟨draft, hmembers, h⟩ := bind_eq_ok_iff.mp h
          have hread := readFrom_members hc (hkeys.imp String.ne_of_lt) hmembers
          simp only [Schema.finish] at h
          split at h
          · cases h
          · split at h
            · next keep hkeep =>
                cases h
                rw [ReadFrom] at hread ⊢
                rwa [f.get_keep keep hkeep c hc]
            · cases h
              exact hread
  | array items =>
      rw [Value.toTree_array, Schema.decode] at h
      split at h
      · exact absurd h (Tree.refuse_ne_ok _ _ a)
      · rw [f.fields_eq] at h
        rw [Schema.assigned, f.keys_eq]
        exact readFrom_sequence hc (fun _ hc => hc) f.nodup h
  | _ => exact absurd h (Tree.refuse_ne_ok _ _ a)

/-- A column is read from the value under its key, or is as before. -/
theorem part_of_decode (hc : c ∈ f.columns) (hv : v.Sorted)
    (h : f.schema.decode v.toTree = .ok a) :
    c.decoder (f.schema.part c.key v).toTree = .ok (c.get a) ∨
      (f.schema.part c.key v = .null ∧ c.get a = c.get f.schema.start) := by
  have hread := readFrom_of_decode hc hv h
  rw [ReadFrom] at hread
  rw [Schema.part]
  cases hlookup : (f.schema.assigned v).lookup c.key with
  | some w =>
      rw [hlookup] at hread
      exact .inl hread
  | none =>
      rw [hlookup] at hread
      exact .inr ⟨rfl, hread⟩

/-- The other members are kept in their order. -/
theorem others_members {keep : Members → α → α} (hkeep : f.schema.keep = some keep)
    (done : Members) {ms : Members} (hms : (done ++ ms).Ascending)
    (hvalues : ∀ m ∈ ms, m.2.Sorted) {draft draft' : Draft α}
    (h : f.schema.members draft (metMembers Value.toTree ms) = .ok draft')
    (hdraft : draft.others = f.schema.others done) :
    draft'.others = f.schema.others (done ++ ms) := by
  induction ms generalizing done draft with
  | nil =>
      cases h
      rw [List.append_nil, hdraft]
  | cons m ms ih =>
      obtain ⟨k, w⟩ := m
      obtain ⟨hw, hvalues⟩ := List.forall_mem_cons.mp hvalues
      obtain ⟨draft₁, hmember, h⟩ := bind_eq_ok_iff.mp h
      have hsplit : done ++ (k, w) :: ms = (done ++ [(k, w)]) ++ ms := by
        rw [List.append_assoc, List.singleton_append]
      rw [hsplit] at hms ⊢
      apply ih _ hms hvalues h
      rw [Schema.others_append, ← hdraft]
      rcases member_cases hmember with ⟨c, hc, rfl, hothers, -⟩ | ⟨hunknown, -, hothers⟩
      · have hknown : ∀ m ∈ [(c.key, w)], m.1 ∈ f.schema.fields.map (·.key) := by
          rw [f.keys_eq]
          simpa using ⟨c, hc, rfl⟩
        rw [hothers, Schema.others_eq_nil hknown, List.append_nil]
      · obtain ⟨w', hw', hothers⟩ := hothers keep hkeep
        rw [Value.value_toTree hw] at hw'
        cases hw'
        have hlast : ∀ m ∈ draft.others, m.1 < k := by
          intro m hm
          rw [hdraft] at hm
          rw [List.append_assoc, Members.Ascending, List.map_append, List.pairwise_append] at hms
          exact hms.2.2 m.1 (List.mem_map_of_mem (List.mem_of_mem_filter hm)) k (by simp)
        rw [hothers, Members.put_last w hlast, Schema.others_eq_self (by simpa using hunknown)]

/-- The other members of a value, where they are kept, are those of the record that is read. -/
theorem unknown_of_decode {keep : Members → α → α} (hkeep : f.schema.keep = some keep)
    (hv : v.Sorted) (h : f.schema.decode v.toTree = .ok a) : f.schema.unknown v = f.rest a := by
  cases v with
  | object ms =>
      cases hv with
      | object hkeys hvalues =>
          rw [Value.toTree_object] at h
          obtain ⟨draft, hmembers, h⟩ := bind_eq_ok_iff.mp h
          have hothers := others_members hkeep [] hkeys hvalues hmembers rfl
          simp only [Schema.finish, hkeep] at h
          split at h
          · cases h
          · cases h
            rw [f.rest_keep keep hkeep, hothers]
            rfl
  | array items =>
      rw [Value.toTree_array, Schema.decode, hkeep] at h
      exact absurd h (Tree.refuse_ne_ok _ _ a)
  | _ => exact absurd h (Tree.refuse_ne_ok _ _ a)

/-! ### The members that are written -/

theorem key_mem_of_written {columns : List (Column α)} {m : String × Value}
    (hm : m ∈ written (columns.map fun c => (c.field, c.write (c.get a)))) :
    m.1 ∈ columns.map Column.key := by
  obtain ⟨e, he, hm⟩ := List.mem_flatMap.mp hm
  obtain ⟨c, hc, rfl⟩ := List.mem_map.mp he
  rw [Option.mem_toList, Option.map_eq_some_iff] at hm
  obtain ⟨w, -, rfl⟩ := hm
  exact List.mem_map_of_mem hc

/-- Among the members that are written for columns, that of a column stands under its key. -/
theorem lookup_written {columns : List (Column α)} (hc : c ∈ columns)
    (hnodup : (columns.map Column.key).Nodup) (a : α) :
    (written (columns.map fun c => (c.field, c.write (c.get a)))).lookup c.key =
      c.write (c.get a) := by
  induction columns with
  | nil => cases hc
  | cons c' columns ih =>
      obtain ⟨hnew, hnodup⟩ := List.nodup_cons.mp hnodup
      rw [List.map_cons, written, List.flatMap_cons, ← written]
      rcases List.mem_cons.mp hc with rfl | hc
      · cases c.write (c.get a) with
        | some w => exact List.lookup_cons_self
        | none =>
            apply lookup_eq_none_of_not_mem
            intro hmem
            obtain ⟨m, hm, hkey⟩ := List.mem_map.mp hmem
            exact hnew (hkey ▸ key_mem_of_written hm)
      · have hne : c.key ≠ c'.key := fun heq => hnew (heq ▸ List.mem_map_of_mem hc)
        cases c'.write (c'.get a) with
        | some w => exact (lookup_cons_of_ne hne w _).trans (ih hc hnodup)
        | none => exact ih hc hnodup

section Written

variable (hrest : ∀ m ∈ f.rest a, m.1 ∉ f.schema.fields.map (·.key))

include hrest

/-- Under the key of a column stands the value that is written for it. -/
theorem part_toJson (hc : c ∈ f.columns) :
    f.schema.part c.key (f.toJson a) = (c.write (c.get a)).getD .null := by
  have hnone : (f.rest a).lookup c.key = none := by
    apply lookup_eq_none_of_not_mem
    intro hmem
    obtain ⟨m, hm, hkey⟩ := List.mem_map.mp hmem
    apply hrest m hm
    rw [f.keys_eq, hkey]
    exact List.mem_map_of_mem hc
  rw [Schema.part, toJson, Schema.assigned, List.lookup_append, hnone, Option.or_none]
  exact congrArg (·.getD .null) (lookup_written hc f.nodup a)

/-- The other members that are written are those of the record. -/
theorem unknown_toJson : f.schema.unknown (f.toJson a) = f.rest a := by
  rw [Schema.unknown, toJson, Schema.assigned, Schema.others_append,
    Schema.others_eq_nil fun m hm => f.keys_eq ▸ key_mem_of_written hm,
    Schema.others_eq_self hrest, List.nil_append]

end Written

end Format

end MapContext.Json
