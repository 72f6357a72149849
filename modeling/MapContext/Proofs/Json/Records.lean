import MapContext.Proofs.Json.Values

/-!
# Records that are read back

The members of a record are written in the order of its fields, absent ones are left out, and other
members follow. Reading such members reads the fields one after the other, each from its own
member, and keeps the others. Whatever text a record is read from, its other members are sorted and
do not stand for fields.
-/

namespace MapContext.Json

variable {α β : Type}

/-- Decoding the text of a value goes through what is read from it. -/
theorem decode_pretty (d : Decoder α) (v : Value) :
    decode d v.pretty = d (v.reread 128) := by
  simp only [decode, readText_pretty]
  cases d (v.reread 128) with
  | error e => rfl
  | ok a => rfl

/-- A field with the value that is written for it, unless it is left out. -/
abbrev Entry (α : Type) := Field α × Option Value

/-- The members that are written for fields. -/
def written (entries : List (Entry α)) : Members :=
  entries.flatMap fun e => (e.2.map fun v => (e.1.key, v)).toList

/-- The record with a field read from the text that is written for it. -/
def readEntry (room : Nat) (a : α) (e : Entry α) : Except Error α :=
  match e.2 with
  | none => .ok a
  | some v => (e.1.read (v.reread room)).map fun change => change a

/-- The members of an object whose values are met in a given way. -/
def metMembers (met : Value → Tree) (ms : Members) : TreeMembers :=
  ms.map fun m => (some m.1, met m.2)

/-- The record with a field read from its value, which is met in a given way. -/
def readMet (met : Value → Tree) (a : α) (e : Entry α) : Except Error α :=
  match e.2 with
  | none => .ok a
  | some v => (e.1.read (met v)).map fun change => change a

theorem rereadMembers_eq_met (room : Nat) (ms : Members) :
    Value.rereadMembers room ms = metMembers (Value.reread room) ms :=
  Value.rereadMembers_eq_map room ms

/-- The keys of the fields for which something is written, last one first, after others. -/
def seenAfter (seen : List String) (entries : List (Entry α)) : List String :=
  ((entries.filter (·.2.isSome)).map (·.1.key)).reverse ++ seen

namespace Schema

variable {s : Schema α} {entries : List (Entry α)} {room : Nat} {met : Value → Tree}

theorem metMembers_append (met : Value → Tree) (ms ns : Members) :
    metMembers met (ms ++ ns) = metMembers met ms ++ metMembers met ns :=
  List.map_append

theorem members_append (draft : Draft α) (ts us : TreeMembers) :
    s.members draft (ts ++ us) = s.members draft ts >>= fun draft => s.members draft us := by
  induction ts generalizing draft with
  | nil => rfl
  | cons t ts ih =>
      obtain ⟨key, t⟩ := t
      cases key with
      | none => rfl
      | some key =>
          rw [List.cons_append, members, members]
          cases s.member draft key t with
          | error e => rfl
          | ok draft => exact ih draft

theorem find?_key {fields : List (Field α)} {f : Field α} (hf : f ∈ fields)
    (hkeys : (fields.map (·.key)).Nodup) : fields.find? (·.key == f.key) = some f := by
  induction fields with
  | nil => cases hf
  | cons g fields ih =>
      rw [List.map_cons, List.nodup_cons] at hkeys
      rcases List.mem_cons.mp hf with rfl | hf
      · simp
      · have hne : g.key ≠ f.key := by
          intro heq
          exact hkeys.1 (heq ▸ List.mem_map_of_mem hf)
        rw [List.find?_cons_of_neg (by simpa using hne), ih hf hkeys.2]

/-- Fields are read one after the other from what is written for them. -/
theorem members_written (draft : Draft α) (hfields : ∀ e ∈ entries, e.1 ∈ s.fields)
    (hkeys : (s.fields.map (·.key)).Nodup) (hentries : (entries.map (·.1.key)).Nodup)
    (hseen : ∀ e ∈ entries, e.1.key ∉ draft.seen) :
    s.members draft (metMembers met (written entries)) =
      (entries.foldlM (readMet met) draft.record).map fun a =>
        { draft with seen := seenAfter draft.seen entries, record := a } := by
  induction entries generalizing draft with
  | nil => rfl
  | cons e entries ih =>
      obtain ⟨f, v?⟩ := e
      obtain ⟨hf, hlater⟩ := List.forall_mem_cons.mp hfields
      obtain ⟨hnew, hunseen⟩ := List.forall_mem_cons.mp hseen
      obtain ⟨hkey, hrest⟩ := List.nodup_cons.mp (List.map_cons ▸ hentries)
      rw [List.foldlM_cons]
      cases v? with
      | none => exact ih draft hlater hrest hunseen
      | some v =>
          have hmember : s.member draft f.key (met v) =
              (f.read (met v)).map fun change =>
                { draft with seen := f.key :: draft.seen, record := change draft.record } := by
            rw [member, find?_key hf hkeys]
            simp only [List.contains_iff_mem, hnew, if_false]
            cases f.read (met v) with
            | error e => rfl
            | ok change => rfl
          have hsplit : metMembers met (written ((f, some v) :: entries)) =
              (some f.key, met v) :: metMembers met (written entries) := rfl
          have hread : readMet met draft.record (f, some v) =
              (f.read (met v)).map fun change => change draft.record := rfl
          rw [hsplit, members, hmember, hread]
          cases f.read (met v) with
          | error e => rfl
          | ok change =>
              have hfresh : ∀ e ∈ entries, e.1.key ∉ f.key :: draft.seen := by
                intro e he hmem
                rcases List.mem_cons.mp hmem with heq | hmem
                · exact hkey (List.mem_map.mpr ⟨e, he, heq⟩)
                · exact hunseen e he hmem
              rw [map_ok, map_ok, ok_bind, ok_bind, ih _ hlater hrest hfresh]
              simp [seenAfter]

theorem member_unknown (draft : Draft α) {key : String} {t : Tree}
    {keep : Members → α → α} (hkeep : s.keep = some keep)
    (hkey : key ∉ s.fields.map (·.key)) :
    s.member draft key t = t.value.map fun v =>
      { draft with others := Members.put key v draft.others } := by
  have hfind : s.fields.find? (·.key == key) = none := by
    rw [List.find?_eq_none]
    intro f hf heq
    exact hkey (eq_of_beq heq ▸ List.mem_map_of_mem hf)
  rw [member, hfind]
  simp only [hkeep]
  cases t.value with
  | error e => rfl
  | ok v => rfl

/-- Members of other keys are kept. -/
theorem members_unknown (draft : Draft α) {others : Members}
    {keep : Members → α → α} (hkeep : s.keep = some keep)
    (hothers : ∀ m ∈ others, m.1 ∉ s.fields.map (·.key)) :
    s.members draft (metMembers met others) =
      (Tree.members (metMembers met others) draft.others).map fun ms =>
        { draft with others := ms } := by
  induction others generalizing draft with
  | nil => rfl
  | cons m others ih =>
      obtain ⟨k, v⟩ := m
      obtain ⟨hk, hothers⟩ := List.forall_mem_cons.mp hothers
      rw [metMembers, List.map_cons, members, Tree.members, member_unknown draft hkeep hk]
      cases (met v).value with
      | error e => rfl
      | ok w => exact ih _ hothers

/-- A record is finished if something is written for each required field. -/
theorem finish_seenAfter (draft : Draft α) (hfields : s.fields = entries.map (·.1))
    (hrequired : ∀ e ∈ entries.take s.required, e.2.isSome = true)
    (hseen : draft.seen = seenAfter [] entries) :
    s.finish draft = .ok (match s.keep with
      | some keep => keep draft.others draft.record
      | none => draft.record) := by
  have hfind : (s.fields.take s.required).find? (fun f => !draft.seen.contains f.key) = none := by
    rw [List.find?_eq_none]
    intro f hf
    rw [hfields, ← List.map_take] at hf
    obtain ⟨e, he, rfl⟩ := List.mem_map.mp hf
    have hmem : e.1.key ∈ draft.seen := by
      rw [hseen, seenAfter, List.append_nil, List.mem_reverse]
      exact List.mem_map_of_mem
        (List.mem_filter.mpr ⟨List.mem_of_mem_take he, hrequired e he⟩)
    simpa using hmem
  rw [finish, hfind]
  cases s.keep with
  | some keep => rfl
  | none => rfl

section Decode

variable (hfields : s.fields = entries.map (·.1)) (hkeys : (s.fields.map (·.key)).Nodup)
  (hrequired : ∀ e ∈ entries.take s.required, e.2.isSome = true)

include hfields hkeys hrequired

/-- A record without other members is read field by field. -/
theorem decode_met (hkeep : s.keep = none) :
    s.decode (.object (metMembers met (written entries)) none) =
      entries.foldlM (readMet met) s.start := by
  have hentries : ∀ e ∈ entries, e.1 ∈ s.fields := by
    intro e he
    rw [hfields]
    exact List.mem_map_of_mem he
  have hnodup : (entries.map (·.1.key)).Nodup := by
    rw [hfields, List.map_map] at hkeys
    exact hkeys
  rw [decode, members_written _ hentries hkeys hnodup (by simp)]
  cases entries.foldlM (readMet met) s.start with
  | error e => rfl
  | ok a =>
      have hfinish :=
        finish_seenAfter ⟨seenAfter [] entries, [], a⟩ hfields hrequired rfl
      rw [hkeep] at hfinish
      exact hfinish

/-- A record with other members is read field by field, and then the others. -/
theorem decode_met_append {others : Members} {keep : Members → α → α}
    (hkeep : s.keep = some keep) (hothers : ∀ m ∈ others, m.1 ∉ s.fields.map (·.key)) :
    s.decode (.object (metMembers met (written entries ++ others)) none) =
      entries.foldlM (readMet met) s.start >>= fun a =>
        (Tree.members (metMembers met others) []).map fun ms => keep ms a := by
  have hentries : ∀ e ∈ entries, e.1 ∈ s.fields := by
    intro e he
    rw [hfields]
    exact List.mem_map_of_mem he
  have hnodup : (entries.map (·.1.key)).Nodup := by
    rw [hfields, List.map_map] at hkeys
    exact hkeys
  rw [decode, metMembers_append, members_append,
    members_written _ hentries hkeys hnodup (by simp)]
  cases entries.foldlM (readMet met) s.start with
  | error e => rfl
  | ok a =>
      rw [map_ok, ok_bind, ok_bind, members_unknown _ hkeep hothers]
      cases Tree.members (metMembers met others) [] with
      | error e => rfl
      | ok ms =>
          have hfinish :=
            finish_seenAfter ⟨seenAfter [] entries, ms, a⟩ hfields hrequired rfl
          rw [hkeep] at hfinish
          exact hfinish

/-- The text of a record without other members is read field by field. -/
theorem decode_written (hkeep : s.keep = none) (hroom : 1 < room) :
    s.decode ((Value.object (written entries)).reread room) =
      entries.foldlM (readEntry (room - 1)) s.start := by
  rw [Value.reread, nested, if_neg (by omega), rereadMembers_eq_met]
  exact decode_met hfields hkeys hrequired hkeep

/-- The text of a record with other members is read field by field, and then the others. -/
theorem decode_written_append {others : Members} {keep : Members → α → α}
    (hkeep : s.keep = some keep) (hothers : ∀ m ∈ others, m.1 ∉ s.fields.map (·.key))
    (hroom : 1 < room) :
    s.decode ((Value.object (written entries ++ others)).reread room) =
      entries.foldlM (readEntry (room - 1)) s.start >>= fun a =>
        (Tree.members (Value.rereadMembers (room - 1) others) []).map fun ms => keep ms a := by
  rw [Value.reread, nested, if_neg (by omega), rereadMembers_eq_met, rereadMembers_eq_met]
  exact decode_met_append hfields hkeys hrequired hkeep hothers

end Decode

end Schema

/-! ### Fields -/

section Fields

variable {γ : Type} {key : String} {d : Decoder β} {a : α} {room : Nat}

/-- A field that is always written is read from its value. -/
theorem readEntry_some {put : β → α → α} (v : Value) :
    readEntry room a (field key d put, some v) = (d (v.reread room)).map fun b => put b a := by
  simp only [readEntry, field]
  cases d (v.reread room) with
  | error e => rfl
  | ok b => rfl

/-- What is read for a field that is left out when it is absent. -/
def readOptional (room : Nat) (d : Decoder β) (toJson : γ → Value) :
    Option γ → Except Error (Option β)
  | none => .ok none
  | some c => optional d ((toJson c).reread room)

/-- A field that is left out when it is absent. -/
theorem readEntry_optional {put : Option β → α → α} (toJson : γ → Value) (c : Option γ)
    (ha : put none a = a) :
    readEntry room a (field key (optional d) put, c.map toJson) =
      (readOptional room d toJson c).map fun b => put b a := by
  cases c with
  | none => simp [readEntry, readOptional, ha]
  | some c => exact readEntry_some (toJson c)

theorem readOptional_eq_ok_iff {toJson : β → Value} (hnull : ∀ b, d .null ≠ .ok b)
    (b : Option β) :
    readOptional room d toJson b = .ok b ↔ ∀ c ∈ b, d ((toJson c).reread room) = .ok c := by
  cases b with
  | none => simp [readOptional]
  | some b =>
      simp only [readOptional, Option.mem_some_iff, forall_eq']
      cases h : (toJson b).reread room with
      | null => simp [optional, hnull]
      | _ => simp [optional, map_eq_ok_iff]

theorem readOptional_text (s : Option String) :
    readOptional room string .text s = .ok s := by
  rw [readOptional_eq_ok_iff]
  · intro c _
    rfl
  · intro b h
    cases h

/-- What is written for a field that is left out when it is empty. -/
def listValue (toJson : γ → Value) (cs : List γ) : Option Value :=
  if cs.isEmpty then none else some (.array (cs.map toJson))

/-- What is read for a list of values. -/
def readList (room : Nat) (d : Decoder β) (toJson : γ → Value) (cs : List γ) :
    Except Error (List β) :=
  (cs.map fun c => (toJson c).reread (room - 1)).mapM d

theorem list_reread (toJson : γ → Value) (cs : List γ) (hroom : 1 < room) :
    list d ((Value.array (cs.map toJson)).reread room) = readList room d toJson cs := by
  have hmap : (cs.map toJson).map (Value.reread (room - 1)) =
      cs.map fun c => (toJson c).reread (room - 1) := List.map_map
  rw [Value.reread, nested, if_neg (by omega), Value.rereadItems_eq_map, hmap, list, readList]
  cases (cs.map fun c => (toJson c).reread (room - 1)).mapM d with
  | error e => rfl
  | ok bs => rfl

/-- A field that is left out when it is empty. -/
theorem readEntry_list {put : List β → α → α} (toJson : γ → Value) (cs : List γ)
    (ha : put [] a = a) (hroom : 1 < room) :
    readEntry room a (field key (list d) put, listValue toJson cs) =
      (readList room d toJson cs).map fun bs => put bs a := by
  cases cs with
  | nil => simp [readEntry, listValue, readList, pure, Except.pure, ha]
  | cons c cs =>
      have hsome : listValue toJson (c :: cs) = some (.array ((c :: cs).map toJson)) := rfl
      rw [hsome, readEntry_some, list_reread toJson (c :: cs) hroom]

theorem readList_text (hs : List String) : readList room string .text hs = .ok hs := by
  rw [readList, mapM_eq_ok_iff]
  intro s _
  rfl

theorem readList_eq_ok_iff {toJson : β → Value} (bs : List β) :
    readList room d toJson bs = .ok bs ↔ ∀ b ∈ bs, d ((toJson b).reread (room - 1)) = .ok b :=
  mapM_eq_ok_iff

end Fields

/-! ### What can be read -/

theorem Tree.refuse_ne_ok (t : Tree) (expected : String) (b : β) : t.refuse expected ≠ .ok b := by
  rw [Tree.refuse]
  cases t.describe with
  | error e => exact fun h => nomatch h
  | ok found => exact fun h => nomatch h

/-- What is decoded was read from some tree. -/
theorem exists_of_decode {d : Decoder β} {text : String} {b : β} (h : decode d text = .ok b) :
    ∃ t, d t = .ok b := by
  simp only [decode] at h
  split at h
  · cases h
  · next a ha =>
      split at h
      · cases h
      · cases h
        exact ⟨_, ha⟩

/-- Each result of a list of readings was read. -/
theorem mem_of_mapM {d : Decoder β} {ts : List Tree} {bs : List β} (h : ts.mapM d = .ok bs) :
    ∀ b ∈ bs, ∃ t, d t = .ok b := by
  induction ts generalizing bs with
  | nil =>
      cases h
      simp
  | cons t ts ih =>
      rw [List.mapM_cons] at h
      obtain ⟨b, hb, h⟩ := bind_eq_ok_iff.mp h
      obtain ⟨cs, hcs, h⟩ := bind_eq_ok_iff.mp h
      cases h
      exact List.forall_mem_cons.mpr ⟨⟨t, hb⟩, ih hcs⟩

/-- Each member of a list that is read was read itself. -/
theorem mem_of_list {d : Decoder β} {t : Tree} {bs : List β} (h : list d t = .ok bs) :
    ∀ b ∈ bs, ∃ u, d u = .ok b := by
  cases t with
  | array items ending =>
      obtain ⟨cs, hcs, h⟩ := bind_eq_ok_iff.mp h
      obtain ⟨-, -, h⟩ := bind_eq_ok_iff.mp h
      cases h
      exact mem_of_mapM hcs
  | _ => exact absurd h (Tree.refuse_ne_ok _ _ bs)

/-- A value that may be missing is missing or was read itself. -/
theorem mem_of_optional {d : Decoder β} {t : Tree} {b? : Option β} (h : optional d t = .ok b?) :
    ∀ b ∈ b?, d t = .ok b := by
  rintro b rfl
  cases t with
  | null => cases h
  | _ =>
      obtain ⟨c, hc, hb⟩ := map_eq_ok_iff.mp h
      cases hb
      exact hc

theorem exists_of_optional {d : Decoder β} {t : Tree} {b? : Option β} (ht : t ≠ .null)
    (h : optional d t = .ok b?) : ∃ b, d t = .ok b := by
  cases t with
  | null => exact absurd rfl ht
  | _ =>
      obtain ⟨b, hb, -⟩ := map_eq_ok_iff.mp h
      exact ⟨b, hb⟩

namespace Schema

variable {s : Schema α} {p : α → Prop}

/-- A draft of a record with a property; the other members so far are sorted, and none of them
stands for a field. -/
structure Sound (s : Schema α) (p : α → Prop) (draft : Draft α) : Prop where
  /-- The record has the property. -/
  record : p draft.record
  /-- The other members are sorted. -/
  sorted : draft.others.Sorted
  /-- None of them stands for a field. -/
  unknown : ∀ m ∈ draft.others, m.1 ∉ s.fields.map (·.key)

section Sound

variable (hfields : ∀ f ∈ s.fields, ∀ t change, f.read t = .ok change → ∀ a, p a → p (change a))

include hfields

theorem Sound.member {draft draft' : Draft α} (hdraft : Sound s p draft) {key : String} {t : Tree}
    (h : s.member draft key t = .ok draft') : Sound s p draft' := by
  rw [Schema.member] at h
  split at h
  · next f hf =>
      split at h
      · cases h
      · obtain ⟨change, hchange, h⟩ := bind_eq_ok_iff.mp h
        cases h
        exact ⟨hfields f (List.mem_of_find?_eq_some hf) t change hchange _ hdraft.record,
          hdraft.sorted, hdraft.unknown⟩
  · next hnone =>
      split at h
      · obtain ⟨v, hv, h⟩ := bind_eq_ok_iff.mp h
        cases h
        refine ⟨hdraft.record, hdraft.sorted.put key (t.sorted_of_value hv), ?_⟩
        intro m hm
        rcases Members.mem_put hm with rfl | hm
        · intro hkey
          obtain ⟨f, hf, hfkey⟩ := List.mem_map.mp hkey
          exact List.find?_eq_none.mp hnone f hf (beq_iff_eq.mpr hfkey)
        · exact hdraft.unknown m hm
      · obtain ⟨_, -, h⟩ := bind_eq_ok_iff.mp h
        cases h
        exact hdraft

theorem Sound.members {draft draft' : Draft α} (hdraft : Sound s p draft) {ts : TreeMembers}
    (h : s.members draft ts = .ok draft') : Sound s p draft' := by
  induction ts generalizing draft with
  | nil =>
      cases h
      exact hdraft
  | cons t ts ih =>
      obtain ⟨key, t⟩ := t
      cases key with
      | none => cases h
      | some key =>
          obtain ⟨draft₁, hmember, h⟩ := bind_eq_ok_iff.mp h
          exact ih (hdraft.member hfields hmember) h

theorem property_of_sequence {ending : ListEnding} {index : Nat} {a b : α}
    {fields : List (Field α)} (hmem : ∀ f ∈ fields, f ∈ s.fields) {ts : List Tree} (ha : p a)
    (h : s.sequence ending index a fields ts = .ok b) : p b := by
  induction fields generalizing index a ts with
  | nil =>
      rw [sequence] at h
      obtain ⟨_, -, h⟩ := bind_eq_ok_iff.mp h
      cases h
      exact ha
  | cons f fields ih =>
      obtain ⟨hf, hmem⟩ := List.forall_mem_cons.mp hmem
      cases ts with
      | nil =>
          rw [sequence] at h
          obtain ⟨_, -, h⟩ := bind_eq_ok_iff.mp h
          split at h
          · cases h
          · cases h
            exact ha
      | cons t ts =>
          obtain ⟨change, hchange, h⟩ := bind_eq_ok_iff.mp h
          exact ih hmem (hfields f hf t change hchange a ha) h

/-- What holds of a record before it is read, and stays true with each field and with other
members, holds of the record that is read. -/
theorem property_of_decode (hstart : p s.start)
    (hkeep : ∀ keep, s.keep = some keep → ∀ ms : Members, ms.Sorted →
      (∀ m ∈ ms, m.1 ∉ s.fields.map (·.key)) → ∀ a, p a → p (keep ms a))
    {t : Tree} {a : α} (h : s.decode t = .ok a) : p a := by
  have hempty : Sound s p ⟨[], [], s.start⟩ :=
    ⟨hstart, ⟨by simp [Members.Ascending], by simp⟩, by simp⟩
  cases t with
  | object members ending =>
      obtain ⟨draft, hmembers, h⟩ := bind_eq_ok_iff.mp h
      have hdraft := hempty.members hfields hmembers
      cases ending with
      | some problem => cases h
      | none =>
          simp only [finish] at h
          split at h
          · cases h
          · split at h
            · next keep hk =>
                cases h
                exact hkeep keep hk _ hdraft.sorted hdraft.unknown _ hdraft.record
            · cases h
              exact hdraft.record
  | array items ending =>
      simp only [decode] at h
      split at h
      · exact absurd h (Tree.refuse_ne_ok _ _ a)
      · exact property_of_sequence hfields (fun _ hf => hf) hstart h
  | _ => exact absurd h (Tree.refuse_ne_ok _ _ a)

end Sound

end Schema

end MapContext.Json
