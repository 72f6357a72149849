import MapContext.Proofs.Instant.Text
import MapContext.Proofs.Services
import MapContext.Proofs.Text.Folder

/-!
# Resources that are read back

A resource with the data that a reader or a builder gives it is read back from its text exactly if
its folder is small enough, its numbers are finite and read back as themselves, and its other
members are not nested too deep.
-/

namespace MapContext.Resource

open Json

theorem decodeFolder_display_eq_ok_iff {p q : FolderPath} :
    decodeFolder (.text p.display) = .ok q ↔ q = p ∧ p.Legible := by
  rw [← FolderPath.read_display_eq_ok_iff, decodeFolder, string, ok_bind]
  cases FolderPath.read p.display with
  | error e => simp
  | ok p' => simp [pure, Except.pure]

theorem decodeInstant_display {t : Instant} (h : t.Valid) :
    decodeInstant (.text t.display) = .ok t := by
  simp only [decodeInstant, Instant.read?_display h]

theorem listMember_eq {α : Type} (key : String) (toJson : α → Value) (vs : List α) :
    listMember key toJson vs = ((listValue toJson vs).map fun v => (key, v)).toList := by
  cases vs with
  | nil => rfl
  | cons v vs => rfl

theorem optionalMember_eq {α : Type} (key : String) (toJson : α → Value) (v : Option α) :
    optionalMember key toJson v = ((v.map toJson).map fun v => (key, v)).toList := by
  cases v with
  | none => rfl
  | some v => rfl

theorem valid_of_decodeInstant {t : Tree} {i : Instant} (h : decodeInstant t = .ok i) :
    i.Valid := by
  cases t with
  | text s =>
      rw [decodeInstant] at h
      split at h
      · next j hread =>
          cases h
          exact Instant.valid_of_read? hread
      · cases h
  | _ => exact absurd h (Tree.refuse_ne_ok _ _ i)

theorem readOptional_instant {t : Option Instant} (h : ∀ u ∈ t, u.Valid) (room : Nat) :
    readOptional room decodeInstant (fun u => .text u.display) t = .ok t := by
  rw [readOptional_eq_ok_iff]
  · intro u hu
    exact decodeInstant_display (h u hu)
  · intro u h
    cases h

/-! ### Properties -/

namespace Properties

/-- Properties as a reader or a builder makes them. -/
structure Proper (p : Properties) : Prop where
  /-- The time of the last change was read. -/
  updated : ∀ t ∈ p.updated, t.Valid
  /-- Other members of the offerings are sorted. -/
  offerings : ∀ o ∈ p.offerings, o.extension.Sorted
  /-- Other members are sorted. -/
  sorted : p.extension.Sorted
  /-- None of them stands for a field. -/
  unknown : ∀ m ∈ p.extension, m.1 ∉ schema.fields.map (·.key)

theorem proper_new (folder : FolderPath) (title : String) :
    Proper { folder, title : Properties } :=
  ⟨by simp, by simp, ⟨by simp [Members.Ascending], by simp⟩, by simp⟩

/-- Properties that are read are proper, whatever the text. -/
theorem proper_of_decode {t : Tree} {p : Properties} (h : schema.decode t = .ok p) : p.Proper := by
  refine Schema.property_of_decode ?_ ?_ ?_ h
  · intro f hf t change hchange p hp
    simp only [schema, List.mem_cons, List.not_mem_nil, or_false] at hf
    rcases hf with rfl | rfl | rfl | rfl | rfl | rfl | rfl | rfl | rfl <;>
      obtain ⟨v, hv, rfl⟩ := map_eq_ok_iff.mp hchange
    -- only the time of the last change and the offerings matter
    case inr.inr.inr.inr.inl =>
      exact { hp with updated := fun t ht => valid_of_decodeInstant (mem_of_optional hv t ht) }
    case inr.inr.inr.inr.inr.inl =>
      refine { hp with offerings := ?_ }
      intro o ho
      obtain ⟨u, hu⟩ := mem_of_list hv o ho
      exact (Offering.extension_of_decode hu).1
    all_goals exact ⟨hp.updated, hp.offerings, hp.sorted, hp.unknown⟩
  · exact proper_new (.root 0) ""
  · rintro _ ⟨⟩ ms hsorted hunknown p hp
    exact ⟨hp.updated, hp.offerings, hsorted, hunknown⟩

/-- Properties that are read back at the given remaining depth. -/
structure Durable (p : Properties) (room : Nat) : Prop where
  /-- No segment of the folder is too great. -/
  folder : p.folder.Legible
  /-- The offerings are read back, two levels deeper. -/
  offerings : ∀ o ∈ p.offerings, o.Durable (room - 2)
  /-- The least scale denominator is read back. -/
  minScale : ∀ x ∈ p.minScale, DurableFloat x
  /-- The greatest scale denominator is read back. -/
  maxScale : ∀ x ∈ p.maxScale, DurableFloat x
  /-- Other members are read back. -/
  extension : ∀ m ∈ p.extension, m.2.Fits Number.Durable room

/-- The fields of properties with their values. -/
def entries (p : Properties) : List (Entry Properties) :=
  schema.fields.zip
    [some (.text p.folder.display), some (.text p.title), some (.boolean p.active),
      p.description.map .text, p.updated.map (fun t => .text t.display),
      listValue Offering.toJson p.offerings, p.minScale.map .ofFloat, p.maxScale.map .ofFloat,
      listValue .text p.crs]

theorem toJson_eq (p : Properties) : p.toJson = .object (written p.entries ++ p.extension) := by
  simp [toJson, written, entries, schema, field, listMember_eq, optionalMember_eq]

variable {p : Properties} {room : Nat}

theorem readOptional_float_eq_ok_iff (x : Option Float) (room : Nat) :
    readOptional room float .ofFloat x = .ok x ↔ ∀ y ∈ x, DurableFloat y := by
  rw [readOptional_eq_ok_iff]
  · exact forall₂_congr fun y _ => float_reread_eq_ok_iff y room
  · intro y h
    cases h

/-- The fields of properties are read one after the other. -/
theorem Proper.foldlM_entries (h : p.Proper) (hroom : 1 < room) :
    p.entries.foldlM (readEntry room) schema.start = (do
      let folder ← decodeFolder (.text p.folder.display)
      let offerings ← readList room Offering.schema.decode Offering.toJson p.offerings
      let minScale ← readOptional room float .ofFloat p.minScale
      let maxScale ← readOptional room float .ofFloat p.maxScale
      return { p with folder, offerings, minScale, maxScale, extension := [] }) := by
  simp only [entries, schema, List.zip_cons_cons, List.zip_nil_left, List.foldlM_cons,
    List.foldlM_nil, readEntry_some, Value.reread, string, boolean, map_ok, ok_bind]
  cases decodeFolder (.text p.folder.display) with
  | error e => rfl
  | ok folder =>
      simp only [map_ok, ok_bind]
      rw [readEntry_optional _ _ rfl, readOptional_text, map_ok, ok_bind,
        readEntry_optional _ _ rfl, readOptional_instant h.updated, map_ok, ok_bind,
        readEntry_list _ _ rfl hroom]
      cases readList room Offering.schema.decode Offering.toJson p.offerings with
      | error e => rfl
      | ok offerings =>
          simp only [map_ok, ok_bind]
          rw [readEntry_optional _ _ rfl]
          cases readOptional room float .ofFloat p.minScale with
          | error e => rfl
          | ok minScale =>
              simp only [map_ok, ok_bind]
              rw [readEntry_optional _ _ rfl]
              cases readOptional room float .ofFloat p.maxScale with
              | error e => rfl
              | ok maxScale =>
                  simp only [map_ok, ok_bind]
                  rw [readEntry_list _ _ rfl hroom, readList_text]
                  rfl

/-- Properties are read back from their text exactly if their folder, numbers and other members
are. -/
theorem Proper.decode_reread_eq_ok_iff (h : p.Proper) (hroom : 5 < room) :
    schema.decode (p.toJson.reread room) = .ok p ↔ p.Durable (room - 1) := by
  have hofferings : readList (room - 1) Offering.schema.decode Offering.toJson p.offerings =
      .ok p.offerings ↔ ∀ o ∈ p.offerings, o.Durable (room - 1 - 2) := by
    rw [readList_eq_ok_iff]
    exact forall₂_congr fun o ho => Offering.decode_reread_eq_ok_iff (h.offerings o ho) (by omega)
  rw [toJson_eq, Schema.decode_written_append rfl (by decide) (by simp [entries, schema]) rfl
    h.unknown (by omega), h.foldlM_entries (by omega)]
  simp only [bind_eq_ok_iff, map_eq_ok_iff, decodeFolder_display_eq_ok_iff]
  constructor
  · rintro ⟨_, ⟨_, ⟨rfl, hfolder⟩, offerings, hoff, minScale, hmin, maxScale, hmax, hfields⟩,
      extension, hext, heq⟩
    cases hfields
    have hoff' : offerings = p.offerings := congrArg Properties.offerings heq
    have hmin' : minScale = p.minScale := congrArg Properties.minScale heq
    have hmax' : maxScale = p.maxScale := congrArg Properties.maxScale heq
    have hext' : extension = p.extension := congrArg Properties.extension heq
    rw [hoff'] at hoff
    rw [hmin'] at hmin
    rw [hmax'] at hmax
    rw [hext'] at hext
    exact ⟨hfolder, hofferings.mp hoff, (readOptional_float_eq_ok_iff _ _).mp hmin,
      (readOptional_float_eq_ok_iff _ _).mp hmax, (h.sorted.reread_eq_ok_iff _).mp hext⟩
  · intro hd
    exact ⟨{ p with extension := [] }, ⟨p.folder, ⟨rfl, hd.folder⟩, p.offerings,
      hofferings.mpr hd.offerings, p.minScale, (readOptional_float_eq_ok_iff _ _).mpr hd.minScale,
      p.maxScale, (readOptional_float_eq_ok_iff _ _).mpr hd.maxScale, rfl⟩, p.extension,
      (h.sorted.reread_eq_ok_iff _).mpr hd.extension, rfl⟩

end Properties

/-! ### Resources -/

/-- The properties of a resource that is read are proper. -/
theorem proper_of_decode {t : Tree} {r : Resource} (h : schema.decode t = .ok r) :
    r.properties.Proper := by
  refine Schema.property_of_decode (p := fun r : Resource => r.properties.Proper) ?_ ?_ ?_ h
  · intro f hf t change hchange r hr
    simp only [schema, List.mem_cons, List.not_mem_nil, or_false] at hf
    rcases hf with rfl | rfl | rfl | rfl | rfl <;>
      obtain ⟨v, hv, rfl⟩ := map_eq_ok_iff.mp hchange
    case inr.inr.inl => exact Properties.proper_of_decode hv
    all_goals exact hr
  · exact Properties.proper_new (.root 0) ""
  · intro keep hkeep
    cases hkeep

/-- A resource that is read back when its members stand at the given remaining depth. -/
structure Durable (r : Resource) (room : Nat) : Prop where
  /-- The properties are read back, one level deeper. -/
  properties : r.properties.Durable (room - 1)
  /-- The extent is read back. -/
  bbox : ∀ b ∈ r.bbox, b.Durable
  /-- The shape is read back. -/
  geometry : ∀ g ∈ r.geometry, g.Durable

/-- The fields of a resource with their values. A missing shape is written. -/
def entries (r : Resource) : List (Entry Resource) :=
  schema.fields.zip
    [some (.text r.kind), some (.text r.id), some r.properties.toJson, r.bbox.map (·.toJson),
      some ((r.geometry.map Geometry.toJson).getD .null)]

theorem toJson_eq_written (r : Resource) : r.toJson = .object (written r.entries) := by
  simp [toJson, written, entries, schema, field, optionalMember_eq]

variable {r : Resource} {room : Nat}

theorem readOptional_bbox_eq_ok_iff (b : Option BoundingBox) (hroom : 1 < room) :
    readOptional room BoundingBox.decode BoundingBox.toJson b = .ok b ↔ ∀ c ∈ b, c.Durable := by
  rw [readOptional_eq_ok_iff]
  · exact forall₂_congr fun c _ => c.decode_reread_eq_ok_iff hroom
  · intro c h
    cases h

theorem decodeGeometry_eq_ok_iff (g : Option Geometry) (hroom : 4 < room) :
    Json.optional Geometry.decode (((g.map Geometry.toJson).getD .null).reread room) = .ok g ↔
      ∀ c ∈ g, c.Durable := by
  have hnull (c : Geometry) : Geometry.decode .null ≠ .ok c := by
    intro h
    cases h
  cases g with
  | none => simp [Value.reread, Json.optional]
  | some g =>
      have hread : readOptional room Geometry.decode Geometry.toJson (some g) = .ok (some g) ↔
          ∀ c ∈ some g, Geometry.decode (c.toJson.reread room) = .ok c :=
        readOptional_eq_ok_iff hnull (some g)
      rw [← forall₂_congr fun c _ => c.decode_reread_eq_ok_iff hroom]
      exact hread

/-- The fields of a resource are read one after the other. -/
theorem foldlM_entries (r : Resource) (room : Nat) :
    r.entries.foldlM (readEntry room) schema.start = (do
      let properties ← Properties.schema.decode (r.properties.toJson.reread room)
      let bbox ← readOptional room BoundingBox.decode BoundingBox.toJson r.bbox
      let geometry ← Json.optional Geometry.decode
        (((r.geometry.map Geometry.toJson).getD .null).reread room)
      return { r with properties, bbox, geometry }) := by
  simp only [entries, schema, List.zip_cons_cons, List.zip_nil_left, List.foldlM_cons,
    List.foldlM_nil, readEntry_some, Value.reread, string, map_ok, ok_bind]
  cases Properties.schema.decode (r.properties.toJson.reread room) with
  | error e => rfl
  | ok properties =>
      simp only [map_ok, ok_bind]
      rw [readEntry_optional BoundingBox.toJson r.bbox rfl]
      cases readOptional room BoundingBox.decode BoundingBox.toJson r.bbox with
      | error e => rfl
      | ok bbox =>
          simp only [map_ok, ok_bind]
          cases Json.optional Geometry.decode
              (((r.geometry.map Geometry.toJson).getD .null).reread room) with
          | error e => rfl
          | ok geometry => rfl

/-- A resource is read back from its text exactly if its properties, its extent and its shape
are. -/
theorem decode_reread_eq_ok_iff (h : r.properties.Proper) (hroom : 6 < room) :
    schema.decode (r.toJson.reread room) = .ok r ↔ r.Durable (room - 1) := by
  rw [toJson_eq_written, Schema.decode_written rfl (by decide) (by simp [entries, schema]) rfl
    (by omega), foldlM_entries]
  simp only [bind_eq_ok_iff]
  constructor
  · rintro ⟨properties, hproperties, bbox, hbbox, geometry, hgeometry, heq⟩
    have heq' : { r with properties, bbox, geometry } = r := Except.ok.inj heq
    have hp : properties = r.properties := congrArg Resource.properties heq'
    have hb : bbox = r.bbox := congrArg Resource.bbox heq'
    have hg : geometry = r.geometry := congrArg Resource.geometry heq'
    rw [hp] at hproperties
    rw [hb] at hbbox
    rw [hg] at hgeometry
    exact ⟨(h.decode_reread_eq_ok_iff (by omega)).mp hproperties,
      (readOptional_bbox_eq_ok_iff _ (by omega)).mp hbbox,
      (decodeGeometry_eq_ok_iff _ (by omega)).mp hgeometry⟩
  · intro hd
    exact ⟨r.properties, (h.decode_reread_eq_ok_iff (by omega)).mpr hd.properties, r.bbox,
      (readOptional_bbox_eq_ok_iff _ (by omega)).mpr hd.bbox, r.geometry,
      (decodeGeometry_eq_ok_iff _ (by omega)).mpr hd.geometry, rfl⟩

/-- Only a resource whose extent is finite is read back as a resource. -/
theorem isFinite_of_decode_reread {r' : Resource} (hroom : 2 < room)
    (h : schema.decode (r.toJson.reread room) = .ok r') :
    ∀ b ∈ r.bbox, ∀ x ∈ b.edges, x.isFinite = true := by
  rw [toJson_eq_written, Schema.decode_written rfl (by decide) (by simp [entries, schema]) rfl
    (by omega), foldlM_entries] at h
  obtain ⟨properties, hproperties, h⟩ := bind_eq_ok_iff.mp h
  obtain ⟨bbox, hbbox, h⟩ := bind_eq_ok_iff.mp h
  intro b hb
  have hroom' : 1 < room - 1 := by omega
  have hnotnull : b.toJson.reread (room - 1) ≠ .null := by
    rw [BoundingBox.toJson_eq, array_reread Value.ofFloat b.edges hroom']
    exact fun h => nomatch h
  rw [Option.mem_def.mp hb, readOptional] at hbbox
  obtain ⟨b', hb'⟩ := exists_of_optional hnotnull hbbox
  exact b.isFinite_of_decode_reread hroom' hb'

end MapContext.Resource
