import MapContext.Proofs.Context.SharedCrs
import MapContext.Proofs.Resources

/-!
# Saving a context and loading it back

The text of a valid context is read back with the same resources exactly if each of them is read
back from its own text and the metadata can be read at all. The extent that a document announces
never stands in the way, since its edges are edges of the resources.
-/

namespace MapContext

open Json

/-! ### The announced extent -/

namespace BoundingBox

theorem lesser_cases (x y : Float) : lesser x y = x ∨ lesser x y = y := by
  rw [lesser]
  split
  · exact .inr rfl
  · split
    · exact .inr rfl
    · exact .inl rfl

theorem greater_cases (x y : Float) : greater x y = x ∨ greater x y = y := by
  rw [greater]
  split
  · exact .inr rfl
  · split
    · exact .inr rfl
    · exact .inl rfl

/-- The edges of the union of two boxes are edges of one of them. -/
theorem mem_edges_union {a b : BoundingBox} {x : Float} (hx : x ∈ (a.union b).edges) :
    x ∈ a.edges ∨ x ∈ b.edges := by
  simp only [edges, union, List.mem_cons, List.not_mem_nil, or_false] at hx
  have hlesser {y z : Float} (h : x = lesser y z) : x = y ∨ x = z := by
    rcases lesser_cases y z with heq | heq
    · exact .inl (h.trans heq)
    · exact .inr (h.trans heq)
  have hgreater {y z : Float} (h : x = greater y z) : x = y ∨ x = z := by
    rcases greater_cases y z with heq | heq
    · exact .inl (h.trans heq)
    · exact .inr (h.trans heq)
  rcases hx with hx | hx | hx | hx
  · rcases hlesser hx with rfl | rfl <;> simp [edges]
  · rcases hlesser hx with rfl | rfl <;> simp [edges]
  · rcases hgreater hx with rfl | rfl <;> simp [edges]
  · rcases hgreater hx with rfl | rfl <;> simp [edges]

/-- What holds of the edges of boxes holds of the edges of their union. -/
theorem edges_foldl_union {p : Float → Prop} {first : BoundingBox} {rest : List BoundingBox}
    (hfirst : ∀ x ∈ first.edges, p x) (hrest : ∀ b ∈ rest, ∀ x ∈ b.edges, p x) :
    ∀ x ∈ (rest.foldl union first).edges, p x := by
  induction rest generalizing first with
  | nil => exact hfirst
  | cons b rest ih =>
      obtain ⟨hb, hrest⟩ := List.forall_mem_cons.mp hrest
      refine ih (fun x hx => ?_) hrest
      rcases mem_edges_union hx with hx | hx
      · exact hfirst x hx
      · exact hb x hx

end BoundingBox

/-- A resource as readers and builders make it. -/
structure Resource.Proper (r : Resource) : Prop where
  /-- It says that it is one. -/
  kind : r.kind = Context.resourceKind
  /-- Its properties were read or built. -/
  properties : r.properties.Proper

namespace Context

/-- What holds of the edges of all resources holds of the edges of the extent. -/
theorem edges_extent? {p : Float → Prop} {rs : List Resource}
    (h : ∀ r ∈ rs, ∀ b ∈ r.bbox, ∀ x ∈ b.edges, p x) : ∀ b ∈ extent? rs, ∀ x ∈ b.edges, p x := by
  have hboxes : ∀ b ∈ rs.filterMap (·.bbox), ∀ x ∈ b.edges, p x := by
    intro b hb
    obtain ⟨r, hr, hrb⟩ := List.mem_filterMap.mp hb
    exact h r hr b hrb
  intro b hb
  rw [extent?] at hb
  cases hcases : rs.filterMap (·.bbox) with
  | nil =>
      rw [hcases] at hb
      cases hb
  | cons first rest =>
      rw [hcases] at hb hboxes
      obtain ⟨hfirst, hrest⟩ := List.forall_mem_cons.mp hboxes
      cases hb
      exact BoundingBox.edges_foldl_union hfirst hrest

/-- An extent that covers boxes which are read back is read back. -/
theorem durable_extent? {rs : List Resource} (h : ∀ r ∈ rs, ∀ b ∈ r.bbox, b.Durable) :
    ∀ b ∈ extent? rs, b.Durable :=
  edges_extent? h

/-! ### Metadata -/

namespace Properties

/-- Metadata as a reader makes it. -/
structure Proper (p : Properties) : Prop where
  /-- The time of the last change was read. -/
  updated : ∀ t ∈ p.updated, t.Valid
  /-- No other member stands for a field. -/
  unknown : ∀ m ∈ p.extension, m.1 ∉ schema.fields.map (·.key)

/-- The other members can be read at the given remaining depth. -/
def Legible (p : Properties) (room : Nat) : Prop :=
  ∀ m ∈ p.extension, m.2.Fits Number.Legible room

/-- The fields of metadata with their values. -/
def entries (p : Properties) : List (Entry Properties) :=
  schema.fields.zip
    [some (.text p.title), p.subtitle.map .text, p.updated.map (fun t => .text t.display),
      p.lang.map .text]

theorem toJson_eq (p : Properties) : p.toJson = .object (written p.entries ++ p.extension) := by
  simp [toJson, written, entries, schema, field, Resource.optionalMember_eq]

variable {p : Properties} {room : Nat}

theorem Proper.foldlM_entries (h : p.Proper) (room : Nat) :
    p.entries.foldlM (readEntry room) schema.start = .ok { p with extension := [] } := by
  simp only [entries, schema, List.zip_cons_cons, List.zip_nil_left, List.foldlM_cons,
    List.foldlM_nil, readEntry_some, Value.reread, string, map_ok, ok_bind]
  rw [readEntry_optional .text p.subtitle rfl, readOptional_text, map_ok, ok_bind,
    readEntry_optional _ p.updated rfl, Resource.readOptional_instant h.updated, map_ok, ok_bind,
    readEntry_optional .text p.lang rfl, readOptional_text]
  rfl

/-- Metadata that is read is proper, whatever the text. -/
theorem proper_of_decode {t : Tree} {p : Properties} (h : schema.decode t = .ok p) : p.Proper := by
  refine Schema.property_of_decode ?_ ?_ ?_ h
  · intro f hf t change hchange p hp
    simp only [schema, List.mem_cons, List.not_mem_nil, or_false] at hf
    rcases hf with rfl | rfl | rfl | rfl <;> obtain ⟨v, hv, rfl⟩ := map_eq_ok_iff.mp hchange
    case inr.inr.inl =>
      exact { hp with
        updated := fun t ht => Resource.valid_of_decodeInstant (mem_of_optional hv t ht) }
    all_goals exact ⟨hp.updated, hp.unknown⟩
  · exact ⟨by simp [schema], by simp [schema]⟩
  · rintro _ ⟨⟩ ms - hunknown p hp
    exact ⟨hp.updated, hunknown⟩

/-- Metadata is read from its text exactly if its other members can be read. -/
theorem Proper.exists_decode_reread_iff (h : p.Proper) (hroom : 1 < room) :
    (∃ q, schema.decode (p.toJson.reread room) = .ok q) ↔ p.Legible (room - 1) := by
  rw [toJson_eq, Schema.decode_written_append rfl (by decide) (by simp [entries, schema]) rfl
    h.unknown hroom, h.foldlM_entries, ok_bind]
  have hmembers : (∃ ms, Tree.members (Value.rereadMembers (room - 1) p.extension) [] = .ok ms) ↔
      ∀ m ∈ p.extension, ∃ v, (m.2.reread (room - 1)).value = .ok v :=
    exists_members_reread_iff []
  simp only [exists_value_reread_iff] at hmembers
  rw [Legible, ← hmembers]
  simp only [map_eq_ok_iff]
  constructor
  · rintro ⟨_, ms, hms, -⟩
    exact ⟨ms, hms⟩
  · rintro ⟨ms, hms⟩
    exact ⟨_, ms, hms, rfl⟩

end Properties

/-! ### Documents -/

namespace Document

/-- The fields of a document with their values. -/
def entries (d : Document) : List (Entry Document) :=
  schema.fields.zip
    [some (.text d.id), some (.text d.kind), some d.properties.toJson, d.bbox.map (·.toJson),
      some (.array (d.features.map Resource.toJson))]

theorem toJson_eq (d : Document) : d.toJson = .object (written d.entries) := by
  simp [toJson, written, entries, schema, field, Resource.optionalMember_eq]

/-- The fields of a document are read one after the other. -/
theorem foldlM_entries (d : Document) {room : Nat} (hroom : 1 < room) :
    d.entries.foldlM (readEntry room) schema.start = (do
      let properties ← Properties.schema.decode (d.properties.toJson.reread room)
      let bbox ← readOptional room BoundingBox.decode BoundingBox.toJson d.bbox
      let features ← readList room Resource.schema.decode Resource.toJson d.features
      return { d with properties, bbox, features }) := by
  simp only [entries, schema, List.zip_cons_cons, List.zip_nil_left, List.foldlM_cons,
    List.foldlM_nil, readEntry_some, Value.reread, string, map_ok, ok_bind]
  cases Properties.schema.decode (d.properties.toJson.reread room) with
  | error e => rfl
  | ok properties =>
      simp only [map_ok, ok_bind]
      rw [readEntry_optional BoundingBox.toJson d.bbox rfl]
      cases readOptional room BoundingBox.decode BoundingBox.toJson d.bbox with
      | error e => rfl
      | ok bbox =>
          simp only [map_ok, ok_bind]
          rw [← Value.reread, list_reread Resource.toJson d.features hroom]
          cases readList room Resource.schema.decode Resource.toJson d.features with
          | error e => rfl
          | ok features => rfl

end Document

variable {c : Context}

/-- A context as readers and builders make it. -/
structure Proper (c : Context) : Prop where
  /-- The resources stand in a valid order. -/
  valid : validate c.features = .ok ()
  /-- The resources were read or built. -/
  features : ∀ r ∈ c.features, r.Proper
  /-- The metadata was read. -/
  properties : c.properties.Proper

/-- A context that can be saved and loaded: the members of its resources are read back where they
stand in a document, and the other members of its metadata can be read there. -/
structure Durable (c : Context) : Prop where
  /-- The resources are read back. -/
  features : ∀ r ∈ c.features, r.Durable 125
  /-- The metadata can be read. -/
  properties : c.properties.Legible 126

/-- The resources and the metadata of a document that is read are proper. -/
theorem Document.proper_of_decode {t : Tree} {d : Document} (h : schema.decode t = .ok d) :
    (∀ r ∈ d.features, r.properties.Proper) ∧ d.properties.Proper := by
  refine Schema.property_of_decode (p := fun d : Document =>
    (∀ r ∈ d.features, r.properties.Proper) ∧ d.properties.Proper) ?_ ?_ ?_ h
  · intro f hf t change hchange d hd
    simp only [schema, List.mem_cons, List.not_mem_nil, or_false] at hf
    rcases hf with rfl | rfl | rfl | rfl | rfl <;>
      obtain ⟨v, hv, rfl⟩ := map_eq_ok_iff.mp hchange
    case inr.inr.inl => exact ⟨hd.1, Properties.proper_of_decode hv⟩
    case inr.inr.inr.inr =>
      refine ⟨?_, hd.2⟩
      intro r hr
      obtain ⟨u, hu⟩ := mem_of_list hv r hr
      exact Resource.proper_of_decode hu
    all_goals exact hd
  · exact ⟨by simp [schema], ⟨by simp [schema], by simp [schema]⟩⟩
  · intro keep hkeep
    cases hkeep

/-- A context that is loaded is proper, whatever the text. -/
theorem proper_of_read {text : String} (h : Context.read text = .ok c) : c.Proper := by
  rw [Context.read] at h
  split at h
  · next d hd =>
      obtain ⟨-, hkinds, hvalid, rfl⟩ := ofDocument_eq_ok_iff.mp h
      obtain ⟨t, ht⟩ := exists_of_decode hd
      obtain ⟨hresources, hproperties⟩ := Document.proper_of_decode ht
      exact ⟨hvalid, fun r hr => ⟨hkinds r hr, hresources r hr⟩, hproperties⟩
  · cases h

/-- The announced profile is one more member of the metadata, or none. -/
theorem forall_mem_extension_toDocument {p : String × Value → Prop}
    (hprofile : p ("profile", .text profile)) :
    (∀ m ∈ c.toDocument.properties.extension, p m) ↔ ∀ m ∈ c.properties.extension, p m := by
  simp only [toDocument]
  split
  · exact Iff.rfl
  · next hnone =>
      constructor
      · intro h m hm
        exact h m (Members.mem_put_of_mem hnone hm)
      · intro h m hm
        rcases Members.mem_put hm with rfl | hm
        · exact hprofile
        · exact h m hm

theorem Proper.toDocument (h : c.Proper) : c.toDocument.properties.Proper :=
  ⟨h.properties.updated,
    (forall_mem_extension_toDocument (by decide)).mpr h.properties.unknown⟩

theorem legible_toDocument {room : Nat} :
    c.toDocument.properties.Legible room ↔ c.properties.Legible room :=
  forall_mem_extension_toDocument (Value.fits_text profile)

theorem readList_features_eq_ok_iff {rs : List Resource} (h : ∀ r ∈ rs, r.Proper) :
    readList 127 Resource.schema.decode Resource.toJson rs = .ok rs ↔
      ∀ r ∈ rs, r.Durable 125 := by
  rw [readList_eq_ok_iff]
  exact forall₂_congr fun r hr => Resource.decode_reread_eq_ok_iff (h r hr).properties (by omega)

/-- The text of a context is read part by part. -/
theorem document_read_text (c : Context) :
    Document.read c.text = (do
      let properties ← Properties.schema.decode (c.toDocument.properties.toJson.reread 127)
      let bbox ← readOptional 127 BoundingBox.decode BoundingBox.toJson (extent? c.features)
      let features ← readList 127 Resource.schema.decode Resource.toJson c.features
      return { c.toDocument with properties, bbox, features }) := by
  rw [Document.read, text, Document.text, decode_pretty, Document.toJson_eq,
    Schema.decode_written rfl (by decide) (by simp [Document.entries, Document.schema]) rfl
      (by omega), Document.foldlM_entries _ (by omega)]
  rfl

/-- A context that is loaded from the text of another one has the resources that are read from
it. -/
theorem read_text_cases {d : Context} (h : Context.read c.text = .ok d) :
    (∃ p, Properties.schema.decode (c.toDocument.properties.toJson.reread 127) = .ok p) ∧
      readList 127 Resource.schema.decode Resource.toJson c.features = .ok d.features := by
  rw [Context.read, document_read_text] at h
  split at h
  · next doc hdoc =>
      obtain ⟨properties, hproperties, hdoc⟩ := bind_eq_ok_iff.mp hdoc
      obtain ⟨bbox, -, hdoc⟩ := bind_eq_ok_iff.mp hdoc
      obtain ⟨features, hfeatures, hdoc⟩ := bind_eq_ok_iff.mp hdoc
      cases hdoc
      obtain ⟨-, -, -, rfl⟩ := ofDocument_eq_ok_iff.mp h
      exact ⟨⟨properties, hproperties⟩, hfeatures⟩
  · cases h

/-- A context is loaded back from its text with the same resources exactly if it can be saved and
loaded. -/
theorem Proper.read_text_iff (h : c.Proper) :
    (∃ d, Context.read c.text = .ok d ∧ d.id = c.id ∧ d.features = c.features) ↔ c.Durable := by
  constructor
  · rintro ⟨d, hread, -, hfeatures⟩
    obtain ⟨hproperties, hlist⟩ := read_text_cases hread
    rw [hfeatures] at hlist
    have hlegible := (h.toDocument.exists_decode_reread_iff (by omega)).mp hproperties
    exact ⟨(readList_features_eq_ok_iff h.features).mp hlist, legible_toDocument.mp hlegible⟩
  · intro hd
    have hlegible : c.toDocument.properties.Legible 126 := legible_toDocument.mpr hd.properties
    have hroom : 1 < 127 := by omega
    obtain ⟨properties, hproperties⟩ :=
      (h.toDocument.exists_decode_reread_iff hroom).mpr hlegible
    have hextent : ∀ b ∈ extent? c.features, b.Durable :=
      durable_extent? fun r hr => (hd.features r hr).bbox
    have hbbox := (Resource.readOptional_bbox_eq_ok_iff (extent? c.features) (by omega)).mpr hextent
    have hlist := (readList_features_eq_ok_iff h.features).mpr hd.features
    have hread : Document.read c.text = .ok { c.toDocument with properties } := by
      rw [document_read_text, hproperties, ok_bind, hbbox, ok_bind, hlist]
      rfl
    have hload : ofDocument { c.toDocument with properties } = .ok
        { { Context.empty c.id with features := c.features }.refreshCrs with properties } :=
      ofDocument_eq_ok_iff.mpr ⟨rfl, fun r hr => (h.features r hr).kind, h.valid, rfl⟩
    have hcontext : Context.read c.text = ofDocument { c.toDocument with properties } := by
      rw [Context.read, hread]
    exact ⟨_, hcontext.trans hload, rfl, rfl⟩

/-- A saved context can be loaded only if the extents of its resources are finite. -/
theorem isFinite_of_read_text {d : Context} (h : Context.read c.text = .ok d) :
    ∀ r ∈ c.features, ∀ b ∈ r.bbox, ∀ x ∈ b.edges, x.isFinite = true := by
  have hread := exists_mapM_eq_ok_iff.mp ⟨d.features, (read_text_cases h).2⟩
  intro r hr
  obtain ⟨r', hr'⟩ := hread _ (List.mem_map_of_mem hr)
  exact Resource.isFinite_of_decode_reread (by omega) hr'

end Context

end MapContext
