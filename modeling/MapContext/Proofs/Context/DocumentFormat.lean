import MapContext.Proofs.Context.Saving
import MapContext.Proofs.Formats

/-!
# The format of documents

A document is recovered from what is written for it, whatever value it was read from. The members
that stand for no field of the metadata, of a resource or of an offering are written back as they
were read. A context that was loaded is loaded again from its own document. That document announces
a profile, and then stays the same.
-/

namespace MapContext

namespace Context

open Json

/-! ### Documents are recovered -/

/-- The format of metadata. -/
def Properties.format : Format Properties where
  schema := schema
  columns :=
    [.always "title" string (fun v p => { p with title := v }) (·.title) .text,
     .optional "subtitle" string (fun v p => { p with subtitle := v }) (·.subtitle) .text,
     .optional "updated" Resource.decodeInstant (fun v p => { p with updated := v }) (·.updated)
      (fun t => .text t.display),
     .optional "lang" string (fun v p => { p with lang := v }) (·.lang) .text]
  rest := (·.extension)
  fields_eq := rfl
  nodup := by decide
  get_put := by simp [Column.always, Column.optional]
  get_put_of_ne := by simp [Column.always, Column.optional]
  rest_put := by simp [Column.always, Column.optional]
  rest_start := rfl
  get_keep := by simp [Column.always, Column.optional, schema]
  rest_keep := by simp [schema]
  rest_eq_nil := by
    intro hkeep
    cases hkeep
  ext := by
    intro a b hcolumns hrest
    cases a
    cases b
    cases hrest
    simpa [Column.always, Column.optional] using hcolumns
  required := by simp [schema]
  recovered := by
    simp only [List.forall_mem_cons]
    exact ⟨Column.recovered_always recovers_string ⟨.text "", rfl⟩,
      Column.recovered_optional recovers_string string_null rfl,
      Column.recovered_optional Resource.recovers_instant Resource.decodeInstant_null rfl,
      Column.recovered_optional recovers_string string_null rfl, by simp⟩

theorem Properties.toJson_eq_format : Properties.toJson = Properties.format.toJson := by
  funext p
  rw [toJson_eq]
  simp [Format.toJson, Format.entries, format, Column.always, Column.optional, entries, schema,
    Column.field]

theorem Properties.recovers : Recovers Properties.schema.decode Properties.toJson :=
  toJson_eq_format ▸ Properties.format.recovers

/-- The format of a document. -/
def Document.format : Format Document where
  schema := schema
  columns :=
    [.always "id" string (fun v d => { d with id := v }) (·.id) .text,
     .always "type" string (fun v d => { d with kind := v }) (·.kind) .text,
     .always "properties" Properties.schema.decode (fun v d => { d with properties := v })
      (·.properties) Properties.toJson,
     .optional "bbox" BoundingBox.decode (fun v d => { d with bbox := v }) (·.bbox)
      BoundingBox.toJson,
     .always "features" (list Resource.schema.decode) (fun v d => { d with features := v })
      (·.features) (fun rs => .array (rs.map Resource.toJson))]
  rest := Function.const _ []
  fields_eq := rfl
  nodup := by decide
  get_put := by simp [Column.always, Column.optional]
  get_put_of_ne := by simp [Column.always, Column.optional]
  rest_put := fun _ _ _ _ => rfl
  rest_start := rfl
  get_keep := by
    intro keep hkeep
    cases hkeep
  rest_keep := by
    intro keep hkeep
    cases hkeep
  rest_eq_nil := fun _ _ => rfl
  ext := by
    intro a b hcolumns _
    cases a
    cases b
    simpa [Column.always, Column.optional] using hcolumns
  required := by simp [Column.always, schema]
  recovered := by
    simp only [List.forall_mem_cons]
    exact ⟨Column.recovered_always recovers_string ⟨.text "", rfl⟩,
      Column.recovered_always recovers_string ⟨.text "", rfl⟩,
      Column.recovered_always Properties.recovers ⟨.object [] none, rfl⟩,
      Column.recovered_optional BoundingBox.recovers BoundingBox.decode_null rfl,
      Column.recovered_always Resource.recovers.list ⟨.array [] .closed, rfl⟩, by simp⟩

theorem Document.toJson_eq_format : Document.toJson = Document.format.toJson := by
  funext d
  rw [toJson_eq]
  simp [Format.toJson, Format.entries, format, Column.always, Column.optional, entries, schema,
    Column.field]

theorem Document.recovers : Recovers Document.schema.decode Document.toJson :=
  toJson_eq_format ▸ Document.format.recovers

/-! ### Members that stand for no field -/

/-- The members of properties that stand for no field, and those of each offering. -/
def unknownOfProperties (v : Value) : Members × List Members :=
  (Resource.Properties.schema.unknown v,
    (Resource.Properties.schema.part "offerings" v).items.map Offering.schema.unknown)

/-- The members of a document that stand for no field: those of its metadata, and those of the
properties of each resource. -/
def unknownOfDocument (v : Value) : Members × List (Members × List Members) :=
  (Properties.schema.unknown (Document.schema.part "properties" v),
    (Document.schema.part "features" v).items.map fun r =>
      unknownOfProperties (Resource.schema.part "properties" r))

/-- The members of properties and offerings that are kept. -/
def keptOfProperties (p : Resource.Properties) : Members × List Members :=
  (p.extension, p.offerings.map (·.extension))

/-- The members of metadata, properties and offerings that are kept. -/
def keptOfDocument (d : Document) : Members × List (Members × List Members) :=
  (d.properties.extension, d.features.map fun r => keptOfProperties r.properties)

/-- What is read from the items of an array corresponds to them one by one. -/
theorem map_items_of_list {α β : Type} {d : Decoder α} {v : Value} {as : List α}
    {f : Value → β} {g : α → β} (h : list d v.toTree = .ok as)
    (hitem : ∀ w ∈ v.items, ∀ a, d w.toTree = .ok a → f w = g a) : v.items.map f = as.map g := by
  cases v with
  | array vs =>
      rw [Value.toTree_array] at h
      obtain ⟨bs, hbs, h⟩ := bind_eq_ok_iff.mp h
      cases h
      have hread := List.forall₂_map_left_iff.mp (forall₂_of_mapM hbs)
      rw [Value.items] at hitem ⊢
      clear h hbs
      induction hread with
      | nil => rfl
      | cons hfirst _ ih =>
          obtain ⟨hitem₁, hitem⟩ := List.forall_mem_cons.mp hitem
          rw [List.map_cons, List.map_cons, hitem₁ _ hfirst, ih hitem]
  | _ => exact absurd h (Tree.refuse_ne_ok _ _ as)

variable {v : Value}

theorem unknownOfProperties_of_decode {p : Resource.Properties} (hv : v.Sorted)
    (h : Resource.Properties.schema.decode v.toTree = .ok p) :
    unknownOfProperties v = keptOfProperties p := by
  have hunknown : Resource.Properties.schema.unknown v = p.extension :=
    Resource.Properties.format.unknown_of_decode rfl hv h
  have hofferings : list Offering.schema.decode
        (Resource.Properties.schema.part "offerings" v).toTree = .ok p.offerings ∨
      (Resource.Properties.schema.part "offerings" v = .null ∧ p.offerings = []) :=
    Format.part_of_decode (c := Resource.Properties.format.columns[5]) (List.getElem_mem _) hv h
  rw [unknownOfProperties, keptOfProperties, hunknown]
  congr 1
  rcases hofferings with hread | ⟨hnull, hnone⟩
  · apply map_items_of_list hread
    intro w hw o ho
    have hsorted := Value.sorted_of_mem_items (Schema.sorted_part hv "offerings") w hw
    exact Offering.format.unknown_of_decode rfl hsorted ho
  · rw [hnull, hnone]
    rfl

/-- The members that stand for no field are kept as they are. -/
theorem unknownOfDocument_of_decode {d : Document} (hv : v.Sorted)
    (h : Document.schema.decode v.toTree = .ok d) : unknownOfDocument v = keptOfDocument d := by
  have hproperties : Properties.schema.decode (Document.schema.part "properties" v).toTree =
        .ok d.properties ∨
      (Document.schema.part "properties" v = .null ∧ d.properties = {}) :=
    Format.part_of_decode (c := Document.format.columns[2]) (List.getElem_mem _) hv h
  have hfeatures : list Resource.schema.decode (Document.schema.part "features" v).toTree =
        .ok d.features ∨
      (Document.schema.part "features" v = .null ∧ d.features = []) :=
    Format.part_of_decode (c := Document.format.columns[4]) (List.getElem_mem _) hv h
  rw [unknownOfDocument, keptOfDocument]
  congr 1
  · rcases hproperties with hread | ⟨hnull, hnone⟩
    · exact Properties.format.unknown_of_decode rfl (Schema.sorted_part hv "properties") hread
    · rw [hnull, hnone]
      rfl
  · rcases hfeatures with hread | ⟨hnull, hnone⟩
    · apply map_items_of_list hread
      intro w hw r hr
      have hsorted := Value.sorted_of_mem_items (Schema.sorted_part hv "features") w hw
      have hpart : Resource.Properties.schema.decode
            (Resource.schema.part "properties" w).toTree = .ok r.properties ∨
          (Resource.schema.part "properties" w = .null ∧
            r.properties = { folder := .root 0 }) :=
        Format.part_of_decode (c := Resource.format.columns[2]) (List.getElem_mem _) hsorted hr
      rcases hpart with hpart | ⟨hnull, hnone⟩
      · exact unknownOfProperties_of_decode (Schema.sorted_part hsorted "properties") hpart
      · rw [hnull, hnone]
        rfl
    · rw [hnull, hnone]
      rfl

theorem items_listValue {α : Type} (toJson : α → Value) (as : List α) :
    ((listValue toJson as).getD .null).items = as.map toJson := by
  cases as with
  | nil => rfl
  | cons a as => rfl

/-- The members that are kept of an offering are written. -/
theorem unknown_offering_toJson {t : Tree} {o : Offering} (h : Offering.schema.decode t = .ok o) :
    Offering.schema.unknown o.toJson = o.extension := by
  obtain ⟨-, -, hunknown⟩ := Offering.format.obtained_of_decode h
  rw [Offering.toJson_eq_format]
  exact Offering.format.unknown_toJson hunknown

theorem unknownOfProperties_toJson {t : Tree} {p : Resource.Properties}
    (h : Resource.Properties.schema.decode t = .ok p) :
    unknownOfProperties p.toJson = keptOfProperties p := by
  obtain ⟨hobtained, -, hunknown⟩ := Resource.Properties.format.obtained_of_decode h
  have hofferings : ∀ o ∈ p.offerings, ∃ u, Offering.schema.decode u = .ok o := by
    obtain ⟨u, hu⟩ := (hobtained Resource.Properties.format.columns[5]
      (List.getElem_mem _)).exists_decoder ⟨.array [] .closed, rfl⟩
    exact mem_of_list hu
  have hpart : Resource.Properties.schema.part "offerings" p.toJson =
      (listValue Offering.toJson p.offerings).getD .null := by
    rw [Resource.Properties.toJson_eq_format]
    exact Format.part_toJson (c := Resource.Properties.format.columns[5]) hunknown
      (List.getElem_mem _)
  have hmembers : Resource.Properties.schema.unknown p.toJson = p.extension := by
    rw [Resource.Properties.toJson_eq_format]
    exact Resource.Properties.format.unknown_toJson hunknown
  rw [unknownOfProperties, keptOfProperties, hmembers, hpart, items_listValue, List.map_map]
  congr 1
  apply List.map_congr_left
  intro o ho
  obtain ⟨u, hu⟩ := hofferings o ho
  exact unknown_offering_toJson hu

/-- The members that are kept are written. -/
theorem unknownOfDocument_toJson {t : Tree} {d : Document} (h : Document.schema.decode t = .ok d) :
    unknownOfDocument d.toJson = keptOfDocument d := by
  obtain ⟨hobtained, -, hunknown⟩ := Document.format.obtained_of_decode h
  obtain ⟨u, hu⟩ := (hobtained Document.format.columns[4] (List.getElem_mem _)).exists_decoder
    ⟨.array [] .closed, rfl⟩
  have hfeatures : ∀ r ∈ d.features, ∃ u, Resource.schema.decode u = .ok r := mem_of_list hu
  have hproperties : Document.schema.part "properties" d.toJson = d.properties.toJson := by
    rw [Document.toJson_eq_format]
    exact Format.part_toJson (c := Document.format.columns[2]) hunknown (List.getElem_mem _)
  have hitems : Document.schema.part "features" d.toJson =
      .array (d.features.map Resource.toJson) := by
    rw [Document.toJson_eq_format]
    exact Format.part_toJson (c := Document.format.columns[4]) hunknown (List.getElem_mem _)
  have hmembers : Properties.schema.unknown d.properties.toJson = d.properties.extension := by
    rw [Properties.toJson_eq_format]
    exact Properties.format.unknown_toJson (Document.proper_of_decode h).2.unknown
  rw [unknownOfDocument, keptOfDocument, hproperties, hitems, hmembers, Value.items, List.map_map]
  congr 1
  apply List.map_congr_left
  intro r hr
  obtain ⟨u, hu⟩ := hfeatures r hr
  obtain ⟨hobtained, -, hunknown⟩ := Resource.format.obtained_of_decode hu
  have hpart : Resource.schema.part "properties" r.toJson = r.properties.toJson := by
    rw [Resource.toJson_eq_format]
    exact Format.part_toJson (c := Resource.format.columns[2]) hunknown (List.getElem_mem _)
  obtain ⟨u, hu⟩ := (hobtained Resource.format.columns[2] (List.getElem_mem _)).exists_decoder
    ⟨.object [(some "folder", .text "/0")] none, rfl⟩
  rw [Function.comp_apply, hpart]
  exact unknownOfProperties_toJson hu

/-! ### Loading a context from its own document -/

theorem get?_put (ms : Members) (key : String) (value : Value) (key' : String) :
    (ms.put key value).get? key' = if key' = key then some value else ms.get? key' := by
  simp only [Members.get?]
  induction ms with
  | nil =>
      rw [Members.put]
      by_cases h : key' = key
      · rw [if_pos h, h, List.lookup_cons_self]
      · rw [if_neg h, lookup_cons_of_ne h]
  | cons m ms ih =>
      obtain ⟨k, v⟩ := m
      simp only [Members.put]
      split
      · by_cases h : key' = key
        · rw [if_pos h, h, List.lookup_cons_self]
        · rw [if_neg h, lookup_cons_of_ne h]
      · split
        · next heq =>
            subst heq
            by_cases h : key' = key
            · rw [if_pos h, h, List.lookup_cons_self]
            · rw [if_neg h, lookup_cons_of_ne h, lookup_cons_of_ne h]
        · next hne =>
            by_cases hk : key' = k
            · rw [hk, List.lookup_cons_self, if_neg (Ne.symm hne), List.lookup_cons_self]
            · rw [lookup_cons_of_ne hk, lookup_cons_of_ne hk, ih]

variable {c : Context}

theorem extension_toDocument_of_some {v : Value}
    (h : c.properties.extension.get? "profile" = some v) :
    c.toDocument.properties.extension = c.properties.extension := by
  simp only [toDocument, h]

theorem extension_toDocument_of_none (h : c.properties.extension.get? "profile" = none) :
    c.toDocument.properties.extension = c.properties.extension.put "profile" (.text profile) := by
  simp only [toDocument, h]

/-- A document announces a profile, the one of the context if it has one. Its other members are
those of the context. -/
theorem get?_extension_toDocument (c : Context) (key : String) :
    c.toDocument.properties.extension.get? key =
      if key = "profile" then some ((c.properties.extension.get? key).getD (.text profile))
      else c.properties.extension.get? key := by
  cases h : c.properties.extension.get? "profile" with
  | some v =>
      rw [extension_toDocument_of_some h]
      split
      · next hkey => rw [hkey, h, Option.getD_some]
      · rfl
  | none =>
      rw [extension_toDocument_of_none h, get?_put]
      split
      · next hkey => rw [hkey, h, Option.getD_none]
      · rfl

theorem toDocument_of_some {v : Value} (h : c.properties.extension.get? "profile" = some v) :
    c.toDocument = ⟨c.id, documentKind, c.properties, extent? c.features, c.features⟩ := by
  simp only [toDocument, h]

theorem sorted_extension_toDocument (h : c.properties.extension.Sorted) :
    c.toDocument.properties.extension.Sorted := by
  cases hprofile : c.properties.extension.get? "profile" with
  | some v => rwa [extension_toDocument_of_some hprofile]
  | none =>
      rw [extension_toDocument_of_none hprofile]
      exact h.put "profile" (.text profile)

theorem isFinite_of_decode_resource {t : Tree} {r : Resource}
    (h : Resource.schema.decode t = .ok r) : ∀ b ∈ r.bbox, ∀ x ∈ b.edges, x.isFinite = true := by
  intro b hb
  apply BoundingBox.exists_decode_iff.mp
  obtain ⟨hobtained, -⟩ := Resource.format.obtained_of_decode h
  rcases hobtained Resource.format.columns[3] (List.getElem_mem _) with hnone | ⟨u, hu⟩
  · have hnone' : r.bbox = none := hnone
    rw [hnone'] at hb
    cases hb
  · exact ⟨u, mem_of_optional hu b hb⟩

/-- The metadata of the document of a context can be read if that of the context was read. -/
theorem decode_properties_toDocument {t : Tree}
    (h : Properties.schema.decode t = .ok c.properties) :
    Properties.schema.decode c.toDocument.properties.toJson.toTree =
      .ok c.toDocument.properties := by
  obtain ⟨hobtained, hsorted, hunknown⟩ := Properties.format.obtained_of_decode h
  have hsame : ∀ column ∈ Properties.format.columns,
      column.get c.toDocument.properties = column.get c.properties := by
    simp only [Properties.format, List.forall_mem_cons]
    exact ⟨rfl, rfl, rfl, rfl, by simp⟩
  rw [Properties.toJson_eq_format]
  apply Properties.format.decode_toJson
  · intro column hcolumn
    rw [hsame column hcolumn]
    exact hobtained column hcolumn
  · exact sorted_extension_toDocument hsorted
  · exact (forall_mem_extension_toDocument (by decide)).mpr hunknown

/-- A context that was loaded has the metadata and the resources of its document. -/
theorem loaded_of_ofDocument {d : Document} (h : ofDocument d = .ok c) :
    c.properties = d.properties ∧ c.features = d.features := by
  obtain ⟨-, -, -, rfl⟩ := ofDocument_eq_ok_iff.mp h
  exact ⟨rfl, rfl⟩

/-- The document of a context that was loaded can be read. -/
theorem decode_toDocument {t : Tree} {d : Document} (h : Document.schema.decode t = .ok d)
    (hc : ofDocument d = .ok c) :
    Document.schema.decode c.toDocument.toJson.toTree = .ok c.toDocument := by
  obtain ⟨hproperties, hfeatures⟩ := loaded_of_ofDocument hc
  obtain ⟨hobtained, -⟩ := Document.format.obtained_of_decode h
  obtain ⟨u, hu⟩ : ∃ u, Properties.schema.decode u = .ok c.properties := by
    rw [hproperties]
    exact (hobtained Document.format.columns[2] (List.getElem_mem _)).exists_decoder
      ⟨.object [] none, rfl⟩
  obtain ⟨w, hw⟩ : ∃ w, list Resource.schema.decode w = .ok c.features := by
    rw [hfeatures]
    exact (hobtained Document.format.columns[4] (List.getElem_mem _)).exists_decoder
      ⟨.array [] .closed, rfl⟩
  have hextent : ∀ b ∈ extent? c.features, ∃ t, BoundingBox.decode t = .ok b := by
    intro b hb
    apply BoundingBox.exists_decode_iff.mpr
    refine edges_extent? (fun r hr => ?_) b hb
    obtain ⟨u, hu⟩ := mem_of_list hw r hr
    exact isFinite_of_decode_resource hu
  have hbbox : ∃ t, Json.optional BoundingBox.decode t = .ok (extent? c.features) := by
    cases hb : extent? c.features with
    | none => exact ⟨.null, rfl⟩
    | some b =>
        obtain ⟨t, ht⟩ := hextent b hb
        exact ⟨t, optional_of_ok BoundingBox.decode_null ht⟩
  have hmetadata := decode_properties_toDocument hu
  rw [Document.toJson_eq_format]
  apply Document.format.decode_toJson
  · simp only [Document.format, List.forall_mem_cons]
    exact ⟨.inr ⟨.text c.id, rfl⟩, .inr ⟨.text documentKind, rfl⟩,
      .inr ⟨c.toDocument.properties.toJson.toTree, hmetadata⟩,
      .inr hbbox, .inr ⟨w, hw⟩, by simp⟩
  · exact ⟨by simp [Document.format, Members.Ascending], by simp [Document.format]⟩
  · simp [Document.format]

/-- Whatever value a document is read from, it is recovered from what is written for it. Members
that stand for no field are written back as they were met, in a value that is sorted as all values
in memory are. If a context can be loaded from the document, then its own document can be read, and
the context is loaded from it again, only that now it announces a profile, if it did not before. Its
document stays the same. -/
theorem document_recovers (v : Value) (d : Document) (h : Document.schema.decode v.toTree = .ok d) :
    Document.schema.decode d.toJson.toTree = .ok d ∧
      (v.Sorted → unknownOfDocument d.toJson = unknownOfDocument v) ∧
      ∀ c, ofDocument d = .ok c →
        Document.schema.decode c.toDocument.toJson.toTree = .ok c.toDocument ∧
        ∃ c', ofDocument c.toDocument = .ok c' ∧ c'.id = c.id ∧ c'.features = c.features ∧
          { c'.properties with extension := c.properties.extension } = c.properties ∧
          (∀ key, c'.properties.extension.get? key =
            if key = "profile" then
              some ((c.properties.extension.get? key).getD (.text profile))
            else c.properties.extension.get? key) ∧
          c'.toDocument = c.toDocument := by
  refine ⟨Document.recovers v.toTree d h, fun hv => ?_, fun c hc => ?_⟩
  · rw [unknownOfDocument_toJson h, unknownOfDocument_of_decode hv h]
  · refine ⟨decode_toDocument h hc, ?_⟩
    obtain ⟨-, hkinds, hvalid, -⟩ := ofDocument_eq_ok_iff.mp hc
    rw [← (loaded_of_ofDocument hc).2] at hkinds hvalid
    refine ⟨_, (ofDocument_toDocument_eq_ok_iff hvalid).mpr ⟨hkinds, rfl⟩, rfl, rfl, rfl,
      get?_extension_toDocument c, ?_⟩
    have hprofile := get?_extension_toDocument c "profile"
    rw [if_pos rfl] at hprofile
    rw [toDocument_of_some hprofile]
    rfl

/-- An offering of roads with a member that stands for no field. Its request is an array. -/
def roadsOffering : Value :=
  .object [("code", .text "roads"),
    ("operations", .array [.array [.text "GetMap", .text "GET", .text "a:b"]]),
    ("scale", .number (.integer 5))]

/-- A document of roads with members that stand for no field. -/
def roadsDocument : Value :=
  .object [
    ("features", .array [.object [("geometry", .null), ("id", .text "roads"),
      ("properties", .object [("folder", .text "/0"), ("note", .null),
        ("offerings", .array [roadsOffering])]),
      ("type", .text "Feature")]]),
    ("id", .text "map"),
    ("properties", .object [("author", .text "me"), ("title", .text "Map")]),
    ("type", .text "FeatureCollection")]

/-- The document as it is read. -/
def readRoads : Document :=
  { id := "map"
    kind := documentKind
    properties := { title := "Map", extension := [("author", .text "me")] }
    bbox := none
    features :=
      [{ id := "roads"
         properties :=
          { folder := .root 0
            offerings :=
              [⟨"roads", [.get "GetMap" "a:b" none], [("scale", .number (.integer 5))]⟩]
            extension := [("note", .null)] } }] }

/-- The document of the roads is recovered with all its members, and its context announces a profile
once it is loaded again. -/
theorem roadsDocument_recovers :
    roadsDocument.Sorted ∧
      Document.schema.decode readRoads.toJson.toTree = .ok readRoads ∧
      unknownOfDocument readRoads.toJson =
        ([("author", .text "me")], [([("note", .null)], [[("scale", .number (.integer 5))]])]) ∧
      ∃ c c', ofDocument readRoads = .ok c ∧ c.properties.extension.get? "profile" = none ∧
        ofDocument c.toDocument = .ok c' ∧
        c'.properties.extension.get? "profile" = some (.text profile) ∧
        c'.toDocument = c.toDocument := by
  have hread : Document.schema.decode roadsDocument.toTree = .ok readRoads := by rfl
  have hsorted : roadsDocument.Sorted := Tree.sorted_of_value roadsDocument.toTree rfl
  have hload : ofDocument readRoads = .ok { { Context.empty "map" with
      features := readRoads.features }.refreshCrs with properties := readRoads.properties } := by
    rfl
  obtain ⟨hrecovers, hunknown, hcontext⟩ := document_recovers roadsDocument readRoads hread
  obtain ⟨-, c', hload', -, -, -, hextension, hsame⟩ := hcontext _ hload
  refine ⟨hsorted, hrecovers, hunknown hsorted, _, c', hload, rfl, hload', ?_, hsame⟩
  rw [hextension "profile", if_pos rfl]
  rfl

end Context

end MapContext
