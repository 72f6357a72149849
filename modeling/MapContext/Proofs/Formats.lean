import MapContext.Proofs.Json.Formats
import MapContext.Proofs.Resources

/-!
# The formats of resources

A resource is written with its extent, its shape and its properties, these with their services, and
those with their requests. None of these formats drifts.
-/

namespace MapContext

open Json

/-! ### Arrays of a fixed number of items -/

namespace Json

variable {β : Type} {d : Decoder β} {encode : β → Value} {n : Nat}

/-- What is read as an array of a fixed number of items. -/
theorem mem_of_fixed {t : Tree} {bs : List β} (h : fixed n d t = .ok bs) :
    bs.length = n ∧ ∀ b ∈ bs, ∃ u, d u = .ok b := by
  cases t with
  | array items ending =>
      obtain ⟨cs, hcs, h⟩ := bind_eq_ok_iff.mp h
      have hlength := length_of_mapM hcs
      rw [List.length_take] at hlength
      split at h
      · obtain ⟨_, -, h⟩ := bind_eq_ok_iff.mp h
        cases h
      · next hn =>
          obtain ⟨_, -, h⟩ := bind_eq_ok_iff.mp h
          cases h
          exact ⟨by omega, mem_of_mapM hcs⟩
  | _ => exact absurd h (Tree.refuse_ne_ok _ _ bs)

theorem mem_of_buffered {t : Tree} {bs : List β} (h : buffered n d t = .ok bs) :
    bs.length = n ∧ ∀ b ∈ bs, ∃ u, d u = .ok b := by
  cases t with
  | array items ending =>
      obtain ⟨cs, hcs, h⟩ := bind_eq_ok_iff.mp h
      have hlength := length_of_mapM hcs
      rw [List.length_take] at hlength
      obtain ⟨_, -, h⟩ := bind_eq_ok_iff.mp h
      split at h
      · cases h
      · split at h
        · cases h
        · cases h
          exact ⟨by omega, mem_of_mapM hcs⟩
  | _ => exact absurd h (Tree.refuse_ne_ok _ _ bs)

theorem Recovers.fixed (h : Recovers d encode) :
    Recovers (fixed n d) fun bs => .array (bs.map encode) := by
  intro t bs hbs
  obtain ⟨hlength, hmem⟩ := mem_of_fixed hbs
  rw [Value.toTree_array, List.map_map, fixed_of_length (by rw [List.length_map, hlength])]
  exact h.mapM hmem

theorem Recovers.buffered (h : Recovers d encode) :
    Recovers (buffered n d) fun bs => .array (bs.map encode) := by
  intro t bs hbs
  obtain ⟨hlength, hmem⟩ := mem_of_buffered hbs
  rw [Value.toTree_array, List.map_map, buffered_of_length (by rw [List.length_map, hlength])]
  exact h.mapM hmem

theorem string_null (s : String) : string .null ≠ .ok s := by
  intro h
  cases h

theorem float_null (x : Float) : float .null ≠ .ok x := by
  intro h
  cases h

end Json

/-! ### Extents and shapes -/

theorem BoundingBox.recovers : Recovers decode toJson := by
  intro t b h
  obtain ⟨edges, hedges, h⟩ := bind_eq_ok_iff.mp h
  split at h
  · cases h
    exact bind_eq_ok_iff.mpr ⟨_, recovers_float.fixed t _ hedges, rfl⟩
  · cases h

/-- Boxes with finite edges are those that can be read. -/
theorem BoundingBox.exists_decode_iff {b : BoundingBox} :
    (∃ t, decode t = .ok b) ↔ ∀ x ∈ b.edges, x.isFinite = true := by
  constructor
  · rintro ⟨t, h⟩
    obtain ⟨edges, hedges, h⟩ := bind_eq_ok_iff.mp h
    split at h
    · cases h
      intro x hx
      obtain ⟨u, hu⟩ := (mem_of_fixed hedges).2 x hx
      exact isFinite_of_float hu
    · cases h
  · intro h
    have hread : (b.edges.map fun x => (Value.ofFloat x).toTree).mapM float = .ok b.edges := by
      apply mapM_eq_ok_iff.mpr
      intro x hx
      rw [Value.ofFloat, dif_pos (h x hx)]
      rfl
    have hlength : (b.edges.map fun x => (Value.ofFloat x).toTree).length = 4 := rfl
    refine ⟨.array (b.edges.map fun x => (Value.ofFloat x).toTree) .closed, ?_⟩
    rw [decode, fixed_of_length hlength, hread]
    rfl

theorem BoundingBox.decode_null (b : BoundingBox) : decode .null ≠ .ok b := by
  intro h
  cases h

namespace Geometry

theorem recovers_point : Recovers decodePoint pointJson := by
  intro t p h
  obtain ⟨numbers, hnumbers, h⟩ := bind_eq_ok_iff.mp h
  split at h
  · cases h
    exact bind_eq_ok_iff.mpr ⟨_, recovers_float.buffered t _ hnumbers, rfl⟩
  · cases h

theorem recovers_points : Recovers (list decodePoint) pointsJson := recovers_point.list

theorem recovers_rings :
    Recovers (list (list decodePoint)) fun rings => .array (rings.map pointsJson) :=
  recovers_points.list

/-- What the reader of a named shape reads, the reader of its own shape reads. -/
theorem reader_of_decodeKind {t u : Tree} {named : String × Decoder Geometry} {g : Geometry}
    (h : decodeKind t = .ok named) (hg : named.2 u = .ok g) : g.reader u = .ok g := by
  cases t with
  | text name =>
      rw [decodeKind, variant] at h
      split at h
      · next found hfound =>
          obtain rfl := Except.ok.inj h
          obtain ⟨before, after, hsplit, -⟩ := List.lookup_eq_some_iff.mp hfound
          have hmem : (name, found) ∈ readers := by rw [hsplit]; simp
          simp only [readers, List.mem_cons, List.not_mem_nil, or_false, Prod.mk.injEq] at hmem
          rcases hmem with ⟨-, rfl⟩ | ⟨-, rfl⟩ | ⟨-, rfl⟩ <;>
            obtain ⟨_, hread, rfl⟩ := map_eq_ok_iff.mp hg <;>
            exact map_eq_ok_iff.mpr ⟨_, hread, rfl⟩
      · cases h
  | _ => exact absurd h (Tree.refuse_ne_ok _ _ named)

/-- The reader of a draft was named. -/
theorem decodeKind_of_readMembers {draft draft' : Draft} {ms : TreeMembers}
    (h : readMembers draft ms = .ok draft')
    (hdraft : ∀ named ∈ draft.reader, ∃ t, decodeKind t = .ok named) :
    ∀ named ∈ draft'.reader, ∃ t, decodeKind t = .ok named := by
  induction ms generalizing draft with
  | nil =>
      cases h
      exact hdraft
  | cons m ms ih =>
      obtain ⟨key, t⟩ := m
      cases key with
      | none => cases h
      | some key =>
          rw [readMembers] at h
          split at h
          · split at h
            · cases h
            · obtain ⟨named, hnamed, h⟩ := bind_eq_ok_iff.mp h
              apply ih h
              rintro _ ⟨⟩
              exact ⟨t, hnamed⟩
          · obtain ⟨_, -, h⟩ := bind_eq_ok_iff.mp h
            apply ih h
            split
            · exact hdraft
            · exact hdraft

/-- A shape that is read was read by its own reader. -/
theorem exists_reader_of_decode {t : Tree} {g : Geometry} (h : decode t = .ok g) :
    ∃ u, g.reader u = .ok g := by
  cases t with
  | object ms ending =>
      obtain ⟨draft, hdraft, h⟩ := bind_eq_ok_iff.mp h
      split at h
      · cases h
      · split at h
        · cases h
        · cases h
        · next name read u hreader hcoordinates =>
            obtain ⟨t, ht⟩ := decodeKind_of_readMembers hdraft (by simp) _ hreader
            exact ⟨u, reader_of_decodeKind ht h⟩
        · obtain ⟨_, -, h⟩ := bind_eq_ok_iff.mp h
          cases h
  | array items ending =>
      cases items with
      | nil =>
          obtain ⟨_, -, h⟩ := bind_eq_ok_iff.mp h
          cases h
      | cons t items =>
          obtain ⟨named, hnamed, h⟩ := bind_eq_ok_iff.mp h
          obtain ⟨_, -, h⟩ := bind_eq_ok_iff.mp h
          obtain ⟨_, -, h⟩ := bind_eq_ok_iff.mp h
          rcases items with _ | ⟨u, _ | ⟨_, _⟩⟩
          · cases h
          · exact ⟨u, reader_of_decodeKind hnamed h⟩
          · obtain ⟨_, -, h⟩ := bind_eq_ok_iff.mp h
            cases h
  | _ => exact absurd h (Tree.refuse_ne_ok _ _ g)

theorem recovers_coordinates {t : Tree} {g : Geometry} (h : g.reader t = .ok g) :
    g.reader g.coordinates.toTree = .ok g := by
  cases g with
  | point p =>
      obtain ⟨q, hq, heq⟩ := map_eq_ok_iff.mp h
      cases heq
      exact map_eq_ok_iff.mpr ⟨p, recovers_point t p hq, rfl⟩
  | line ps =>
      obtain ⟨qs, hqs, heq⟩ := map_eq_ok_iff.mp h
      cases heq
      exact map_eq_ok_iff.mpr ⟨ps, recovers_points t ps hqs, rfl⟩
  | polygon rings =>
      obtain ⟨qs, hqs, heq⟩ := map_eq_ok_iff.mp h
      cases heq
      exact map_eq_ok_iff.mpr ⟨rings, recovers_rings t rings hqs, rfl⟩

theorem sorted_ofFloat (x : Float) : (Value.ofFloat x).Sorted := by
  rw [Value.ofFloat]
  split
  · exact .number _
  · exact .null

theorem sorted_pointJson (p : Point) : (pointJson p).Sorted := by
  apply Value.Sorted.array
  simp [sorted_ofFloat]

theorem sorted_pointsJson (ps : List Point) : (pointsJson ps).Sorted :=
  .array (List.forall_mem_map.mpr fun p _ => sorted_pointJson p)

theorem sorted_coordinates (g : Geometry) : g.coordinates.Sorted := by
  cases g with
  | point p => exact sorted_pointJson p
  | line ps => exact sorted_pointsJson ps
  | polygon rings => exact .array (List.forall_mem_map.mpr fun ps _ => sorted_pointsJson ps)

theorem recovers : Recovers decode toJson := by
  intro t g h
  obtain ⟨u, hu⟩ := exists_reader_of_decode h
  have hread : readMembers ⟨none, []⟩ [(some "type", .text g.kind),
      (some "coordinates", g.coordinates.toTree)] =
      .ok ⟨some (g.kind, g.reader), [g.coordinates.toTree]⟩ := by
    rw [readMembers, if_pos rfl]
    simp only [decodeKind_kind, ok_bind, readMembers, keep,
      Value.value_toTree g.sorted_coordinates, map_ok]
    rw [if_neg (by decide), if_pos trivial]
    rfl
  have hobject : g.toJson.toTree = .object [(some "type", .text g.kind),
      (some "coordinates", g.coordinates.toTree)] none := rfl
  rw [hobject, decode, hread, ok_bind]
  exact recovers_coordinates hu

theorem decode_null (g : Geometry) : decode .null ≠ .ok g := by
  intro h
  cases h

end Geometry

/-! ### Requests and offerings -/

/-- The format of a request. -/
def Operation.format : Format Operation where
  schema := schema
  columns :=
    [.always "code" string (fun v o => { o with code := v }) (·.code) .text,
     .always "method" string (fun v o => { o with method := v }) (·.method) .text,
     .always "href" string (fun v o => { o with href := v }) (·.href) .text,
     .optional "type" string (fun v o => { o with mediaType := v }) (·.mediaType) .text]
  rest := Function.const _ []
  fields_eq := rfl
  nodup := by decide
  get_put := by simp [Column.always, Column.optional]
  get_put_of_ne := by simp [Column.always, Column.optional]
  rest_put := fun _ _ _ _ => rfl
  rest_start := rfl
  get_keep := by
    intro keep hkeep
    cases hkeep
  rest_keep := by
    intro keep hkeep
    cases hkeep
  rest_eq_nil := fun _ _ => rfl
  ext := by
    intro a b hcolumns _
    cases a
    cases b
    simpa [Column.always, Column.optional] using hcolumns
  required := by simp [Column.always, schema]
  recovered := by
    simp only [List.forall_mem_cons]
    exact ⟨Column.recovered_always recovers_string ⟨.text "", rfl⟩,
      Column.recovered_always recovers_string ⟨.text "", rfl⟩,
      Column.recovered_always recovers_string ⟨.text "", rfl⟩,
      Column.recovered_optional recovers_string string_null rfl, by simp⟩

theorem Operation.toJson_eq_format : Operation.toJson = Operation.format.toJson := by
  funext o
  rw [toJson_eq]
  simp [Format.toJson, Format.entries, format, Column.always, Column.optional, entries, schema,
    Column.field]

theorem Operation.recovers : Recovers Operation.schema.decode Operation.toJson :=
  toJson_eq_format ▸ Operation.format.recovers

/-- The format of an offering. -/
def Offering.format : Format Offering where
  schema := schema
  columns :=
    [.always "code" string (fun v o => { o with code := v }) (·.code) .text,
     .list "operations" Operation.schema.decode (fun v o => { o with operations := v })
      (·.operations) Operation.toJson]
  rest := (·.extension)
  fields_eq := rfl
  nodup := by decide
  get_put := by simp [Column.always, Column.list]
  get_put_of_ne := by simp [Column.always, Column.list]
  rest_put := by simp [Column.always, Column.list]
  rest_start := rfl
  get_keep := by simp [Column.always, Column.list, schema]
  rest_keep := by simp [schema]
  rest_eq_nil := by
    intro hkeep
    cases hkeep
  ext := by
    intro a b hcolumns hrest
    cases a
    cases b
    cases hrest
    simpa [Column.always, Column.list] using hcolumns
  required := by simp [Column.always, schema]
  recovered := by
    simp only [List.forall_mem_cons]
    exact ⟨Column.recovered_always recovers_string ⟨.text "", rfl⟩,
      Column.recovered_list Operation.recovers rfl, by simp⟩

theorem Offering.toJson_eq_format : Offering.toJson = Offering.format.toJson := by
  funext o
  rw [toJson_eq]
  simp [Format.toJson, Format.entries, format, Column.always, Column.list, entries, schema,
    Column.field]

theorem Offering.recovers : Recovers Offering.schema.decode Offering.toJson :=
  toJson_eq_format ▸ Offering.format.recovers

/-! ### Resources -/

namespace Resource

theorem recovers_folder : Recovers decodeFolder fun p => .text p.display := by
  intro t p h
  obtain ⟨text, -, h⟩ := bind_eq_ok_iff.mp h
  split at h
  · next q hread =>
      cases h
      exact decodeFolder_display_eq_ok_iff.mpr ⟨rfl, FolderPath.legible_of_read hread⟩
  · cases h

theorem recovers_instant : Recovers decodeInstant fun t => .text t.display := by
  intro t i h
  exact decodeInstant_display (valid_of_decodeInstant h)

theorem decodeInstant_null (i : Instant) : decodeInstant .null ≠ .ok i := by
  intro h
  cases h

/-- The format of properties. -/
def Properties.format : Format Properties where
  schema := schema
  columns :=
    [.always "folder" decodeFolder (fun v p => { p with folder := v }) (·.folder)
      (fun q => .text q.display),
     .always "title" string (fun v p => { p with title := v }) (·.title) .text,
     .always "active" boolean (fun v p => { p with active := v }) (·.active) .boolean,
     .optional "abstract" string (fun v p => { p with description := v }) (·.description) .text,
     .optional "updated" decodeInstant (fun v p => { p with updated := v }) (·.updated)
      (fun t => .text t.display),
     .list "offerings" Offering.schema.decode (fun v p => { p with offerings := v })
      (·.offerings) Offering.toJson,
     .optional "minscaledenominator" float (fun v p => { p with minScale := v }) (·.minScale)
      .ofFloat,
     .optional "maxscaledenominator" float (fun v p => { p with maxScale := v }) (·.maxScale)
      .ofFloat,
     .list "crs" string (fun v p => { p with crs := v }) (·.crs) .text]
  rest := (·.extension)
  fields_eq := rfl
  nodup := by decide
  get_put := by simp [Column.always, Column.optional, Column.list]
  get_put_of_ne := by simp [Column.always, Column.optional, Column.list]
  rest_put := by simp [Column.always, Column.optional, Column.list]
  rest_start := rfl
  get_keep := by simp [Column.always, Column.optional, Column.list, schema]
  rest_keep := by simp [schema]
  rest_eq_nil := by
    intro hkeep
    cases hkeep
  ext := by
    intro a b hcolumns hrest
    cases a
    cases b
    cases hrest
    simpa [Column.always, Column.optional, Column.list] using hcolumns
  required := by simp [Column.always, schema]
  recovered := by
    simp only [List.forall_mem_cons]
    exact ⟨Column.recovered_always recovers_folder ⟨.text "/0", by decide⟩,
      Column.recovered_always recovers_string ⟨.text "", rfl⟩,
      Column.recovered_always recovers_boolean ⟨.boolean false, rfl⟩,
      Column.recovered_optional recovers_string string_null rfl,
      Column.recovered_optional recovers_instant decodeInstant_null rfl,
      Column.recovered_list Offering.recovers rfl,
      Column.recovered_optional recovers_float float_null rfl,
      Column.recovered_optional recovers_float float_null rfl,
      Column.recovered_list recovers_string rfl, by simp⟩

theorem Properties.toJson_eq_format : Properties.toJson = Properties.format.toJson := by
  funext p
  rw [toJson_eq]
  simp [Format.toJson, Format.entries, Properties.format, Column.always, Column.optional,
    Column.list, entries, schema, Column.field]

theorem Properties.recovers : Recovers Properties.schema.decode Properties.toJson :=
  toJson_eq_format ▸ Properties.format.recovers

/-- The format of a resource. -/
def format : Format Resource where
  schema := schema
  columns :=
    [.always "type" string (fun v r => { r with kind := v }) (·.kind) .text,
     .always "id" string (fun v r => { r with id := v }) (·.id) .text,
     .always "properties" Properties.schema.decode (fun v r => { r with properties := v })
      (·.properties) Properties.toJson,
     .optional "bbox" BoundingBox.decode (fun v r => { r with bbox := v }) (·.bbox)
      BoundingBox.toJson,
     .nullable "geometry" Geometry.decode (fun v r => { r with geometry := v }) (·.geometry)
      Geometry.toJson]
  rest := Function.const _ []
  fields_eq := rfl
  nodup := by decide
  get_put := by simp [Column.always, Column.optional, Column.nullable]
  get_put_of_ne := by simp [Column.always, Column.optional, Column.nullable]
  rest_put := fun _ _ _ _ => rfl
  rest_start := rfl
  get_keep := by
    intro keep hkeep
    cases hkeep
  rest_keep := by
    intro keep hkeep
    cases hkeep
  rest_eq_nil := fun _ _ => rfl
  ext := by
    intro a b hcolumns _
    cases a
    cases b
    simpa [Column.always, Column.optional, Column.nullable] using hcolumns
  required := by simp [Column.always, schema]
  recovered := by
    simp only [List.forall_mem_cons]
    exact ⟨Column.recovered_always recovers_string ⟨.text "Feature", rfl⟩,
      Column.recovered_always recovers_string ⟨.text "", rfl⟩,
      Column.recovered_always Properties.recovers
        ⟨.object [(some "folder", .text "/0")] none, by rfl⟩,
      Column.recovered_optional BoundingBox.recovers BoundingBox.decode_null rfl,
      Column.recovered_nullable Geometry.recovers Geometry.decode_null rfl, by simp⟩

theorem toJson_eq_format : toJson = format.toJson := by
  funext r
  rw [toJson_eq_written]
  simp [Format.toJson, Format.entries, format, Column.always, Column.optional, Column.nullable,
    entries, schema, Column.field]

theorem recovers : Recovers schema.decode toJson :=
  toJson_eq_format ▸ format.recovers

end Resource

end MapContext
