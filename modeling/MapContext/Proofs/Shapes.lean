import MapContext.Geometry
import MapContext.Proofs.Json.Records

/-!
# Extents and shapes that are read back

A bounding box and a geometry are read back from their texts exactly if each of their numbers is
finite and read back as itself.
-/

namespace MapContext

namespace Json

/-- A floating-point number that is finite and read back from its text as itself. -/
def DurableFloat (x : Float) : Prop :=
  ∃ h : x.isFinite = true, (Number.float ⟨x, h⟩).Durable

variable {x : Float} {room : Nat}

theorem float_reread_eq_ok_iff (x : Float) (room : Nat) :
    float ((Value.ofFloat x).reread room) = .ok x ↔ DurableFloat x := by
  by_cases hfinite : x.isFinite = true
  · have hvalue : (Value.ofFloat x).reread room = (Number.float ⟨x, hfinite⟩).reread := by
      simp [Value.ofFloat, hfinite, Value.reread]
    have hdurable : DurableFloat x ↔
        (Number.float ⟨x, hfinite⟩).reread = .number (.float ⟨x, hfinite⟩) := by
      constructor
      · rintro ⟨_, h⟩
        exact h
      · intro h
        exact ⟨hfinite, h⟩
    rw [hvalue, hdurable]
    rcases Number.reread_float_cases ⟨x, hfinite⟩ with ⟨y, hy⟩ | hblocked
    · rw [hy]
      constructor
      · intro h
        cases h
        rfl
      · intro h
        cases h
        rfl
    · rw [hblocked]
      constructor
      · intro h
        cases h
      · intro h
        cases h
  · have hvalue : (Value.ofFloat x).reread room = .null := by
      simp [Value.ofFloat, hfinite, Value.reread]
    rw [hvalue]
    constructor
    · intro h
      cases h
    · rintro ⟨h, -⟩
      exact absurd h hfinite

/-- Only a finite number is read back as a number. -/
theorem isFinite_of_float_reread {y : Float} (h : float ((Value.ofFloat x).reread room) = .ok y) :
    x.isFinite = true := by
  by_cases hfinite : x.isFinite = true
  · exact hfinite
  · have hvalue : (Value.ofFloat x).reread room = .null := by
      simp [Value.ofFloat, hfinite, Value.reread]
    rw [hvalue] at h
    cases h

theorem DurableFloat.fits (h : DurableFloat x) (room : Nat) :
    (Value.ofFloat x).Fits Number.Legible room := by
  obtain ⟨hfinite, hdurable⟩ := h
  simp [Value.ofFloat, hfinite, hdurable.legible]

theorem array_reread {α : Type} (toJson : α → Value) (as : List α) (hroom : 1 < room) :
    (Value.array (as.map toJson)).reread room =
      .array (as.map fun a => (toJson a).reread (room - 1)) .closed := by
  rw [Value.reread, nested, if_neg (by omega), Value.rereadItems_eq_map, List.map_map]
  rfl

section Fixed

variable {α : Type} {d : Decoder α} {n : Nat} {items : List Tree}

theorem fixed_of_length (h : items.length = n) :
    fixed n d (.array items .closed) = items.mapM d := by
  have htake : items.take n = items := List.take_of_length_le (by omega)
  have hdrop : items.drop n = [] := List.drop_of_length_le (by omega)
  rw [fixed, htake, hdrop]
  cases hread : items.mapM d with
  | error e => rfl
  | ok values =>
      have hlength := length_of_mapM hread
      rw [ok_bind, if_neg (by omega)]
      rfl

theorem buffered_of_length (h : items.length = n) :
    buffered n d (.array items .closed) = items.mapM d := by
  have htake : items.take n = items := List.take_of_length_le (by omega)
  rw [buffered, htake]
  cases hread : items.mapM d with
  | error e => rfl
  | ok values =>
      have hlength := length_of_mapM hread
      simp only [ok_bind, ListEnding.check]
      rw [if_neg (by omega), if_neg (by omega)]
      rfl

end Fixed

end Json

open Json

/-! ### Bounding boxes -/

namespace BoundingBox

/-- The edges of a box in the order in which they are written. -/
def edges (b : BoundingBox) : List Float := [b.minX, b.minY, b.maxX, b.maxY]

theorem toJson_eq (b : BoundingBox) : b.toJson = .array (b.edges.map Value.ofFloat) := rfl

/-- All edges are read back as themselves. -/
def Durable (b : BoundingBox) : Prop := ∀ x ∈ b.edges, DurableFloat x

theorem durable_iff {b : BoundingBox} :
    b.Durable ↔ DurableFloat b.minX ∧ DurableFloat b.minY ∧ DurableFloat b.maxX ∧
      DurableFloat b.maxY := by
  simp [Durable, edges]

theorem decode_reread_eq_ok_iff (b : BoundingBox) {room : Nat} (hroom : 1 < room) :
    decode (b.toJson.reread room) = .ok b ↔ b.Durable := by
  have hedges : (b.edges.map fun x => (Value.ofFloat x).reread (room - 1)).mapM float =
      .ok b.edges ↔ b.Durable := by
    rw [mapM_eq_ok_iff]
    exact forall₂_congr fun x _ => float_reread_eq_ok_iff x (room - 1)
  have hlength : (b.edges.map fun x => (Value.ofFloat x).reread (room - 1)).length = 4 := rfl
  rw [← hedges, toJson_eq, array_reread Value.ofFloat _ hroom, decode, fixed_of_length hlength,
    bind_eq_ok_iff]
  constructor
  · rintro ⟨values, hvalues, h⟩
    split at h
    · cases h
      exact hvalues
    · cases h
  · intro h
    exact ⟨b.edges, h, rfl⟩

/-- Only a box with finite edges is read back as a box. -/
theorem isFinite_of_decode_reread {b b' : BoundingBox} {room : Nat} (hroom : 1 < room)
    (h : decode (b.toJson.reread room) = .ok b') : ∀ x ∈ b.edges, x.isFinite = true := by
  have hlength : (b.edges.map fun x => (Value.ofFloat x).reread (room - 1)).length = 4 := rfl
  rw [toJson_eq, array_reread Value.ofFloat _ hroom, decode, fixed_of_length hlength,
    bind_eq_ok_iff] at h
  obtain ⟨values, hvalues, -⟩ := h
  have hread := exists_mapM_eq_ok_iff.mp ⟨values, hvalues⟩
  intro x hx
  obtain ⟨y, hy⟩ := hread _ (List.mem_map_of_mem hx)
  exact isFinite_of_float_reread hy

end BoundingBox

/-! ### Geometries -/

namespace Geometry

/-- Both coordinates are read back as themselves. -/
def DurablePoint (p : Point) : Prop := DurableFloat p.1 ∧ DurableFloat p.2

/-- All coordinates are read back as themselves. -/
def Durable : Geometry → Prop
  | .point p => DurablePoint p
  | .line ps => ∀ p ∈ ps, DurablePoint p
  | .polygon rings => ∀ ps ∈ rings, ∀ p ∈ ps, DurablePoint p

/-- The polygon that covers a box is read back if the box is. -/
theorem durable_ofBox {b : BoundingBox} (h : b.Durable) : (ofBox b).Durable := by
  obtain ⟨hminX, hminY, hmaxX, hmaxY⟩ := BoundingBox.durable_iff.mp h
  intro ps hps p hp
  rw [List.mem_singleton.mp hps] at hp
  simp only [BoundingBox.ring, List.mem_cons, List.not_mem_nil, or_false] at hp
  rcases hp with rfl | rfl | rfl | rfl | rfl
  · exact ⟨hminX, hminY⟩
  · exact ⟨hmaxX, hminY⟩
  · exact ⟨hmaxX, hmaxY⟩
  · exact ⟨hminX, hmaxY⟩
  · exact ⟨hminX, hminY⟩

theorem decodePoint_reread_eq_ok_iff (p : Point) {room : Nat} (hroom : 1 < room) :
    decodePoint ((pointJson p).reread room) = .ok p ↔ DurablePoint p := by
  have hnumbers : ([p.1, p.2].map fun x => (Value.ofFloat x).reread (room - 1)).mapM float
      = .ok [p.1, p.2] ↔ DurablePoint p := by
    rw [mapM_eq_ok_iff]
    simp [float_reread_eq_ok_iff, DurablePoint]
  have hjson : pointJson p = .array ([p.1, p.2].map Value.ofFloat) := rfl
  have hlength : ([p.1, p.2].map fun x => (Value.ofFloat x).reread (room - 1)).length = 2 := rfl
  rw [← hnumbers, hjson, array_reread Value.ofFloat _ hroom, decodePoint,
    buffered_of_length hlength, bind_eq_ok_iff]
  constructor
  · rintro ⟨values, hvalues, h⟩
    split at h
    · cases h
      exact hvalues
    · cases h
  · intro h
    exact ⟨[p.1, p.2], h, rfl⟩

theorem decodePoints_reread_eq_ok_iff (ps : List Point) {room : Nat} (hroom : 2 < room) :
    list decodePoint ((pointsJson ps).reread room) = .ok ps ↔ ∀ p ∈ ps, DurablePoint p := by
  rw [pointsJson, list_reread pointJson ps (by omega), readList_eq_ok_iff]
  exact forall₂_congr fun p _ => decodePoint_reread_eq_ok_iff p (by omega)

theorem decodeRings_reread_eq_ok_iff (rings : List (List Point)) {room : Nat} (hroom : 3 < room) :
    list (list decodePoint) ((Value.array (rings.map pointsJson)).reread room) = .ok rings ↔
      ∀ ps ∈ rings, ∀ p ∈ ps, DurablePoint p := by
  rw [list_reread pointsJson rings (by omega), readList_eq_ok_iff]
  exact forall₂_congr fun ps _ => decodePoints_reread_eq_ok_iff ps (by omega)

theorem DurablePoint.fits {p : Point} (h : DurablePoint p) {room : Nat} (hroom : 1 < room) :
    (pointJson p).Fits Number.Legible room := by
  simp [pointJson, hroom, h.1.fits, h.2.fits]

theorem fits_pointsJson {ps : List Point} (h : ∀ p ∈ ps, DurablePoint p) {room : Nat}
    (hroom : 2 < room) : (pointsJson ps).Fits Number.Legible room := by
  rw [pointsJson, Value.fits_array, List.forall_mem_map]
  exact ⟨by omega, fun p hp => (h p hp).fits (by omega)⟩

/-- Coordinates that are read back can be kept until the shape is named. -/
theorem Durable.fits {g : Geometry} (h : g.Durable) {room : Nat} (hroom : 3 < room) :
    g.coordinates.Fits Number.Legible room := by
  cases g with
  | point p => exact DurablePoint.fits h (by omega)
  | line ps => exact fits_pointsJson h (by omega)
  | polygon rings =>
      rw [coordinates, Value.fits_array, List.forall_mem_map]
      exact ⟨by omega, fun ps hps => fits_pointsJson (h ps hps) (by omega)⟩

/-- The reader of coordinates that the name of a shape stands for. -/
def reader : Geometry → Decoder Geometry
  | .point _ => fun t => (decodePoint t).map .point
  | .line _ => fun t => (list decodePoint t).map .line
  | .polygon _ => fun t => (list (list decodePoint) t).map .polygon

theorem decodeKind_kind (g : Geometry) : decodeKind (.text g.kind) = .ok (g.kind, g.reader) := by
  cases g with
  | point p => rfl
  | line ps => rfl
  | polygon rings => rfl

theorem reader_reread_eq_ok_iff (g : Geometry) {room : Nat} (hroom : 3 < room) :
    g.reader (g.coordinates.reread room) = .ok g ↔ g.Durable := by
  cases g with
  | point p =>
      rw [reader, map_eq_ok_iff]
      simp only [Geometry.point.injEq, exists_eq_right]
      exact decodePoint_reread_eq_ok_iff p (by omega)
  | line ps =>
      rw [reader, map_eq_ok_iff]
      simp only [Geometry.line.injEq, exists_eq_right]
      exact decodePoints_reread_eq_ok_iff ps (by omega)
  | polygon rings =>
      rw [reader, map_eq_ok_iff]
      simp only [Geometry.polygon.injEq, exists_eq_right]
      exact decodeRings_reread_eq_ok_iff rings hroom

theorem decode_reread_eq_ok_iff (g : Geometry) {room : Nat} (hroom : 4 < room) :
    decode (g.toJson.reread room) = .ok g ↔ g.Durable := by
  have hobject : g.toJson.reread room = .object [(some "type", .text g.kind),
      (some "coordinates", g.coordinates.reread (room - 1))] none := by
    rw [toJson, Value.reread, nested, if_neg (by omega)]
    rfl
  have hread : readMembers ⟨none, []⟩ [(some "type", .text g.kind),
      (some "coordinates", g.coordinates.reread (room - 1))] =
      (g.coordinates.reread (room - 1)).value.map fun _ =>
        ⟨some (g.kind, g.reader), [g.coordinates.reread (room - 1)]⟩ := by
    rw [readMembers, if_pos rfl]
    simp only [decodeKind_kind, ok_bind, readMembers, keep]
    rw [if_neg (by decide), if_pos trivial]
    cases (g.coordinates.reread (room - 1)).value with
    | error e => rfl
    | ok v => rfl
  rw [hobject, decode, hread, bind_eq_ok_iff]
  simp only [map_eq_ok_iff]
  constructor
  · rintro ⟨_, ⟨_, -, rfl⟩, h⟩
    exact (reader_reread_eq_ok_iff g (by omega)).mp h
  · intro h
    obtain ⟨v, hv⟩ := (exists_value_reread_iff (room - 1)).mpr (h.fits (by omega))
    exact ⟨_, ⟨v, hv, rfl⟩, (reader_reread_eq_ok_iff g (by omega)).mpr h⟩

end Geometry

end MapContext
