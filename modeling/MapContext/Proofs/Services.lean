import MapContext.Proofs.Shapes
import MapContext.Resource.Json

/-!
# Offerings that are read back

A request is always read back from its text, and an offering exactly if its other members are.
-/

namespace MapContext

open Json

namespace Operation

/-- The fields of a request with their values. -/
def entries (o : Operation) : List (Entry Operation) :=
  schema.fields.zip
    [some (.text o.code), some (.text o.method), some (.text o.href), o.mediaType.map .text]

theorem toJson_eq (o : Operation) : o.toJson = .object (written o.entries) := by
  cases h : o.mediaType with
  | none => simp [toJson, h, written, entries, schema, field]
  | some t => simp [toJson, h, written, entries, schema, field]

/-- A request is read back from its text. -/
theorem decode_reread (o : Operation) {room : Nat} (hroom : 1 < room) :
    schema.decode (o.toJson.reread room) = .ok o := by
  rw [toJson_eq, Schema.decode_written rfl (by decide) (by simp [entries, schema]) rfl hroom]
  simp only [entries, schema, List.zip_cons_cons, List.zip_nil_left, List.foldlM_cons,
    List.foldlM_nil, readEntry_some, Value.reread, string, map_ok, ok_bind]
  rw [readEntry_optional _ _ rfl, readOptional_text]
  rfl

end Operation

namespace Offering

/-- An offering whose other members are read back at the given remaining depth. -/
structure Durable (o : Offering) (room : Nat) : Prop where
  /-- No other member stands for a field. -/
  unknown : ∀ m ∈ o.extension, m.1 ∉ schema.fields.map (·.key)
  /-- The other members are read back. -/
  extension : ∀ m ∈ o.extension, m.2.Fits Number.Durable room

/-- The other members of an offering that is read are sorted, and none of them stands for a
field. -/
theorem extension_of_decode {t : Tree} {o : Offering} (h : schema.decode t = .ok o) :
    o.extension.Sorted ∧ ∀ m ∈ o.extension, m.1 ∉ schema.fields.map (·.key) := by
  refine Schema.property_of_decode (p := fun o : Offering =>
    o.extension.Sorted ∧ ∀ m ∈ o.extension, m.1 ∉ schema.fields.map (·.key)) ?_ ?_ ?_ h
  · intro f hf t change hchange o ho
    simp only [schema, List.mem_cons, List.not_mem_nil, or_false] at hf
    rcases hf with rfl | rfl <;>
      obtain ⟨b, -, rfl⟩ := map_eq_ok_iff.mp hchange <;> exact ho
  · exact ⟨⟨by simp [schema, Members.Ascending], by simp [schema]⟩, by simp [schema]⟩
  · rintro _ ⟨⟩ ms hsorted hunknown o -
    exact ⟨hsorted, hunknown⟩

/-- The fields of an offering with their values. -/
def entries (o : Offering) : List (Entry Offering) :=
  schema.fields.zip [some (.text o.code), listValue Operation.toJson o.operations]

theorem toJson_eq (o : Offering) : o.toJson = .object (written o.entries ++ o.extension) := by
  cases h : o.operations with
  | nil => simp [toJson, h, written, entries, schema, field, listValue]
  | cons op ops => simp [toJson, h, written, entries, schema, field, listValue]

/-- An offering is read back from its text exactly if its other members are. -/
theorem decode_reread_eq_ok_iff {o : Offering} (h : o.extension.Sorted) {room : Nat}
    (hroom : 3 < room) :
    schema.decode (o.toJson.reread room) = .ok o ↔ o.Durable (room - 1) := by
  have hoperations : readList (room - 1) Operation.schema.decode Operation.toJson o.operations =
      .ok o.operations :=
    (readList_eq_ok_iff o.operations).mpr fun op _ => op.decode_reread (by omega)
  have hfields : o.entries.foldlM (readEntry (room - 1)) schema.start =
      .ok { o with extension := [] } := by
    simp only [entries, schema, List.zip_cons_cons, List.zip_nil_left, List.foldlM_cons,
      List.foldlM_nil, readEntry_some, Value.reread, string, map_ok, ok_bind]
    rw [readEntry_list _ _ rfl (by omega), hoperations]
    rfl
  have hextension (hunknown : ∀ m ∈ o.extension, m.1 ∉ schema.fields.map (·.key)) :
      schema.decode (o.toJson.reread room) = .ok o ↔
        ∀ m ∈ o.extension, m.2.Fits Number.Durable (room - 1) := by
    rw [toJson_eq, Schema.decode_written_append rfl (by decide) (by simp [entries, schema]) rfl
      hunknown (by omega), hfields, ok_bind, map_eq_ok_iff, ← h.reread_eq_ok_iff (room - 1)]
    constructor
    · rintro ⟨ms, hms, heq⟩
      have hsame : ms = o.extension := congrArg Offering.extension heq
      rw [hms, hsame]
    · intro hms
      exact ⟨o.extension, hms, rfl⟩
  constructor
  · intro hread
    have hunknown := (extension_of_decode hread).2
    exact ⟨hunknown, (hextension hunknown).mp hread⟩
  · intro hd
    exact (hextension hd.unknown).mpr hd.extension

end Offering

end MapContext
