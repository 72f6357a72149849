import MapContext.Proofs.Text.Digits

/-!
# Words

A text of words with blanks between them is cut into these words, however many blanks stand
between two of them.
-/

namespace MapContext.Text

/-- A word has a character and no blanks. -/
structure IsWord (s : String) : Prop where
  ne_nil : s.toList ≠ []
  not_blank : ∀ c ∈ s.toList, isBlank c = false

/-- A gap is made of blanks and not empty. -/
structure IsGap (cs : List Char) : Prop where
  ne_nil : cs ≠ []
  blank : ∀ c ∈ cs, isBlank c = true

theorem isWord_iff {s : String} :
    IsWord s ↔ s.toList.isEmpty = false ∧ s.toList.all (! isBlank ·) = true := by
  have hblank : s.toList.all (! isBlank ·) = true ↔ ∀ c ∈ s.toList, isBlank c = false := by
    simp only [List.all_eq_true, Bool.not_eq_true']
  rw [hblank, List.isEmpty_eq_false_iff]
  exact ⟨fun h => ⟨h.ne_nil, h.not_blank⟩, fun h => ⟨h.1, h.2⟩⟩

theorem isGap_iff {cs : List Char} :
    IsGap cs ↔ cs.isEmpty = false ∧ cs.all isBlank = true := by
  rw [List.all_eq_true, List.isEmpty_eq_false_iff]
  exact ⟨fun h => ⟨h.ne_nil, h.blank⟩, fun h => ⟨h.1, h.2⟩⟩

instance (s : String) : Decidable (IsWord s) := decidable_of_iff _ isWord_iff.symm

instance (cs : List Char) : Decidable (IsGap cs) := decidable_of_iff _ isGap_iff.symm

/-- Words with a gap between each two of them. -/
inductive Spaced : List String → List Char → Prop
  | nothing : Spaced [] []
  | word {w : String} : IsWord w → Spaced [w] w.toList
  | more {w next : String} {others : List String} {gap rest : List Char} :
    IsWord w → IsGap gap → Spaced (next :: others) rest →
      Spaced (w :: next :: others) (w.toList ++ (gap ++ rest))

/-- The pieces between blanks that have characters. -/
def solidPieces (cs : List Char) : List (List Char) :=
  (pieces isBlank cs).filter (! ·.isEmpty)

theorem solidPieces_gap {gap : List Char} (h : ∀ c ∈ gap, isBlank c = true) (rest : List Char) :
    solidPieces (gap ++ rest) = solidPieces rest := by
  induction gap with
  | nil => rfl
  | cons c gap ih =>
      have hc := h c List.mem_cons_self
      have hcut : pieces isBlank (c :: (gap ++ rest)) = [] :: pieces isBlank (gap ++ rest) := by
        simp [pieces, cut, hc]
      rw [List.cons_append, solidPieces, hcut]
      exact ih fun d hd => h d (List.mem_cons_of_mem _ hd)

theorem solidPieces_word {w : String} (h : IsWord w) : solidPieces w.toList = [w.toList] := by
  rw [solidPieces, pieces, cut_of_free h.not_blank]
  simp [h.ne_nil]

theorem solidPieces_word_gap {w : String} {gap rest : List Char} (hw : IsWord w)
    (hgap : IsGap gap) :
    solidPieces (w.toList ++ (gap ++ rest)) = w.toList :: solidPieces rest := by
  obtain ⟨c, gap, rfl⟩ := List.exists_cons_of_ne_nil hgap.ne_nil
  have hcut := cut_append hw.not_blank (hgap.blank c List.mem_cons_self) (gap ++ rest)
  have hrest : solidPieces (gap ++ rest) = solidPieces rest :=
    solidPieces_gap (fun d hd => hgap.blank d (List.mem_cons_of_mem _ hd)) rest
  have hword : (!w.toList.isEmpty) = true := by simp [hw.ne_nil]
  rw [List.cons_append, solidPieces, pieces, hcut, List.filter_cons, if_pos hword]
  exact congrArg _ hrest

theorem solidPieces_spaced {ws : List String} {cs : List Char} (h : Spaced ws cs) :
    solidPieces cs = ws.map String.toList := by
  induction h with
  | nothing => rfl
  | word hw => exact solidPieces_word hw
  | more hw hgap _ ih => rw [solidPieces_word_gap hw hgap, ih, ← List.map_cons]

/-- A spaced text is cut into its words. -/
theorem words_spaced {ws : List String} {s : String} (h : Spaced ws s.toList) : words s = ws := by
  have hpieces := solidPieces_spaced h
  rw [solidPieces] at hpieces
  rw [words, hpieces, List.map_map]
  exact (List.map_congr_left fun w _ => String.ofList_toList).trans (List.map_id ws)

end MapContext.Text
