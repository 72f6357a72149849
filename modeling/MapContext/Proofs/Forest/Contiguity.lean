import MapContext.Proofs.Forest.Listing
import Mathlib.Data.List.Induction
import Mathlib.Data.Nat.Find
import Mathlib.Order.Monotone.Basic

/-!
# Listings told from their folders

Whether folders list a forest can be told without comparing neighbours: they ascend, the parent of
each is among them, and the children of every parent, like the roots, are numbered from zero
without gaps. What stands between a path and something below it lies below it too; this carries
the step from the whole list to its neighbours.
-/

namespace MapContext

namespace FolderPath

/-- What stands between two continuations of a list continues it too, and stands between them. -/
theorem exists_append_of_between {a b s t : List Nat} (hs : ¬b < a ++ s) (ht : b < a ++ t) :
    ∃ u, b = a ++ u ∧ ¬u < s ∧ u < t := by
  induction a generalizing b with
  | nil => exact ⟨b, rfl, hs, ht⟩
  | cons x a ih =>
      cases b with
      | nil => exact absurd (List.nil_lt_cons x (a ++ s)) hs
      | cons y b =>
          rw [List.cons_append, List.cons_lt_cons_iff] at hs ht
          obtain rfl : x = y := by omega
          simp only [Nat.lt_irrefl, true_and, false_or] at hs ht
          obtain ⟨u, rfl, hsu, hut⟩ := ih hs ht
          exact ⟨u, rfl, hsu, hut⟩

variable {parent : Option FolderPath} {p q : FolderPath} {i : Nat}

/-- Nothing stands between a parent and its first child. -/
theorem eq_of_lt_first_child (hp : p ≤ q) (hq : q < under (some p) 0) : q = p := by
  have hp : ¬q.segments < p.segments ++ [] := by
    rw [List.append_nil]
    exact hp
  obtain ⟨u, hu, -, hlt⟩ := exists_append_of_between hp hq
  have hnil : u = [] := by
    cases u with
    | nil => rfl
    | cons j u => simp [List.cons_lt_cons_iff] at hlt
  exact eq_of_segments (by rw [hu, hnil, List.append_nil])

/-- Between a child and the next one stands only what lies below the former. -/
theorem prefix_of_lt_next (hp : under parent i ≤ q) (hq : q < under parent (i + 1)) :
    segmentsOf parent ++ [i] <+: q.segments := by
  obtain ⟨u, hu, hle, hlt⟩ := exists_append_of_between hp hq
  cases u with
  | nil => exact absurd (List.nil_lt_cons i []) hle
  | cons j u =>
      rw [List.cons_lt_cons_iff] at hle hlt
      have hj : j < i + 1 := hlt.resolve_right fun h => List.not_lt_nil u h.2
      obtain rfl : i = j := by omega
      exact ⟨u, by rw [hu, List.append_assoc, List.singleton_append]⟩

/-- Folders in document order that leave nothing out. -/
structure Contiguous (folders : List FolderPath) : Prop where
  /-- Every folder stands before the later ones in the order of paths. -/
  ascending : folders.Pairwise (· < ·)
  /-- The parent of every folder but those of roots is there. -/
  parent_mem : ∀ p ∈ folders, ∀ q, p.parent? = some q → q ∈ folders
  /-- The children of every parent, and the roots, are numbered from zero without gaps. -/
  indices : ∀ parent, ∃ n, ∀ i, under parent i ∈ folders ↔ i < n

variable {before after folders : List FolderPath}

theorem Contiguous.nodup (h : Contiguous folders) : folders.Nodup := by
  refine h.ascending.imp ?_
  rintro p _ hlt rfl
  exact lt_irrefl p hlt

/-- In an ascending list the earlier folders end with the last one before a given one. -/
theorem exists_last_before (h : (before ++ q :: after).Pairwise (· < ·))
    (hp : p ∈ before ++ q :: after) (hpq : p < q) :
    ∃ last, before.getLast? = some last ∧ p ≤ last ∧ last < q := by
  obtain ⟨hbefore, hafter, hlt⟩ := List.pairwise_append.mp h
  have hmem : p ∈ before := by
    rcases List.mem_append.mp hp with hp | hp
    · exact hp
    · rcases List.mem_cons.mp hp with rfl | hp
      · exact absurd hpq (lt_irrefl p)
      · have hqp := (List.pairwise_cons.mp hafter).1 p hp
        exact absurd (List.lt_trans hpq hqp) (lt_irrefl p)
  rcases List.eq_nil_or_concat' before with rfl | ⟨init, last, rfl⟩
  · cases hmem
  · refine ⟨last, by simp, ?_, hlt last (by simp) q List.mem_cons_self⟩
    rcases List.mem_append.mp hmem with hp | hp
    · have hlast := (List.pairwise_append.mp hbefore).2.2 p hp last (List.mem_singleton_self _)
      exact le_of_lt hlast
    · rw [List.mem_singleton.mp hp]
      exact List.le_refl last.segments

/-- In a contiguous list every folder may directly follow the one before it. -/
theorem Contiguous.precedes (h : Contiguous (before ++ under parent i :: after)) :
    Precedes before.getLast? parent i := by
  have hself : under parent i ∈ before ++ under parent i :: after :=
    List.mem_append_right _ List.mem_cons_self
  cases i with
  | zero =>
      cases parent with
      | none =>
          -- nothing stands before the first root
          rcases List.eq_nil_or_concat before with rfl | ⟨init, last, rfl⟩
          · rfl
          · have hlt := (List.pairwise_append.mp h.ascending).2.2 last (by simp) _
              List.mem_cons_self
            obtain ⟨j, rest, hlast⟩ := List.exists_cons_of_ne_nil last.nonempty
            rw [lt_iff_segments, hlast] at hlt
            simp [List.cons_lt_cons_iff] at hlt
      | some p =>
          have hp := h.parent_mem _ hself p (parent?_under (some p) 0)
          have hlt : p < under (some p) 0 := lt_of_within (within_under _ (Nat.le_refl 0))
          obtain ⟨last, hlast, hle, hnext⟩ := exists_last_before h.ascending hp hlt
          rw [hlast, eq_of_lt_first_child hle hnext]
          rfl
  | succ i =>
      obtain ⟨n, hn⟩ := h.indices parent
      have hp := (hn i).mpr (Nat.lt_of_succ_lt ((hn (i + 1)).mp hself))
      have hlt : under parent i < under parent (i + 1) :=
        lt_of_within_later List.prefix_rfl (within_under _ (Nat.le_refl _))
      obtain ⟨last, hlast, hle, hnext⟩ := exists_last_before h.ascending hp hlt
      rw [hlast]
      exact prefix_of_lt_next hle hnext

/-- Where the parent of every folder is there, all ancestors of a folder are. -/
theorem mem_of_within (h : ∀ q ∈ folders, ∀ p, q.parent? = some p → p ∈ folders) {q : FolderPath}
    (hq : q ∈ folders) (hpq : Within (some p) 0 q) : p ∈ folders := by
  obtain ⟨j, rest, -, hrest⟩ := hpq
  induction rest using List.reverseRecOn generalizing q with
  | nil =>
      refine h q hq p (segmentsOf_injective ?_)
      simp [segmentsOf_parent?, hrest]
  | append_singleton rest k ih =>
      let above : FolderPath := ⟨p.segments ++ j :: rest, by simp⟩
      refine ih (q := above) (h q hq above (segmentsOf_injective ?_)) rfl
      simp [segmentsOf_parent?, hrest, above, List.dropLast_append_of_ne_nil,
        List.dropLast_cons_of_ne_nil]

theorem Contiguous.mem_of_within (h : Contiguous folders) {q : FolderPath} (hq : q ∈ folders)
    (hpq : Within (some p) 0 q) : p ∈ folders :=
  FolderPath.mem_of_within h.parent_mem hq hpq

end FolderPath

namespace Forest

open Context FolderPath

/-- The folders of the places, in document order. -/
def folders (f : Forest) : List FolderPath := (f.numbered none 0).flatten.map (·.folder)

variable {f : Forest} {parent : Option FolderPath} {i : Nat} {r : Resource}

/-- A place is a root of its forest, or its parent is a place of the forest. -/
theorem parent_of_mem (h : r ∈ (f.numbered parent i).flatten) :
    r.folder.parent? = parent ∨
      ∃ a ∈ (f.numbered parent i).flatten, r.folder.parent? = some a.folder := by
  induction f generalizing parent i with
  | nil => cases h
  | tree root below rest ihb ihr =>
      simp only [numbered_tree, flatten_tree, List.mem_cons, List.mem_append] at h ⊢
      rcases h with rfl | h | h
      · exact .inl (parent?_under parent i)
      · rcases ihb h with hr | ⟨a, ha, hr⟩
        · exact .inr ⟨_, .inl rfl, hr⟩
        · exact .inr ⟨a, .inr (.inl ha), hr⟩
      · rcases ihr h with hr | ⟨a, ha, hr⟩
        · exact .inl hr
        · exact .inr ⟨a, .inr (.inr ha), hr⟩

/-- Before a child there is the child with the index before, unless it is the first one that was
numbered. -/
theorem previous_of_mem {slot : Option FolderPath} {k : Nat}
    (h : r ∈ (f.numbered parent i).flatten) (hr : r.folder = under slot (k + 1)) :
    (slot = parent ∧ k + 1 = i) ∨ ∃ a ∈ (f.numbered parent i).flatten, a.folder = under slot k := by
  induction f generalizing parent i with
  | nil => cases h
  | tree root below rest ihb ihr =>
      simp only [numbered_tree, flatten_tree, List.mem_cons, List.mem_append] at h ⊢
      rcases h with rfl | h | h
      · have hparent := congrArg FolderPath.parent? hr
        have hindex := congrArg FolderPath.index hr
        simp only [Resource.folder_atFolder, parent?_under, index_under] at hparent hindex
        exact .inl ⟨hparent.symm, hindex.symm⟩
      · rcases ihb h with ⟨-, hk⟩ | ⟨a, ha, hfolder⟩
        · cases hk
        · exact .inr ⟨a, .inr (.inl ha), hfolder⟩
      · rcases ihr h with ⟨rfl, hk⟩ | ⟨a, ha, hfolder⟩
        · refine .inr ⟨_, .inl rfl, ?_⟩
          rw [Nat.succ.inj hk]
          rfl
        · exact .inr ⟨a, .inr (.inr ha), hfolder⟩

/-- The folders of a forest are contiguous. -/
theorem contiguous_folders (f : Forest) : Contiguous f.folders := by
  constructor
  case ascending =>
    rw [folders, List.pairwise_map]
    exact pairwise_folder_lt f none 0
  case parent_mem =>
    intro p hp q hq
    obtain ⟨r, hr, rfl⟩ := List.mem_map.mp hp
    rcases parent_of_mem hr with hroot | ⟨a, ha, hparent⟩
    · rw [hroot] at hq
      cases hq
    · rw [hparent] at hq
      rw [← Option.some.inj hq]
      exact List.mem_map_of_mem ha
  case indices =>
    intro slot
    have hprevious (k : Nat) (hk : under slot (k + 1) ∈ f.folders) : under slot k ∈ f.folders := by
      obtain ⟨r, hr, hfolder⟩ := List.mem_map.mp hk
      rcases previous_of_mem hr hfolder with ⟨-, hk⟩ | ⟨a, ha, hfolder⟩
      · cases hk
      · rw [← hfolder]
        exact List.mem_map_of_mem ha
    -- indices are bounded by the number of resources, so there is a first one that is missing
    have hmissing : ∃ k, under slot k ∉ f.folders := by
      refine ⟨f.size, fun hmem => ?_⟩
      obtain ⟨r, hr, hfolder⟩ := List.mem_map.mp hmem
      have hsegment : f.size ∈ r.folder.segments := by simp [hfolder]
      rcases mem_segments_of_mem hr hsegment with hnone | hlt
      · cases hnone
      · omega
    classical
    refine ⟨Nat.find hmissing, fun k => ?_⟩
    have hdown : Antitone fun k => under slot k ∈ f.folders := antitone_nat_of_succ_le hprevious
    rw [Nat.lt_find_iff]
    constructor
    · intro hk m hm
      exact not_not.mpr (hdown hm hk)
    · intro h
      exact not_not.mp (h k (Nat.le_refl k))

theorem lastFolder_eq_getLast? (rs : List Resource) :
    lastFolder none rs = (rs.map (·.folder)).getLast? := by
  induction rs using List.reverseRecOn with
  | nil => rfl
  | append_singleton rs r _ => simp

/-- Resources with contiguous folders stand in order. -/
theorem ordered_of_contiguous {before rs : List Resource}
    (h : Contiguous ((before ++ rs).map (·.folder))) : Ordered (lastFolder none before) rs := by
  induction rs generalizing before with
  | nil => trivial
  | cons r rs ih =>
      have hrest : Ordered (lastFolder none (before ++ [r])) rs :=
        ih (by rwa [List.append_assoc, List.singleton_append])
      obtain ⟨parent, i, hr⟩ := exists_under r.folder
      rw [List.map_append, List.map_cons, hr] at h
      refine ⟨?_, by simpa using hrest⟩
      rw [lastFolder_eq_getLast?, hr, misplaced?_eq_none_iff]
      exact h.precedes

/-- Resources stand at the places of a forest exactly if their folders are contiguous. -/
theorem exists_folders_eq_iff (rs : List Resource) :
    (∃ f : Forest, f.folders = rs.map (·.folder)) ↔ Contiguous (rs.map (·.folder)) := by
  constructor
  · rintro ⟨f, hf⟩
    rw [← hf]
    exact f.contiguous_folders
  · intro h
    have hcontiguous : Contiguous (([] ++ rs).map Resource.folder) := h
    obtain ⟨f, hf⟩ := exists_flatten_eq (ordered_of_contiguous hcontiguous)
    exact ⟨f, by rw [folders, hf]⟩

/-- The folders of valid resources are contiguous. -/
theorem contiguous_of_validate {rs : List Resource} (h : validate rs = .ok ()) :
    Contiguous (rs.map (·.folder)) := by
  obtain ⟨-, f, rfl⟩ := (validate_eq_ok_iff_exists_forest rs).mp h
  exact f.contiguous_folders

end Forest

end MapContext
