import MapContext.Proofs.Forest.Place

/-!
# Ordered forests of resources

A forest is empty, or it has a first tree and the trees after it. Only the shape counts: the
folders of its places are assigned by `numbered`, and `flatten` lists the resources in document
order.
-/

namespace MapContext

namespace Resource

@[simp] theorem folder_atFolder (r : Resource) (p : FolderPath) : (r.atFolder p).folder = p := rfl

@[simp] theorem id_atFolder (r : Resource) (p : FolderPath) : (r.atFolder p).id = r.id := rfl

@[simp] theorem atFolder_self (r : Resource) : r.atFolder r.folder = r := rfl

@[simp] theorem atFolder_atFolder (r : Resource) (p q : FolderPath) :
    (r.atFolder p).atFolder q = r.atFolder q := rfl

end Resource

/-- An ordered forest: the root of the first tree, the forest below it, and the trees after it. -/
inductive Forest where
  /-- No trees. -/
  | nil
  /-- A first tree and the trees after it. -/
  | tree (root : Resource) (below rest : Forest)

namespace Forest

/-- The resources in document order. -/
def flatten : Forest → List Resource
  | nil => []
  | tree r below rest => r :: (below.flatten ++ rest.flatten)

/-- The number of trees. -/
def width : Forest → Nat
  | nil => 0
  | tree _ _ rest => rest.width + 1

/-- The number of resources. -/
def size : Forest → Nat
  | nil => 0
  | tree _ below rest => below.size + rest.size + 1

/-- The forest whose trees are the children of a parent from number `start` on, or roots: every
resource carries the folder of its place. -/
def numbered (parent : Option FolderPath) (start : Nat) : Forest → Forest
  | nil => nil
  | tree r below rest =>
      let folder := FolderPath.under parent start
      tree (r.atFolder folder) (below.numbered (some folder) 0) (rest.numbered parent (start + 1))

/-- The trees of one forest, then those of another. -/
def append : Forest → Forest → Forest
  | nil, g => g
  | tree r below rest, g => tree r below (rest.append g)

instance : Append Forest := ⟨append⟩

/-- The identifiers in document order. -/
def ids (f : Forest) : List Resource.Id := f.flatten.map (·.id)

@[simp] theorem flatten_nil : nil.flatten = [] := rfl

@[simp] theorem flatten_tree (r : Resource) (below rest : Forest) :
    (tree r below rest).flatten = r :: (below.flatten ++ rest.flatten) := rfl

@[simp] theorem width_nil : nil.width = 0 := rfl

@[simp] theorem width_tree (r : Resource) (below rest : Forest) :
    (tree r below rest).width = rest.width + 1 := rfl

@[simp] theorem size_nil : nil.size = 0 := rfl

@[simp] theorem size_tree (r : Resource) (below rest : Forest) :
    (tree r below rest).size = below.size + rest.size + 1 := rfl

@[simp] theorem numbered_nil (parent : Option FolderPath) (i : Nat) :
    nil.numbered parent i = nil := rfl

@[simp] theorem numbered_tree (parent : Option FolderPath) (i : Nat) (r : Resource)
    (below rest : Forest) :
    (tree r below rest).numbered parent i =
      tree (r.atFolder (FolderPath.under parent i))
        (below.numbered (some (FolderPath.under parent i)) 0) (rest.numbered parent (i + 1)) :=
  rfl

@[simp] theorem nil_append (g : Forest) : nil ++ g = g := rfl

@[simp] theorem tree_append (r : Resource) (below rest g : Forest) :
    tree r below rest ++ g = tree r below (rest ++ g) := rfl

@[simp] theorem append_nil (f : Forest) : f ++ nil = f := by
  induction f with
  | nil => rfl
  | tree r below rest _ ih => simp [ih]

@[simp] theorem flatten_append (f g : Forest) : (f ++ g).flatten = f.flatten ++ g.flatten := by
  induction f with
  | nil => rfl
  | tree r below rest _ ih => simp [ih]

theorem numbered_append (parent : Option FolderPath) (i : Nat) (f g : Forest) :
    (f ++ g).numbered parent i = f.numbered parent i ++ g.numbered parent (i + f.width) := by
  induction f generalizing i with
  | nil => rfl
  | tree r below rest _ ih =>
      simp only [tree_append, numbered_tree, ih, width_tree]
      rw [Nat.add_right_comm, Nat.add_assoc]

theorem size_eq_length (f : Forest) : f.size = f.flatten.length := by
  induction f with
  | nil => rfl
  | tree r below rest ihb ihr => simp [ihb, ihr]

theorem width_le_size (f : Forest) : f.width ≤ f.size := by
  induction f with
  | nil => exact Nat.le_refl 0
  | tree r below rest _ ih =>
      simp only [width_tree, size_tree]
      omega

@[simp] theorem size_numbered (parent : Option FolderPath) (i : Nat) (f : Forest) :
    (f.numbered parent i).size = f.size := by
  induction f generalizing parent i with
  | nil => rfl
  | tree r below rest ihb ihr => simp [ihb, ihr]

@[simp] theorem width_numbered (parent : Option FolderPath) (i : Nat) (f : Forest) :
    (f.numbered parent i).width = f.width := by
  induction f generalizing i with
  | nil => rfl
  | tree r below rest _ ih => simp [ih]

@[simp] theorem ids_numbered (parent : Option FolderPath) (i : Nat) (f : Forest) :
    (f.numbered parent i).ids = f.ids := by
  unfold ids
  induction f generalizing parent i with
  | nil => rfl
  | tree r below rest ihb ihr => simp [ihb, ihr]

/-- Only the last numbering counts. -/
@[simp] theorem numbered_numbered (parent parent' : Option FolderPath) (i i' : Nat) (f : Forest) :
    (f.numbered parent' i').numbered parent i = f.numbered parent i := by
  induction f generalizing parent parent' i i' with
  | nil => rfl
  | tree r below rest ihb ihr => simp [ihb, ihr]

/-- Every place lies below the parent, at one of the indices that were given away. -/
theorem within_of_mem {f : Forest} {parent : Option FolderPath} {i : Nat} {r : Resource}
    (h : r ∈ (f.numbered parent i).flatten) : FolderPath.Within parent i r.folder := by
  induction f generalizing parent i with
  | nil => simp at h
  | tree a below rest ihb ihr =>
      simp only [numbered_tree, flatten_tree, List.mem_cons, List.mem_append] at h
      rcases h with rfl | h | h
      · exact FolderPath.within_under parent (Nat.le_refl i)
      · exact (ihb h).of_child
      · exact (ihr h).mono (Nat.le_succ i)

/-- No place has an index beyond those that were given away. -/
theorem segment_lt_of_mem {f : Forest} {parent : Option FolderPath} {i : Nat} {r : Resource}
    (h : r ∈ (f.numbered parent i).flatten) {j : Nat} {rest : List Nat}
    (hr : r.folder.segments = FolderPath.segmentsOf parent ++ j :: rest) : j < i + f.width := by
  induction f generalizing parent i with
  | nil => simp at h
  | tree a below others ihb ihr =>
      simp only [numbered_tree, flatten_tree, List.mem_cons, List.mem_append] at h
      simp only [width_tree]
      rcases h with rfl | h | h
      · have : j = i := by
          have hs : FolderPath.segmentsOf parent ++ [i] =
              FolderPath.segmentsOf parent ++ j :: rest :=
            hr
          simpa using (congrArg (·[(FolderPath.segmentsOf parent).length]?) hs).symm
        omega
      · obtain ⟨k, tail, _, hk⟩ := within_of_mem h
        rw [hr] at hk
        have : j = i := by simpa using congrArg (·[(FolderPath.segmentsOf parent).length]?) hk
        omega
      · have := ihr h hr
        omega

/-- Every index in the folder of a place comes from the parent or is one of those that were given
away. -/
theorem mem_segments_of_mem {f : Forest} {parent : Option FolderPath} {i j : Nat} {r : Resource}
    (h : r ∈ (f.numbered parent i).flatten) (hj : j ∈ r.folder.segments) :
    j ∈ FolderPath.segmentsOf parent ∨ j < i + f.size := by
  induction f generalizing parent i with
  | nil => simp at h
  | tree a below rest ihb ihr =>
      simp only [numbered_tree, flatten_tree, List.mem_cons, List.mem_append] at h
      simp only [size_tree]
      rcases h with rfl | h | h
      · have hj : j ∈ FolderPath.segmentsOf parent ++ [i] := hj
        rcases List.mem_append.mp hj with hj | hj
        · exact .inl hj
        · obtain rfl := List.mem_singleton.mp hj
          exact .inr (by omega)
      · rcases ihb h with hj | hj
        · have hj : j ∈ FolderPath.segmentsOf parent ++ [i] := hj
          rcases List.mem_append.mp hj with hj | hj
          · exact .inl hj
          · obtain rfl := List.mem_singleton.mp hj
            exact .inr (by omega)
        · exact .inr (by omega)
      · rcases ihr h with hj | hj
        · exact .inl hj
        · exact .inr (by omega)

end Forest

end MapContext
