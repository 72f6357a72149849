import MapContext.Capabilities.Layer
import Mathlib.Data.List.Basic

/-!
# Places of layers

The indices of children lead from the outermost layer of a tree down to every other one. In
document order these places ascend, so a layer stands before those inside it.
-/

namespace MapContext.Layer

/-- The layer to which child indices lead. -/
def at? : Layer → List Nat → Option Layer
  | layer, [] => some layer
  | layer, i :: path => layer.layers[i]?.bind fun inner => inner.at? path

/-- The layers around the one to which child indices lead, outermost first. -/
def around : Layer → List Nat → List Layer
  | _, [] => []
  | layer, i :: path => layer :: (layer.layers[i]?.elim [] fun inner => inner.around path)

@[simp] theorem at?_nil (layer : Layer) : layer.at? [] = some layer := rfl

@[simp] theorem at?_cons (layer : Layer) (i : Nat) (path : List Nat) :
    layer.at? (i :: path) = layer.layers[i]?.bind fun inner => inner.at? path := rfl

@[simp] theorem around_nil (layer : Layer) : layer.around [] = [] := rfl

theorem at?_concat (layer : Layer) (path : List Nat) (i : Nat) :
    layer.at? (path ++ [i]) = (layer.at? path).bind (·.layers[i]?) := by
  induction path generalizing layer with
  | nil => simp
  | cons j path ih =>
      rw [List.cons_append, at?_cons, at?_cons, Option.bind_assoc]
      congr 1
      funext inner
      exact ih inner

/-- The innermost layer around a child is its parent. -/
theorem around_concat {layer outer : Layer} {path : List Nat} (h : layer.at? path = some outer)
    (i : Nat) : layer.around (path ++ [i]) = layer.around path ++ [outer] := by
  induction path generalizing layer with
  | nil =>
      obtain rfl : layer = outer := Option.some.inj h
      cases hi : layer.layers[i]? with
      | none => simp [around, hi]
      | some inner => simp [around, hi]
  | cons j path ih =>
      rw [at?_cons, Option.bind_eq_some_iff] at h
      obtain ⟨inner, hinner, hat⟩ := h
      simp [around, hinner, ih hat]

/-! ### Places in document order -/

mutual

/-- The layers of a tree in document order with their places; the outermost one is at `path`. -/
def placesAt (path : List Nat) : Layer → List (List Nat × Layer)
  | ⟨name, title, description, crs, bbox, styles, minScale, maxScale, queryable, layers⟩ =>
    (path, ⟨name, title, description, crs, bbox, styles, minScale, maxScale, queryable, layers⟩)
      :: placesAll path 0 layers
termination_by structural layer => layer

/-- The layers of several trees, which are children of `path` from number `i` on. -/
def placesAll (path : List Nat) (i : Nat) : List Layer → List (List Nat × Layer)
  | [] => []
  | layer :: rest => placesAt (path ++ [i]) layer ++ placesAll path (i + 1) rest
termination_by structural layers => layers

end

/-- The layers in document order with their places. -/
def places (layer : Layer) : List (List Nat × Layer) := placesAt [] layer

mutual

/-- A place is as long as its layer is deep. -/
theorem map_placesAt (path : List Nat) : (layer : Layer) →
    (layer.placesAt path).map (fun p => (p.1.length, p.2)) = layer.preorderAt path.length
  | ⟨_, _, _, _, _, _, _, _, _, layers⟩ => by
      rw [placesAt, preorderAt, List.map_cons, map_placesAll path 0 layers]

theorem map_placesAll (path : List Nat) (i : Nat) : (layers : List Layer) →
    (placesAll path i layers).map (fun p => (p.1.length, p.2)) =
      preorderAll (path.length + 1) layers
  | [] => rfl
  | layer :: rest => by
      have hlayer := map_placesAt (path ++ [i]) layer
      rw [List.length_append, List.length_singleton] at hlayer
      rw [placesAll, preorderAll, List.map_append, hlayer, map_placesAll path (i + 1) rest]

end

mutual

/-- Places below an outermost one begin with its place. -/
theorem placesAt_append (above path : List Nat) : (layer : Layer) →
    layer.placesAt (above ++ path) = (layer.placesAt path).map fun p => (above ++ p.1, p.2)
  | ⟨_, _, _, _, _, _, _, _, _, layers⟩ => by
      rw [placesAt, placesAt, List.map_cons, placesAll_append above path 0 layers]

theorem placesAll_append (above path : List Nat) (i : Nat) : (layers : List Layer) →
    placesAll (above ++ path) i layers =
      (placesAll path i layers).map fun p => (above ++ p.1, p.2)
  | [] => rfl
  | layer :: rest => by
      rw [placesAll, placesAll, List.map_append, List.append_assoc,
        placesAt_append above (path ++ [i]) layer, placesAll_append above path (i + 1) rest]

end

mutual

theorem mem_placesAt {path q : List Nat} {l : Layer} : (layer : Layer) →
    ((q, l) ∈ layer.placesAt path ↔ ∃ below, q = path ++ below ∧ layer.at? below = some l)
  | ⟨name, title, description, crs, bbox, styles, minScale, maxScale, queryable, layers⟩ => by
      rw [placesAt, List.mem_cons, Prod.mk.injEq, mem_placesAll layers]
      constructor
      · rintro (⟨rfl, rfl⟩ | ⟨j, below, rfl, inner, hinner, hat⟩)
        · exact ⟨[], by simp⟩
        · refine ⟨j :: below, by simp, ?_⟩
          rw [at?_cons, hinner, Option.bind_some, hat]
      · rintro ⟨below, rfl, hat⟩
        cases below with
        | nil => exact .inl ⟨by simp, (Option.some.inj hat).symm⟩
        | cons j below =>
            rw [at?_cons, Option.bind_eq_some_iff] at hat
            obtain ⟨inner, hinner, hat⟩ := hat
            exact .inr ⟨j, below, by simp, inner, hinner, hat⟩

theorem mem_placesAll {path q : List Nat} {i : Nat} {l : Layer} : (layers : List Layer) →
    ((q, l) ∈ placesAll path i layers ↔
      ∃ j below, q = path ++ (i + j) :: below ∧
        ∃ inner, layers[j]? = some inner ∧ inner.at? below = some l)
  | [] => by simp [placesAll]
  | layer :: rest => by
      rw [placesAll, List.mem_append, mem_placesAt layer, mem_placesAll rest]
      constructor
      · rintro (⟨below, rfl, hat⟩ | ⟨j, below, rfl, inner, hinner, hat⟩)
        · exact ⟨0, below, by simp, layer, rfl, hat⟩
        · refine ⟨j + 1, below, ?_, inner, hinner, hat⟩
          rw [Nat.add_comm j, Nat.add_assoc]
      · rintro ⟨j, below, rfl, inner, hinner, hat⟩
        cases j with
        | zero =>
            obtain rfl := Option.some.inj hinner
            exact .inl ⟨below, by simp, hat⟩
        | succ j =>
            refine .inr ⟨j, below, ?_, inner, hinner, hat⟩
            rw [Nat.add_comm j, Nat.add_assoc]

end

mutual

theorem ascending_placesAt (path : List Nat) : (layer : Layer) →
    ((layer.placesAt path).map (·.1)).Pairwise (· < ·)
  | ⟨_, _, _, _, _, _, _, _, _, layers⟩ => by
      rw [placesAt, List.map_cons, List.pairwise_cons]
      refine ⟨fun q hq => ?_, ascending_placesAll path 0 layers⟩
      obtain ⟨p, hp, rfl⟩ := List.mem_map.mp hq
      obtain ⟨j, below, heq, -⟩ := (mem_placesAll layers).mp hp
      have hbelow : path ++ [] < path ++ (0 + j) :: below :=
        List.append_left_lt (List.nil_lt_cons (0 + j) below)
      rw [List.append_nil] at hbelow
      rwa [heq]

theorem ascending_placesAll (path : List Nat) (i : Nat) : (layers : List Layer) →
    ((placesAll path i layers).map (·.1)).Pairwise (· < ·)
  | [] => List.Pairwise.nil
  | layer :: rest => by
      rw [placesAll, List.map_append, List.pairwise_append]
      refine ⟨ascending_placesAt _ layer, ascending_placesAll path (i + 1) rest, ?_⟩
      intro q hq q' hq'
      obtain ⟨p, hp, rfl⟩ := List.mem_map.mp hq
      obtain ⟨p', hp', rfl⟩ := List.mem_map.mp hq'
      obtain ⟨below, heq, -⟩ := (mem_placesAt layer).mp hp
      obtain ⟨j, below', heq', -⟩ := (mem_placesAll rest).mp hp'
      rw [heq, heq', List.append_assoc]
      exact List.append_left_lt (List.cons_lt_cons_iff.mpr (.inl (by omega)))

end

theorem map_places (layer : Layer) :
    layer.places.map (fun p => (p.1.length, p.2)) = layer.preorder :=
  map_placesAt [] layer

theorem placesAt_singleton (i : Nat) (layer : Layer) :
    layer.placesAt [i] = layer.places.map fun p => (i :: p.1, p.2) :=
  placesAt_append [i] [] layer

/-- All layers of a tree with their places, one after another as in a document. -/
structure InDocumentOrder (root : Layer) (listed : List (List Nat × Layer)) : Prop where
  /-- They are the layers to which child indices lead. -/
  mem : ∀ path layer, (path, layer) ∈ listed ↔ root.at? path = some layer
  /-- Places ascend, so a layer stands before those inside it and after those of the trees before
  it. -/
  ascending : (listed.map (·.1)).Pairwise (· < ·)

theorem inDocumentOrder_places (root : Layer) : InDocumentOrder root root.places := by
  refine ⟨fun path layer => ?_, ascending_placesAt [] root⟩
  rw [places, mem_placesAt]
  simp

end MapContext.Layer
