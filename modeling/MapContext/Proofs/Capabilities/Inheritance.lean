import MapContext.Proofs.Capabilities.Places
import Mathlib.Data.List.Nodup

/-!
# Inherited fields

What a layer hands down to those inside it is its own share joined with what it was handed itself.
So after the inheritance a layer has the codes of all layers around it and its own ones, outermost
first, its own styles before those of its parent, and the extent of the nearest layer that has one.
A tree in which everything was handed down already does not change.
-/

namespace MapContext.Layer

/-! ### Lists that grow by what is new -/

@[simp] theorem addNew_nil (known : List String) : addNew known [] = known := rfl

theorem addNew_cons (known new : List String) (s : String) :
    addNew known (s :: new) = addNew (if known.contains s then known else known ++ [s]) new := rfl

theorem addNew_append (known new more : List String) :
    addNew known (new ++ more) = addNew (addNew known new) more := List.foldl_append

/-- New members come after those that stood before, each once. -/
theorem addNew_eraseDups (known new : List String) :
    addNew known.eraseDups new = (known ++ new).eraseDups := by
  induction new generalizing known with
  | nil => rw [List.append_nil]; rfl
  | cons s new ih =>
      have hknown : (if known.eraseDups.contains s then known.eraseDups
          else known.eraseDups ++ [s]) = (known ++ [s]).eraseDups := by
        rw [List.eraseDups_append]
        by_cases hs : s ∈ known
        · simp [List.removeAll, hs]
        · simp [List.removeAll, hs, List.eraseDups_cons]
      calc addNew known.eraseDups (s :: new)
          = addNew (known ++ [s]).eraseDups new := by rw [← hknown]; rfl
        _ = (known ++ s :: new).eraseDups := by rw [ih, List.append_assoc, List.singleton_append]

theorem eraseDups_eq_addNew (new : List String) : new.eraseDups = addNew [] new :=
  (addNew_eraseDups [] new).symm

/-- What is added are the members that were not there, each once. -/
theorem addNew_eq_append (known new : List String) :
    addNew known new = known ++ (new.filter (! known.contains ·)).eraseDups := by
  induction new generalizing known with
  | nil => simp
  | cons s new ih =>
      rw [addNew_cons]
      by_cases hs : s ∈ known
      · simp [hs, ih]
      · have hrest : new.filter (! (known ++ [s]).contains ·) =
            (new.filter (! known.contains ·)).filter (! · == s) := by
          rw [List.filter_filter]
          congr 1
          funext t
          by_cases ht : t = s
          · simp [ht]
          · simp [ht]
        have hkept : (s :: new).filter (! known.contains ·) =
            s :: new.filter (! known.contains ·) :=
          List.filter_cons_of_pos (by simpa using hs)
        rw [if_neg (by simpa using hs), ih, hrest, hkept, List.eraseDups_cons, List.append_assoc,
          List.singleton_append]

theorem prefix_addNew (known new : List String) : known <+: addNew known new := by
  rw [addNew_eq_append]
  exact List.prefix_append known _

theorem nodup_addNew {known : List String} (h : known.Nodup) (new : List String) :
    (addNew known new).Nodup := by
  induction new generalizing known with
  | nil => exact h
  | cons s new ih =>
      rw [addNew_cons]
      apply ih
      by_cases hs : s ∈ known
      · simpa [hs] using h
      · simpa [hs] using List.nodup_append_comm.mp (List.nodup_cons.mpr ⟨hs, h⟩)

/-- Nothing is added twice. -/
theorem addNew_of_subset {known new : List String} (h : new ⊆ known) :
    addNew known new = known := by
  have hnone : new.filter (! known.contains ·) = [] := by
    rw [List.filter_eq_nil_iff]
    intro s hs
    simpa using h hs
  rw [addNew_eq_append, hnone]
  exact List.append_nil known

/-- Members that are new are added as they are. -/
theorem addNew_of_nodup {known new : List String} (h : (known ++ new).Nodup) :
    addNew known new = known ++ new := by
  induction new generalizing known with
  | nil => simp
  | cons s new ih =>
      have hs : s ∉ known := by
        intro hs
        exact (List.nodup_append.mp h).2.2 s hs s List.mem_cons_self rfl
      rw [List.append_cons] at h
      rw [addNew_cons]
      simp [hs, ih h]

/-- Adding to the same list again what was made of it changes nothing. -/
theorem addNew_addNew {known : List String} (h : known.Nodup) (new : List String) :
    addNew known (addNew known new) = addNew known new := by
  obtain ⟨more, hmore⟩ := prefix_addNew known new
  have hnodup : (known ++ more).Nodup := hmore ▸ nodup_addNew h new
  rw [← hmore, addNew_append, addNew_of_subset fun _ hs => hs, addNew_of_nodup hnodup]

/-! ### What is handed down -/

/-- What a layer is handed by the layers around it. -/
structure Legacy where
  /-- Codes of reference systems. -/
  crs : List String := []
  /-- An extent. -/
  bbox : Option BoundingBox := none
  /-- Names of styles. -/
  styles : List String := []

/-- What a layer hands down. -/
def Legacy.after (g : Legacy) (layer : Layer) : Legacy :=
  ⟨addNew g.crs layer.crs, layer.bbox.or g.bbox, addNew layer.styles g.styles⟩

/-- A layer that was handed something, and what it hands down in turn. -/
def heir (layer : Layer) (g : Legacy) : Layer := layer.inherit g.crs g.bbox g.styles

theorem inheritAll_eq_map (crs : List String) (bbox : Option BoundingBox) (styles : List String)
    (layers : List Layer) :
    inheritAll crs bbox styles layers = layers.map (inherit crs bbox styles) := by
  induction layers with
  | nil => rfl
  | cons layer rest ih => rw [inheritAll, ih, List.map_cons]

theorem heir_eq (layer : Layer) (g : Legacy) :
    layer.heir g =
      { layer with
        crs := (g.after layer).crs
        bbox := (g.after layer).bbox
        styles := (g.after layer).styles
        layers := layer.layers.map (·.heir (g.after layer)) } := by
  cases layer
  rw [heir, inherit, inheritAll_eq_map]
  rfl

theorem layers_heir (layer : Layer) (g : Legacy) :
    (layer.heir g).layers = layer.layers.map (·.heir (g.after layer)) := by
  rw [heir_eq]

/-- Every layer is handed what the layers around it leave. -/
theorem at?_heir (layer : Layer) (g : Legacy) (path : List Nat) :
    (layer.heir g).at? path =
      (layer.at? path).map (·.heir ((layer.around path).foldl Legacy.after g)) := by
  induction path generalizing layer g with
  | nil => rfl
  | cons i path ih =>
      rw [at?_cons, layers_heir, List.getElem?_map, at?_cons, around]
      cases layer.layers[i]? with
      | none => rfl
      | some inner => exact ih inner (g.after layer)

/-! ### The joint legacy of several layers -/

variable (above : List Layer)

theorem crs_foldl (g : Legacy) :
    (above.foldl Legacy.after g).crs = addNew g.crs (above.flatMap (·.crs)) := by
  induction above generalizing g with
  | nil => rfl
  | cons a above ih => rw [List.foldl_cons, ih, List.flatMap_cons, addNew_append]; rfl

theorem bbox_foldl (g : Legacy) :
    (above.foldl Legacy.after g).bbox = (above.reverse.findSome? (·.bbox)).or g.bbox := by
  induction above generalizing g with
  | nil => rfl
  | cons a above ih =>
      rw [List.foldl_cons, ih, List.reverse_cons, List.findSome?_append, Option.or_assoc]
      simp [Legacy.after]

theorem head?_addNew (own more : List String) :
    (addNew own more).head? = own.head?.or more.head? := by
  cases own with
  | nil =>
      rw [← eraseDups_eq_addNew]
      cases more with
      | nil => rfl
      | cons s more => simp [List.eraseDups_cons]
  | cons s own => simp [addNew_eq_append]

theorem head?_styles_foldl (g : Legacy) :
    (above.foldl Legacy.after g).styles.head? =
      (above.reverse.findSome? (·.styles.head?)).or g.styles.head? := by
  induction above generalizing g with
  | nil => rfl
  | cons a above ih =>
      rw [List.foldl_cons, ih, List.reverse_cons, List.findSome?_append, Option.or_assoc]
      simp [Legacy.after, head?_addNew]

/-! ### A second time -/

theorem after_heir {g : Legacy} (h : g.crs.Nodup) (layer : Layer) :
    g.after (layer.heir g) = g.after layer := by
  have hstyles : g.styles ⊆ addNew layer.styles g.styles := by
    intro s hs
    rw [addNew_eq_append]
    by_cases hown : s ∈ layer.styles
    · exact List.mem_append_left _ hown
    · refine List.mem_append_right _ (List.mem_eraseDups.mpr (List.mem_filter.mpr ⟨hs, ?_⟩))
      simpa using hown
  rw [heir_eq]
  simp only [Legacy.after, addNew_addNew h, addNew_of_subset hstyles, Option.or_assoc,
    Option.or_self]

mutual

/-- A layer that is handed the same again does not change. -/
theorem heir_heir : (layer : Layer) → {g : Legacy} → g.crs.Nodup →
    (layer.heir g).heir g = layer.heir g
  | ⟨name, title, description, crs, bbox, styles, minScale, maxScale, queryable, layers⟩, g, h => by
      have hnodup : (g.after ⟨name, title, description, crs, bbox, styles, minScale, maxScale,
          queryable, layers⟩).crs.Nodup := nodup_addNew h crs
      have hinner := heir_heir_all layers hnodup
      rw [heir_eq (heir _ g), after_heir h, layers_heir, hinner, heir_eq _ g]

theorem heir_heir_all : (layers : List Layer) → {g : Legacy} → g.crs.Nodup →
    (layers.map (·.heir g)).map (·.heir g) = layers.map (·.heir g)
  | [], _, _ => rfl
  | layer :: rest, _, h => by
      rw [List.map_cons, List.map_cons, heir_heir layer h, heir_heir_all rest h]

end

/-! ### Layers with what they inherit -/

/-- A layer before and after the inheritance; the layers around it are given before and after it,
too. -/
structure Inherits (around around' : List Layer) (layer layer' : Layer) : Prop where
  /-- It has the codes of all layers around it and its own, outermost first, each once. -/
  crs : layer'.crs = ((around ++ [layer]).flatMap (·.crs)).eraseDups
  /-- No code stands twice. -/
  nodup_crs : layer'.crs.Nodup
  /-- The codes of its parent come first. -/
  outer_crs : ∀ outer ∈ around'.getLast?, outer.crs <+: layer'.crs
  /-- Its own styles come first, then those of its parent that it has not, each once. -/
  styles : layer'.styles = layer.styles ++
    (((around'.getLast?.map (·.styles)).getD []).filter (! layer.styles.contains ·)).eraseDups
  /-- The first style is that of the nearest layer that has one. -/
  firstStyle : layer'.styles.head? = (around ++ [layer]).reverse.findSome? (·.styles.head?)
  /-- The extent is that of the nearest layer that has one. -/
  bbox : layer'.bbox = (around ++ [layer]).reverse.findSome? (·.bbox)
  /-- All other fields stay. -/
  fields : { layer' with
    crs := layer.crs, bbox := layer.bbox, styles := layer.styles, layers := layer.layers } = layer
  /-- It has as many layers inside. -/
  width : layer'.layers.length = layer.layers.length

/-- What was handed to a layer in a tree is what its parent has now. -/
theorem legacy_of_getLast? {root layer : Layer} {path : List Nat} (h : root.at? path = some layer) :
    (path = [] ∧ (root.around path).foldl Legacy.after {} = {}) ∨
      ∃ outer, ((root.heir {}).around path).getLast? = some outer ∧
        outer.crs = ((root.around path).foldl Legacy.after {}).crs ∧
        outer.styles = ((root.around path).foldl Legacy.after {}).styles := by
  rcases List.eq_nil_or_concat path with rfl | ⟨above, i, rfl⟩
  · exact .inl ⟨rfl, rfl⟩
  · rw [List.concat_eq_append] at h ⊢
    rw [at?_concat, Option.bind_eq_some_iff] at h
    obtain ⟨outer, houter, -⟩ := h
    let g := (root.around above).foldl Legacy.after {}
    have hheir : (root.heir {}).at? above = some (outer.heir g) := by
      rw [at?_heir, houter, Option.map_some]
    refine .inr ⟨outer.heir g, ?_, ?_, ?_⟩
    · rw [around_concat hheir, List.getLast?_concat]
    · rw [around_concat houter, List.foldl_concat, heir_eq]
    · rw [around_concat houter, List.foldl_concat, heir_eq]

/-- After the inheritance every layer of a tree stands at its place with what it inherits, there are
no others, and a second inheritance changes nothing. -/
theorem inherit_along_paths (root : Layer) :
    (∀ path layer, root.at? path = some layer →
      ∃ layer', (root.inherit [] none []).at? path = some layer' ∧
        Inherits (root.around path) ((root.inherit [] none []).around path) layer layer') ∧
    (∀ path, root.at? path = none → (root.inherit [] none []).at? path = none) ∧
    (root.inherit [] none []).inherit [] none [] = root.inherit [] none [] := by
  have hroot : root.inherit [] none [] = root.heir {} := rfl
  rw [hroot]
  refine ⟨?_, ?_, @heir_heir root {} List.nodup_nil⟩
  · intro path layer h
    let g := (root.around path).foldl Legacy.after {}
    have hafter : g.after layer = (root.around path ++ [layer]).foldl Legacy.after {} :=
      (List.foldl_concat ..).symm
    have hcrs : (layer.heir g).crs =
        ((root.around path ++ [layer]).flatMap (·.crs)).eraseDups := by
      rw [heir_eq, hafter, crs_foldl, eraseDups_eq_addNew]
    have hstyles : (layer.heir g).styles = addNew layer.styles g.styles := by
      rw [heir_eq]
      rfl
    have hlegacy := legacy_of_getLast? h
    refine ⟨layer.heir g, by rw [at?_heir, h, Option.map_some], ?_⟩
    constructor
    case crs => exact hcrs
    case nodup_crs =>
      rw [hcrs, eraseDups_eq_addNew]
      exact nodup_addNew List.nodup_nil _
    case outer_crs =>
      rcases hlegacy with ⟨rfl, -⟩ | ⟨outer, hlast, houter, -⟩
      · exact fun outer houter => nomatch houter
      · rintro outer' houter'
        obtain rfl : outer' = outer := Option.some.inj (houter'.symm.trans hlast)
        rw [houter, heir_eq]
        exact prefix_addNew g.crs layer.crs
    case styles =>
      rw [hstyles, addNew_eq_append]
      rcases hlegacy with ⟨rfl, -⟩ | ⟨outer, hlast, -, houter⟩
      · rfl
      · rw [hlast, Option.map_some, Option.getD_some, houter]
    case firstStyle =>
      rw [heir_eq, hafter, head?_styles_foldl]
      exact Option.or_none
    case bbox =>
      rw [heir_eq, hafter, bbox_foldl]
      exact Option.or_none
    case fields =>
      rw [heir_eq]
      cases layer
      rfl
    case width => rw [layers_heir, List.length_map]
  · intro path h
    rw [at?_heir, h, Option.map_none]

/-- Bridges with a code of their own. -/
def bridges : Layer :=
  { name := some "bridges", crs := ["EPSG:3857"], styles := ["arches", "plain"] }

/-- Streets with roads, and bridges inside the roads. -/
def streets : Layer :=
  { crs := ["EPSG:4326"]
    styles := ["plain"]
    layers :=
      [{ crs := ["EPSG:25832", "EPSG:4326"], styles := ["grey"], layers := [bridges] }] }

/-- The bridges have the codes of the streets and of the roads before their own one, and the style
of the roads after their own ones. -/
theorem bridges_inherit :
    streets.at? [0, 0] = some bridges ∧
      ∃ layer', (streets.inherit [] none []).at? [0, 0] = some layer' ∧
        layer'.crs = ["EPSG:4326", "EPSG:25832", "EPSG:3857"] ∧
        layer'.styles = ["arches", "plain", "grey"] := by
  have hplace : streets.at? [0, 0] = some bridges := rfl
  obtain ⟨layer', hat, hinherits⟩ := (inherit_along_paths streets).1 [0, 0] bridges hplace
  exact ⟨hplace, layer', hat, hinherits.crs.trans (by decide), hinherits.styles.trans (by decide)⟩

end MapContext.Layer
