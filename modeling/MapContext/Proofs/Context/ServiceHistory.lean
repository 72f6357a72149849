import Mathlib.Data.List.Induction
import MapContext.Proofs.Context.Contents

/-!
# The history of the services

A context knows for each address the latest description of the service there, and the resources
that were built from it. Appends and removals maintain these entries apart from the resources
themselves. The two stay in step: the entries tell what is left of all appends since the context
was begun.
-/

namespace MapContext

namespace Context

variable {c c' : Context} {href : String}

/-! ### Histories -/

/-- The contexts to begin with: empty ones, those over given resources, and those of documents. -/
inductive Begun : Context → Prop
  /-- An empty context. -/
  | empty (id : String) : Begun (Context.empty id)
  /-- A context over given resources. -/
  | new {id : String} {features : List Resource} {c : Context} :
      Context.new id features = .ok c → Begun c
  /-- The context of a document. -/
  | document {d : Document} {c : Context} : ofDocument d = .ok c → Begun c

/-- An edit in place, with the identifiers of the resources that it builds from a service. -/
def Edit.building : Edit → InPlace (List Resource.Id)
  | .append href capabilities fresh => InPlace.append href capabilities fresh
  | edit => do
    edit.inPlace
    return []

/-- An edit that was tried. -/
structure Attempt where
  /-- The edit. -/
  edit : Edit
  /-- The identifiers of the resources that it built from a service, or why it failed. -/
  outcome : Except Error (List Resource.Id)
  /-- The context afterwards. -/
  after : Context

/-- Tries an edit on a context. -/
def attempt (c : Context) (edit : Edit) : Attempt :=
  let (outcome, after) := InPlace.on edit.building c
  ⟨edit, outcome, after⟩

/-- Edits tried one after another, whether or not those before succeeded. -/
def history (c : Context) : List Edit → List Attempt
  | [] => []
  | edit :: edits => c.attempt edit :: history (c.attempt edit).after edits

/-- The context after edits were tried. -/
def current (c : Context) (edits : List Edit) : Context :=
  edits.foldl (fun c edit => (c.attempt edit).after) c

/-- What an append added for an address: the description of the service and the new resources. -/
def Attempt.added? (href : String) (a : Attempt) : Option Service :=
  match a.edit, a.outcome with
  | .append href' capabilities _, .ok ids =>
      if href' = href then some ⟨capabilities, ids⟩ else none
  | _, _ => none

/-- The resources that appends for an address created and that no edit since has removed, in the
order of their creation. -/
def survivors (href : String) : List Attempt → List Resource.Id
  | [] => []
  | a :: later =>
    ((a.added? href).elim [] (·.resources)).filter
      (fun id => later.all fun a' => (a'.after.get? id).isSome) ++
    survivors href later

/-- The description given to the latest append for an address that succeeded. -/
def latest? (href : String) (past : List Attempt) : Option Capabilities :=
  past.reverse.findSome? fun a => (a.added? href).map (·.capabilities)

/-- The services of a context tell what is left of the appends of a history. -/
structure Records (c : Context) (past : List Attempt) : Prop where
  /-- No address has two entries. -/
  addresses : (c.services.map (·.1)).Nodup
  /-- An address has an entry if, and only if, a resource created for it is left. -/
  listed : ∀ href, (∃ s, c.services.lookup href = some s) ↔ survivors href past ≠ []
  /-- An entry lists the resources that are left, and there are some. -/
  resources : ∀ href s, c.services.lookup href = some s →
    s.resources = survivors href past ∧ s.resources ≠ []
  /-- An entry has the description that the latest append brought. -/
  capabilities : ∀ href s, c.services.lookup href = some s →
    latest? href past = some s.capabilities
  /-- The resources that are left belong to the context. -/
  present : ∀ href, ∀ id ∈ survivors href past, id ∈ c.features.map (·.id)
  /-- No resource is listed twice. -/
  nodup : ∀ href, (survivors href past).Nodup
  /-- No resource is listed under two addresses. -/
  apart : ∀ href href', href ≠ href' → (survivors href past).Disjoint (survivors href' past)

theorem history_append (c : Context) (edits : List Edit) (edit : Edit) :
    history c (edits ++ [edit]) = history c edits ++ [(current c edits).attempt edit] := by
  induction edits generalizing c with
  | nil => rfl
  | cons first edits ih => exact congrArg _ (ih _)

theorem current_append (c : Context) (edits : List Edit) (edit : Edit) :
    current c (edits ++ [edit]) = ((current c edits).attempt edit).after := by
  rw [current, List.foldl_append]
  rfl

/-- One more attempt leaves those resources that are in the context afterwards, and adds those of
a service. -/
theorem survivors_append (href : String) (past : List Attempt) (a : Attempt) :
    survivors href (past ++ [a]) =
      (survivors href past).filter (fun id => (a.after.get? id).isSome) ++
        (a.added? href).elim [] (·.resources) := by
  induction past with
  | nil => simp [survivors]
  | cons first past ih =>
      rw [List.cons_append, survivors, survivors, ih, List.filter_append, List.filter_filter,
        ← List.append_assoc]
      congr 3
      funext id
      rw [List.all_append, List.all_cons, List.all_nil, Bool.and_true, Bool.and_comm]

theorem latest?_append (href : String) (past : List Attempt) (a : Attempt) :
    latest? href (past ++ [a]) = ((a.added? href).map (·.capabilities)).or (latest? href past) := by
  rw [latest?, List.reverse_append, List.reverse_singleton, List.singleton_append,
    List.findSome?_cons]
  cases (a.added? href).map (·.capabilities) <;> rfl

/-! ### Entries by their addresses -/

/-- An append joins its resources to those of the same address. -/
theorem lookup_addService (href : String) (capabilities : Capabilities) (ids : List Resource.Id)
    (services : List (String × Service)) (key : String) :
    (addService href capabilities ids services).lookup key =
      if key = href then
        some ⟨capabilities, (services.lookup href).elim [] (·.resources) ++ ids⟩
      else services.lookup key := by
  induction services with
  | nil =>
      rw [addService]
      split
      · next hkey => rw [hkey, List.lookup_cons_self, List.lookup_nil, Option.elim_none,
          List.nil_append]
      · next hkey => rw [lookup_cons_of_ne hkey]
  | cons entry services ih =>
      obtain ⟨first, s⟩ := entry
      rw [addService]
      by_cases hfirst : first = href
      · rw [if_pos hfirst, hfirst, List.lookup_cons_self, Option.elim_some]
        split
        · next hkey => rw [hkey, List.lookup_cons_self]
        · next hkey => rw [lookup_cons_of_ne hkey, lookup_cons_of_ne hkey]
      · rw [if_neg hfirst, lookup_cons_of_ne (Ne.symm hfirst)]
        by_cases hkey : key = first
        · rw [hkey, List.lookup_cons_self, List.lookup_cons_self, if_neg hfirst]
        · rw [lookup_cons_of_ne hkey, lookup_cons_of_ne hkey, ih]

theorem nodup_addService {capabilities : Capabilities} {ids : List Resource.Id}
    {services : List (String × Service)} (h : (services.map (·.1)).Nodup) :
    ((addService href capabilities ids services).map (·.1)).Nodup ∧
      ∀ key ∈ (addService href capabilities ids services).map (·.1),
        key = href ∨ key ∈ services.map (·.1) := by
  induction services with
  | nil => simp [addService]
  | cons entry services ih =>
      obtain ⟨first, s⟩ := entry
      obtain ⟨hfirst, hservices⟩ := List.nodup_cons.mp h
      obtain ⟨hnodup, hkeys⟩ := ih hservices
      rw [addService]
      split
      · exact ⟨h, fun key hkey => .inr hkey⟩
      · next hne =>
          refine ⟨List.nodup_cons.mpr ⟨fun hmem => ?_, hnodup⟩, ?_⟩
          · rcases hkeys first hmem with heq | hmem
            · exact hne heq
            · exact hfirst hmem
          · intro key hkey
            rcases List.mem_cons.mp hkey with rfl | hkey
            · exact .inr List.mem_cons_self
            · exact (hkeys key hkey).imp_right (List.mem_cons_of_mem _)

/-- The entry of a service without removed resources. -/
def Service.without (s : Service) (removed : List Resource) : Service :=
  { s with resources := s.resources.filter fun id => !removed.any (·.id == id) }

theorem dropFromServices_cons (removed : List Resource) (first : String) (s : Service)
    (services : List (String × Service)) :
    dropFromServices removed ((first, s) :: services) =
      if (s.without removed).resources = [] then dropFromServices removed services
      else (first, s.without removed) :: dropFromServices removed services := by
  simp only [dropFromServices, List.map_cons, List.filter_cons, Service.without]
  split <;> simp_all

theorem nodup_dropFromServices {removed : List Resource} {services : List (String × Service)}
    (h : (services.map (·.1)).Nodup) : ((dropFromServices removed services).map (·.1)).Nodup := by
  refine h.sublist ((List.filter_sublist.map _).trans ?_)
  rw [List.map_map]
  exact List.Sublist.refl _

/-- A removal takes its resources from every entry, and drops the entry if none is left. -/
theorem lookup_dropFromServices {removed : List Resource} {services : List (String × Service)}
    (h : (services.map (·.1)).Nodup) {t : Service} :
    (dropFromServices removed services).lookup href = some t ↔
      ∃ s, services.lookup href = some s ∧ t = s.without removed ∧ t.resources ≠ [] := by
  induction services with
  | nil => simp [dropFromServices]
  | cons entry services ih =>
      obtain ⟨first, s⟩ := entry
      obtain ⟨hfirst, hservices⟩ := List.nodup_cons.mp h
      rw [dropFromServices_cons]
      by_cases hkey : href = first
      · subst hkey
        have hnone := lookup_eq_none_of_not_mem hfirst
        split
        · next hempty =>
            rw [ih hservices, hnone]
            simp only [List.lookup_cons, beq_self_eq_true, Option.some.injEq]
            constructor
            · rintro ⟨_, h, -⟩
              cases h
            · rintro ⟨_, rfl, rfl, h⟩
              exact absurd hempty h
        · next hleft =>
            simp only [List.lookup_cons, beq_self_eq_true, Option.some.injEq]
            constructor
            · rintro rfl
              exact ⟨s, rfl, rfl, hleft⟩
            · rintro ⟨_, rfl, rfl, -⟩
              rfl
      · split
        · rw [ih hservices, lookup_cons_of_ne hkey]
        · rw [lookup_cons_of_ne hkey, lookup_cons_of_ne hkey, ih hservices]

/-! ### What an attempt does -/

/-- What an attempt does to the resources and to the services. -/
inductive Effect (c : Context) (a : Attempt) : Prop
  /-- The resources stay, and the services are left alone. -/
  | kept (hservices : a.after.services = c.services)
      (hids : ∀ id ∈ c.features.map (·.id), id ∈ a.after.features.map (·.id))
      (hadded : ∀ href, a.added? href = none)
  /-- Resources are removed, also from the services. -/
  | removed (removed : List Resource)
      (hservices : a.after.services = dropFromServices removed c.services)
      (hids : (a.after.features.map (·.id) ++ removed.map (·.id)).Perm (c.features.map (·.id)))
      (hadded : ∀ href, a.added? href = none)
  /-- The resources of a service are added, also to its entry. -/
  | added (href : String) (s : Service)
      (hservices : a.after.services = addService href s.capabilities s.resources c.services)
      (hids : (a.after.features.map (·.id)).Perm (c.features.map (·.id) ++ s.resources))
      (hresources : s.resources ≠ [])
      (hadded : ∀ href', a.added? href' = if href = href' then some s else none)

theorem added?_of_error {a : Attempt} {e : Error} (h : a.outcome = .error e) :
    a.added? href = none := by
  unfold Attempt.added?
  rw [h]
  cases a.edit <;> rfl

theorem added?_of_not_append {a : Attempt}
    (h : ∀ href capabilities fresh, a.edit ≠ .append href capabilities fresh) :
    a.added? href = none := by
  unfold Attempt.added?
  split
  · next hedit _ => exact absurd hedit (h _ _ _)
  · rfl

theorem map_id_content (rs : List Resource) :
    (rs.map Resource.content).map (·.id) = rs.map (·.id) := by
  rw [List.map_map]
  rfl

theorem nodup_of_validate (h : validate c.features = .ok ()) :
    (c.features.map (·.id)).Nodup := by
  obtain ⟨f, hf⟩ := (validate_eq_ok_iff_lists c).mp h
  exact hf.ids_eq ▸ hf.nodup

theorem isSome_get?_iff {id : Resource.Id} :
    (c.get? id).isSome = true ↔ id ∈ c.features.map (·.id) := by
  rw [Option.isSome_iff_ne_none, Ne, get?_eq_none_iff, Decidable.not_not]

theorem attempt_of_not_append {edit : Edit}
    (h : ∀ href capabilities fresh, edit ≠ .append href capabilities fresh) :
    c.attempt edit =
      match edit.apply c with
      | .ok c' => ⟨edit, .ok [], c'⟩
      | .error e => ⟨edit, .error e, c⟩ := by
  have hbuilding : edit.building = edit.inPlace >>= fun _ => pure [] := by
    cases edit with
    | append href capabilities fresh => exact absurd rfl (h href capabilities fresh)
    | _ => rfl
  rw [attempt, hbuilding, InPlace.on_bind, edit.on_inPlace]
  cases edit.apply c <;> rfl

theorem attempt_append (capabilities : Capabilities) (fresh : Nat → Resource.Id) :
    c.attempt (.append href capabilities fresh) =
      match c.append href capabilities fresh with
      | .ok (c', ids) => ⟨.append href capabilities fresh, .ok ids, c'⟩
      | .error e => ⟨.append href capabilities fresh, .error e, c⟩ := by
  rw [attempt, Edit.building, InPlace.on_append]
  cases c.append href capabilities fresh <;> rfl

/-- A service has layers, so an append builds some resource. -/
theorem resourcesOf_ne_nil {capabilities : Capabilities} {root : Nat} {fresh : Nat → Resource.Id}
    {rs : List Resource} (h : resourcesOf href capabilities root fresh = .ok rs) : rs ≠ [] := by
  obtain ⟨g, rfl, hids⟩ := resourcesOf_eq_ok h
  have hcount : capabilities.rootLayer.count ≠ 0 := by
    cases capabilities.rootLayer
    rw [Layer.count]
    exact Nat.succ_ne_zero _
  intro hnil
  rw [← Forest.ids_numbered none root g, Forest.ids, hnil, List.map_nil] at hids
  simp [hcount] at hids

theorem effect_kept {a : Attempt} (h : a.after = c) (hadded : ∀ href, a.added? href = none) :
    Effect c a :=
  .kept (by rw [h]) (fun _ hid => by rwa [h]) hadded

/-- Edits that neither remove resources nor read a service. -/
def Edit.Neutral : Edit → Prop
  | .move _ _ _ => True
  | .insert _ _ _ => True
  | .activate _ _ => True
  | .remove _ => False
  | .append _ _ _ => False

theorem keeps_of_neutral {edit : Edit} (h : edit.Neutral) (hedit : edit.apply c = .ok c') :
    c'.services = c.services ∧ ∀ id ∈ c.features.map (·.id), id ∈ c'.features.map (·.id) := by
  cases edit with
  | move source target position =>
      obtain ⟨⟨_, outcome⟩, hmove, rfl⟩ := map_eq_ok_iff.mp hedit
      have hids := (map_content_of_move hmove).map (·.id)
      rw [map_id_content, map_id_content] at hids
      refine ⟨?_, fun id hid => hids.mem_iff.mpr hid⟩
      rcases move_eq_ok_cases hmove with rfl | ⟨_, _, _, _, _, _, -, hcommit⟩
      · rfl
      · obtain ⟨-, rfl⟩ := commit_eq_ok_iff.mp hcommit
        rfl
  | insert target resource position =>
      have hids := (map_content_of_insert hedit).map (·.id)
      rw [List.map_cons, map_id_content, map_id_content] at hids
      refine ⟨?_, fun id hid => hids.mem_iff.mpr (List.mem_cons_of_mem _ hid)⟩
      obtain ⟨_, _, _, c₁, -, hcommit, rfl⟩ := insert_eq_ok_cases hedit
      obtain ⟨-, rfl⟩ := commit_eq_ok_iff.mp hcommit
      rfl
  | activate target active =>
      have hids := congrArg (List.map (·.id)) (map_content_of_activate hedit)
      rw [map_id_content, map_id_content] at hids
      refine ⟨?_, fun id hid => by rwa [hids]⟩
      obtain ⟨t, -, rfl⟩ := activate_eq_ok_cases hedit
      rfl
  | remove target => cases h
  | append href capabilities fresh => cases h

theorem Edit.Neutral.ne_append {edit : Edit} (h : edit.Neutral) (href : String)
    (capabilities : Capabilities) (fresh : Nat → Resource.Id) :
    edit ≠ .append href capabilities fresh := by
  rintro rfl
  cases h

/-- Only a removal takes resources away, only an append brings those of a service, and no other
edit touches the services. -/
theorem effect_attempt (c : Context) (edit : Edit) : Effect c (c.attempt edit) := by
  by_cases hneutral : edit.Neutral
  · rw [attempt_of_not_append hneutral.ne_append]
    cases hedit : edit.apply c with
    | error e => exact effect_kept rfl fun href => added?_of_error rfl
    | ok c' =>
        obtain ⟨hservices, hids⟩ := keeps_of_neutral hneutral hedit
        exact .kept hservices hids fun href => added?_of_not_append hneutral.ne_append
  cases edit with
  | remove target =>
      rw [attempt_of_not_append (by simp)]
      cases hedit : (Edit.remove target).apply c with
      | error e => exact effect_kept rfl fun href => added?_of_error rfl
      | ok c' =>
          obtain ⟨⟨_, removed⟩, hremove, rfl⟩ := map_eq_ok_iff.mp hedit
          have hids := (map_content_of_remove hremove).map (·.id)
          rw [List.map_append, map_id_content, map_id_content, map_id_content] at hids
          refine .removed removed ?_ hids fun href => added?_of_not_append (by simp)
          obtain ⟨_, _, c₁, -, -, hcommit, rfl⟩ := remove_eq_ok_cases hremove
          obtain ⟨-, rfl⟩ := commit_eq_ok_iff.mp hcommit
          rfl
  | append href capabilities fresh =>
      rw [attempt_append]
      cases happend : c.append href capabilities fresh with
      | error e => exact effect_kept rfl fun href => added?_of_error rfl
      | ok result =>
          obtain ⟨c', ids⟩ := result
          obtain ⟨rs, c₁, hrs, rfl, hcommit, rfl⟩ := append_eq_ok_cases happend
          have hids := (map_content_of_commit hcommit).map (·.id)
          rw [map_id_content, map_id_content, List.map_append] at hids
          obtain ⟨-, rfl⟩ := commit_eq_ok_iff.mp hcommit
          exact .added href ⟨capabilities, rs.map Resource.id⟩ rfl hids
            (fun hnil => resourcesOf_ne_nil hrs (List.map_eq_nil_iff.mp hnil)) fun _ => rfl
  | _ => exact absurd trivial hneutral

/-- Moves, insertions and switches do not touch the services. -/
theorem services_of_neutral {edit : Edit} (h : edit.Neutral) :
    (c.attempt edit).after.services = c.services := by
  rw [attempt_of_not_append h.ne_append]
  cases hedit : edit.apply c with
  | error e => rfl
  | ok c' => exact (keeps_of_neutral h hedit).1

/-- An edit that fails leaves the context as it was. -/
theorem after_of_outcome_eq_error {edit : Edit} {e : Error}
    (h : (c.attempt edit).outcome = .error e) : (c.attempt edit).after = c := by
  cases edit with
  | append href capabilities fresh =>
      rw [attempt_append] at h ⊢
      cases happend : c.append href capabilities fresh with
      | error e' => rfl
      | ok result =>
          rw [happend] at h
          cases h
  | _ =>
      rw [attempt_of_not_append (by simp)] at h ⊢
      split at h
      · cases h
      · rfl

/-- An attempt leaves a valid context. -/
theorem validate_after (hc : validate c.features = .ok ()) (edit : Edit) :
    validate (c.attempt edit).after.features = .ok () := by
  cases edit with
  | append href capabilities fresh =>
      rw [attempt_append]
      cases happend : c.append href capabilities fresh with
      | error e => exact hc
      | ok result =>
          exact validate_of_apply (e := .append href capabilities fresh) hc
            (map_eq_ok_iff.mpr ⟨result, happend, rfl⟩)
  | _ =>
      rw [attempt_of_not_append (by simp)]
      split
      · next hedit => exact validate_of_apply hc hedit
      · exact hc

/-! ### The entries along a history -/

variable {past : List Attempt} {a : Attempt}

theorem Records.resources_eq (h : Records c past) (href : String) :
    (c.services.lookup href).elim [] (·.resources) = survivors href past := by
  cases hs : c.services.lookup href with
  | some s => exact (h.resources href s hs).1
  | none =>
      by_contra hne
      obtain ⟨s, hs'⟩ := (h.listed href).mpr (Ne.symm hne)
      rw [hs] at hs'
      cases hs'

/-- At the beginning there are no services. -/
theorem Begun.records (h : Begun c) : Records c [] := by
  have hservices : c.services = [] := by
    cases h with
    | empty id => rfl
    | new hnew =>
        obtain ⟨-, rfl⟩ := new_eq_ok_iff.mp hnew
        rfl
    | document hdocument =>
        obtain ⟨-, -, -, rfl⟩ := ofDocument_eq_ok_iff.mp hdocument
        rfl
  constructor
  all_goals simp [hservices, survivors]

theorem Begun.valid (h : Begun c) : validate c.features = .ok () := by
  cases h with
  | empty id => rfl
  | new hnew =>
      obtain ⟨hvalid, rfl⟩ := new_eq_ok_iff.mp hnew
      exact hvalid
  | document hdocument =>
      obtain ⟨-, -, hvalid, rfl⟩ := ofDocument_eq_ok_iff.mp hdocument
      exact hvalid

theorem Records.kept (h : Records c past) (hservices : a.after.services = c.services)
    (hids : ∀ id ∈ c.features.map (·.id), id ∈ a.after.features.map (·.id))
    (hadded : ∀ href, a.added? href = none) : Records a.after (past ++ [a]) := by
  have hsurvivors (href : String) : survivors href (past ++ [a]) = survivors href past := by
    rw [survivors_append, hadded, Option.elim_none, List.append_nil, List.filter_eq_self]
    exact fun id hid => isSome_get?_iff.mpr (hids id (h.present href id hid))
  have hlatest (href : String) : latest? href (past ++ [a]) = latest? href past := by
    rw [latest?_append, hadded]
    rfl
  exact {
    addresses := hservices ▸ h.addresses
    listed := by simpa only [hservices, hsurvivors] using h.listed
    resources := by simpa only [hservices, hsurvivors] using h.resources
    capabilities := by simpa only [hservices, hlatest] using h.capabilities
    present := fun href id hid => hids id (h.present href id (hsurvivors href ▸ hid))
    nodup := by simpa only [hsurvivors] using h.nodup
    apart := by simpa only [hsurvivors] using h.apart }

section Removed

variable {gone : List Resource}

/-- What is left after a removal are the resources left before that were not removed. -/
theorem Records.survivors_removed (h : Records c past) (hnodup : (c.features.map (·.id)).Nodup)
    (hids : (a.after.features.map (·.id) ++ gone.map (·.id)).Perm (c.features.map (·.id)))
    (hadded : a.added? href = none) :
    survivors href (past ++ [a]) =
      (survivors href past).filter fun id => !gone.any (·.id == id) := by
  rw [survivors_append, hadded, Option.elim_none, List.append_nil]
  apply List.filter_congr
  intro id hid
  have hsplit := List.mem_append.mp (hids.mem_iff.mpr (h.present href id hid))
  have hdisjoint := List.disjoint_of_nodup_append (hids.nodup_iff.mpr hnodup)
  have hany : (gone.any (·.id == id) = true) ↔ id ∈ gone.map (·.id) := by simp
  rw [Bool.eq_iff_iff, isSome_get?_iff, Bool.not_eq_true', ← Bool.not_eq_true, hany]
  exact ⟨fun hafter hgone => hdisjoint hafter hgone, hsplit.resolve_right⟩

theorem Records.removed (h : Records c past) (hnodup : (c.features.map (·.id)).Nodup)
    (hservices : a.after.services = dropFromServices gone c.services)
    (hids : (a.after.features.map (·.id) ++ gone.map (·.id)).Perm (c.features.map (·.id)))
    (hadded : ∀ href, a.added? href = none) : Records a.after (past ++ [a]) := by
  have hsurvivors (href : String) := h.survivors_removed hnodup hids (hadded href)
  have hlookup (href : String) (t : Service) : a.after.services.lookup href = some t ↔
      ∃ s, c.services.lookup href = some s ∧ t = s.without gone ∧ t.resources ≠ [] := by
    rw [hservices]
    exact lookup_dropFromServices h.addresses
  have hwithout (href : String) {s : Service} (hs : c.services.lookup href = some s) :
      (s.without gone).resources = survivors href (past ++ [a]) := by
    rw [hsurvivors, ← (h.resources href s hs).1]
    rfl
  refine ⟨?_, fun href => ?_, fun href t ht => ?_, fun href t ht => ?_, fun href id hid => ?_,
    fun href => ?_, fun href href' hne => ?_⟩
  · rw [hservices]
    exact nodup_dropFromServices h.addresses
  · constructor
    · rintro ⟨t, ht⟩
      obtain ⟨s, hs, rfl, hleft⟩ := (hlookup href t).mp ht
      rwa [hwithout href hs] at hleft
    · intro hleft
      have hbefore : survivors href past ≠ [] := by
        rintro hnil
        rw [hsurvivors, hnil] at hleft
        exact hleft rfl
      obtain ⟨s, hs⟩ := (h.listed href).mpr hbefore
      exact ⟨_, (hlookup href _).mpr ⟨s, hs, rfl, by rwa [hwithout href hs]⟩⟩
  · obtain ⟨s, hs, rfl, hleft⟩ := (hlookup href t).mp ht
    exact ⟨hwithout href hs, hleft⟩
  · obtain ⟨s, hs, rfl, -⟩ := (hlookup href t).mp ht
    rw [latest?_append, hadded]
    exact h.capabilities href s hs
  · rw [survivors_append, hadded, Option.elim_none, List.append_nil] at hid
    exact isSome_get?_iff.mp (List.mem_filter.mp hid).2
  · rw [hsurvivors]
    exact (h.nodup href).filter _
  · rw [hsurvivors, hsurvivors]
    exact fun id hid hid' =>
      h.apart href href' hne (List.mem_of_mem_filter hid) (List.mem_of_mem_filter hid')

end Removed

section Added

variable {s : Service} {key : String}

theorem latest?_added (hadded : a.added? key = if href = key then some s else none) :
    latest? key (past ++ [a]) =
      if href = key then some s.capabilities else latest? key past := by
  rw [latest?_append, hadded]
  split <;> rfl

/-- What is left after an append are the resources left before and the new ones. -/
theorem Records.survivors_added (h : Records c past)
    (hids : (a.after.features.map (·.id)).Perm (c.features.map (·.id) ++ s.resources))
    (hadded : a.added? key = if href = key then some s else none) :
    survivors key (past ++ [a]) =
      survivors key past ++ if href = key then s.resources else [] := by
  have hold : (survivors key past).filter (fun id => (a.after.get? id).isSome) =
      survivors key past := by
    apply List.filter_eq_self.mpr
    intro id hid
    exact isSome_get?_iff.mpr (hids.mem_iff.mpr (List.mem_append_left _ (h.present key id hid)))
  rw [survivors_append, hold, hadded]
  split <;> rfl

theorem Records.lookup_added (h : Records c past)
    (hservices : a.after.services = addService href s.capabilities s.resources c.services)
    (hsurvivors : survivors key (past ++ [a]) =
      survivors key past ++ if href = key then s.resources else []) :
    a.after.services.lookup key =
      if href = key then some ⟨s.capabilities, survivors key (past ++ [a])⟩
      else c.services.lookup key := by
  rw [hservices, lookup_addService, h.resources_eq]
  simp only [eq_comm (a := key)]
  split
  · next hkey => rw [hsurvivors, if_pos hkey, hkey]
  · rfl

/-- New resources are under no other address. -/
theorem Records.apart_added (h : Records c past)
    (hnew : (c.features.map (·.id)).Disjoint s.resources) {key' : String} (hne : key ≠ key') :
    (survivors key past ++ if href = key then s.resources else []).Disjoint
      (survivors key' past ++ if href = key' then s.resources else []) := by
  have hold (key : String) (id : Resource.Id) (hid : id ∈ survivors key past)
      (hid' : id ∈ s.resources) : False := hnew (h.present key id hid) hid'
  by_cases hkey : href = key
  · have hkey' : href ≠ key' := fun heq => hne (hkey.symm.trans heq)
    rw [if_pos hkey, if_neg hkey', List.append_nil, List.disjoint_append_left]
    exact ⟨h.apart key key' hne, fun id hid' hid => hold key' id hid hid'⟩
  · rw [if_neg hkey, List.append_nil, List.disjoint_append_right]
    refine ⟨h.apart key key' hne, ?_⟩
    split
    · exact hold key
    · exact List.disjoint_nil_right _

theorem Records.added (h : Records c past) (hnodup : (a.after.features.map (·.id)).Nodup)
    (hservices : a.after.services = addService href s.capabilities s.resources c.services)
    (hids : (a.after.features.map (·.id)).Perm (c.features.map (·.id) ++ s.resources))
    (hresources : s.resources ≠ [])
    (hadded : ∀ key, a.added? key = if href = key then some s else none) :
    Records a.after (past ++ [a]) := by
  have hboth := hids.nodup_iff.mp hnodup
  have hdisjoint := List.disjoint_of_nodup_append hboth
  have hsurvivors (key : String) := h.survivors_added hids (hadded key)
  have hlookup (key : String) := h.lookup_added hservices (hsurvivors key)
  refine ⟨?_, fun key => ?_, fun key t ht => ?_, fun key t ht => ?_, fun key id hid => ?_,
    fun key => ?_, fun key key' hne => ?_⟩
  · rw [hservices]
    exact (nodup_addService h.addresses).1
  · rw [hlookup, hsurvivors]
    split
    · simp [hresources]
    · rw [List.append_nil]
      exact h.listed key
  · rw [hlookup] at ht
    split at ht
    · next hkey =>
        cases ht
        exact ⟨rfl, by simp [hsurvivors, hkey, hresources]⟩
    · next hkey =>
        rw [hsurvivors, if_neg hkey, List.append_nil]
        exact h.resources key t ht
  · rw [hlookup] at ht
    rw [latest?_added (hadded key)]
    split at ht
    · next hkey =>
        cases ht
        rw [if_pos hkey]
    · next hkey =>
        rw [if_neg hkey]
        exact h.capabilities key t ht
  · rw [hids.mem_iff]
    rw [hsurvivors] at hid
    rcases List.mem_append.mp hid with hid | hid
    · exact List.mem_append_left _ (h.present key id hid)
    · split at hid
      · exact List.mem_append_right _ hid
      · cases hid
  · rw [hsurvivors]
    split
    · exact List.Nodup.append (h.nodup key) hboth.of_append_right
        fun id hid => hdisjoint (h.present key id hid)
    · rw [List.append_nil]
      exact h.nodup key
  · rw [hsurvivors, hsurvivors]
    exact h.apart_added hdisjoint hne

end Added

/-- One more attempt keeps the services in step. -/
theorem Records.attempt (h : Records c past) (hvalid : validate c.features = .ok ())
    (edit : Edit) : Records (c.attempt edit).after (past ++ [c.attempt edit]) := by
  cases effect_attempt c edit with
  | kept hservices hids hadded => exact h.kept hservices hids hadded
  | removed removed hservices hids hadded =>
      exact h.removed (nodup_of_validate hvalid) hservices hids hadded
  | added href s hservices hids hresources hadded =>
      exact h.added (nodup_of_validate (validate_after hvalid edit)) hservices hids hresources
        hadded

theorem Begun.valid_current (h : Begun c) (edits : List Edit) :
    validate (current c edits).features = .ok () := by
  induction edits using List.reverseRecOn with
  | nil => exact h.valid
  | append_singleton edits edit ih =>
      rw [current_append]
      exact validate_after ih edit

/-- The attempt of an edit that succeeds ends with its result. -/
theorem after_attempt {edit : Edit} (h : edit.apply c = .ok c') : (c.attempt edit).after = c' := by
  cases edit with
  | append href capabilities fresh =>
      obtain ⟨⟨_, ids⟩, happend, rfl⟩ := map_eq_ok_iff.mp h
      rw [attempt_append, happend]
  | _ => rw [attempt_of_not_append (by simp), h]

/-- From the beginning of a context on, its services tell what is left of all appends. -/
theorem Begun.records_current (h : Begun c) (edits : List Edit) :
    Records (current c edits) (history c edits) := by
  induction edits using List.reverseRecOn with
  | nil => exact h.records
  | append_singleton edits edit ih =>
      rw [current_append, history_append]
      exact ih.attempt (h.valid_current edits) edit

/-- A reachable context is the current one of some history. -/
theorem Reachable.exists_current (h : Reachable c) :
    ∃ start edits, Begun start ∧ current start edits = c := by
  induction h with
  | empty id => exact ⟨_, [], .empty id, rfl⟩
  | new hnew => exact ⟨_, [], .new hnew, rfl⟩
  | document hdocument => exact ⟨_, [], .document hdocument, rfl⟩
  | edit edit _ happly ih =>
      obtain ⟨start, edits, hstart, rfl⟩ := ih
      refine ⟨start, edits ++ [edit], hstart, ?_⟩
      rw [current_append, after_attempt happly]

/-- The services of a reachable context tell what is left of the appends on the way to it. -/
theorem Reachable.exists_records (h : Reachable c) :
    ∃ start edits, Begun start ∧ current start edits = c ∧ Records c (history start edits) := by
  obtain ⟨start, edits, hstart, rfl⟩ := h.exists_current
  exact ⟨start, edits, hstart, rfl, hstart.records_current edits⟩

/-- From its beginning on, whatever edits are tried, the services of a context tell what is left of
all appends. Moves, insertions and switches do not touch them, and neither does an edit that
fails. -/
theorem Begun.services_tell_survivors (h : Begun c) (edits : List Edit) :
    Records (current c edits) (history c edits) ∧
      (∀ edit : Edit, edit.Neutral →
        ((current c edits).attempt edit).after.services = (current c edits).services) ∧
      ∀ edit e, ((current c edits).attempt edit).outcome = .error e →
        ((current c edits).attempt edit).after = current c edits := by
  refine ⟨h.records_current edits, ?_, ?_⟩
  · exact fun edit hneutral => services_of_neutral hneutral
  · exact fun edit e hfails => after_of_outcome_eq_error hfails

/-- A service with one layer that only groups. -/
def groupService (title : String) : Capabilities :=
  ⟨"1.3.0", none, none, none, none, [], { title }⟩

/-- The layer of one service is appended and removed again. That of another one is appended and
switched on, and an append for something that is no address fails. -/
def twoServices : List Edit :=
  [.append "a:b" (groupService "Rivers") fun _ => "rivers", .remove "rivers",
    .append "a:c" (groupService "Roads") fun _ => "roads", .activate "roads" true,
    .append "nowhere" (groupService "Rails") fun _ => "rails"]

/-- In the end only the second service has an entry. -/
theorem twoServices_told :
    (current (Context.empty "map") twoServices).services.lookup "a:b" = none ∧
      ∃ s, (current (Context.empty "map") twoServices).services.lookup "a:c" = some s ∧
        s.resources = ["roads"] ∧ s.capabilities.rootLayer.title = "Roads" := by
  have hrivers : survivors "a:b" (history (Context.empty "map") twoServices) = [] := by
    decide +kernel
  have hroads : survivors "a:c" (history (Context.empty "map") twoServices) = ["roads"] := by
    decide +kernel
  have hlatest : (latest? "a:c" (history (Context.empty "map") twoServices)).map
      (·.rootLayer.title) = some "Roads" := by
    decide +kernel
  obtain ⟨hrecords, -, -⟩ := Begun.services_tell_survivors (.empty "map") twoServices
  refine ⟨?_, ?_⟩
  · cases hs : (current (Context.empty "map") twoServices).services.lookup "a:b" with
    | none => rfl
    | some s => exact absurd hrivers ((hrecords.listed "a:b").mp ⟨s, hs⟩)
  · obtain ⟨s, hs⟩ := (hrecords.listed "a:c").mpr (by simp [hroads])
    refine ⟨s, hs, (hrecords.resources "a:c" s hs).1.trans hroads, ?_⟩
    rw [hrecords.capabilities "a:c" s hs] at hlatest
    exact Option.some.inj hlatest

end Context

end MapContext
