import MapContext.Proofs.Context.Drawing
import MapContext.Proofs.MapRequest
import MapContext.Proofs.Result

/-!
# Batches as runs of requests

The requests of the drawn resources, in document order, fall into runs: neighbours belong together
if they lie in the tree of one root and have the same endpoint. Meeting one resource after another,
with one batch that may still grow, leads to one batch for each run.
-/

namespace MapContext.Context

open FolderPath Batch

/-! ### Runs of requests -/

/-- Reads the address from which a resource is drawn. -/
def readRequest (d : Resource × String) : Except Context.Error (Resource × Url) :=
  match Url.read d.2 with
  | .ok u => .ok (d.1, u)
  | .error e => .error (.invalidUrl d.2 e)

theorem readRequest_eq_ok_iff {d : Resource × String} {q : Resource × Url} :
    readRequest d = .ok q ↔ q.1 = d.1 ∧ Url.read d.2 = .ok q.2 := by
  obtain ⟨r, u⟩ := q
  rw [readRequest]
  cases Url.read d.2 with
  | error e => simp
  | ok u' => simp [eq_comm]

theorem readRequest_eq_error_iff {d : Resource × String} {e : Context.Error} :
    readRequest d = .error e ↔
      ∃ fault, Url.read d.2 = .error fault ∧ e = .invalidUrl d.2 fault := by
  rw [readRequest]
  cases Url.read d.2 with
  | error e' => simp [eq_comm]
  | ok u => simp

/-- What the requests of one batch have in common: the tree of one root, the origin and the path of
the address, the kind of service whatever its case, and the version. -/
def batchKey (q : Resource × Url) : FolderPath × String × String × String × String :=
  (q.1.folder.rootPath, q.2.origin, q.2.path, Text.upper ((q.2.param? "SERVICE").getD ""),
    (q.2.param? "VERSION").getD "")

/-- Requests have the same key if they lie in the tree of one root and have the same endpoint. -/
theorem batchKey_eq_iff {q q' : Resource × Url} :
    batchKey q = batchKey q' ↔ q.1.folder.rootPath = q'.1.folder.rootPath ∧
      MapRequest.Endpoint.of q.2 = MapRequest.Endpoint.of q'.2 := by
  simp only [batchKey, Prod.mk.injEq, MapRequest.Endpoint.of, MapRequest.Endpoint.mk.injEq]

/-- A list cut into the longest runs of neighbours with the same key. -/
structure MaximalRuns {α κ : Type} (key : α → κ) (xs : List α) (runs : List (List α)) : Prop where
  /-- The runs make up the list. -/
  flatten_eq : runs.flatten = xs
  /-- No run is empty. -/
  ne_nil : ∀ run ∈ runs, run ≠ []
  /-- All keys within a run are the same. -/
  same : ∀ run ∈ runs, ∀ a ∈ run, ∀ b ∈ run, key a = key b
  /-- Runs that follow each other have different keys. -/
  maximal : ∀ before run next after, runs = before ++ run :: next :: after →
    ∀ a ∈ run, ∀ b ∈ next, key a ≠ key b

section Runs

variable {α κ : Type} {key : α → κ} {xs run : List α} {runs : List (List α)}

theorem maximalRuns_nil (key : α → κ) : MaximalRuns key [] [] where
  flatten_eq := rfl
  ne_nil := by simp
  same := by simp
  maximal := by simp

/-- A run before a list that begins with another key. -/
theorem MaximalRuns.cons (h : MaximalRuns key xs runs) (hne : run ≠ [])
    (hsame : ∀ a ∈ run, ∀ b ∈ run, key a = key b)
    (hfirst : ∀ a ∈ run, ∀ b ∈ xs.head?, key a ≠ key b) :
    MaximalRuns key (run ++ xs) (run :: runs) where
  flatten_eq := by rw [List.flatten_cons, h.flatten_eq]
  ne_nil := List.forall_mem_cons.mpr ⟨hne, h.ne_nil⟩
  same := List.forall_mem_cons.mpr ⟨hsame, h.same⟩
  maximal := by
    intro before run' next after hruns a ha b hb
    cases before with
    | nil =>
        obtain ⟨rfl, rfl⟩ := List.cons.inj hruns
        obtain ⟨first, others, rfl⟩ :=
          List.exists_cons_of_ne_nil (h.ne_nil next List.mem_cons_self)
        have hhead : first ∈ xs.head? := by
          rw [← h.flatten_eq]
          exact rfl
        rw [h.same _ List.mem_cons_self b hb first List.mem_cons_self]
        exact hfirst a ha first hhead
    | cons _ before =>
        exact h.maximal before run' next after (List.cons.inj hruns).2 a ha b hb

end Runs

/-- The batch of one request. -/
def single (root : Resource.Id) (u : Url) : Batch := ⟨root, u, namedLayers u⟩

/-- A batch with one more request. -/
def grow (b : Batch) (u : Url) : Batch :=
  { b with url := MapRequest.merge b.url u, layers := b.layers ++ namedLayers u }

/-- A batch that answers the requests of a run. -/
structure Serves (features : List Resource) (run : List (Resource × Url)) (b : Batch) : Prop where
  /-- The batch names the root in whose tree all of the resources lie. -/
  root : ∃ top ∈ features, top.depth = 0 ∧ top.id = b.root ∧
    ∀ q ∈ run, q.1.folder.startsWith top.folder = true
  /-- The layers are those of the requests, in their order. -/
  layers : b.layers = run.flatMap fun q => namedLayers q.2
  /-- The request of the batch names these layers. -/
  url : namedLayers b.url = b.layers

variable {features before rest : List Resource} {run requests : List (Resource × Url)}
  {r top : Resource} {q : Resource × Url} {b : Batch} {progress : Progress}

theorem serves_single (hmem : top ∈ features) (hdepth : top.depth = 0)
    (hroot : r.folder.rootPath = top.folder) (u : Url) :
    Serves features [(r, u)] (single top.id u) where
  root := ⟨top, hmem, hdepth, rfl, by simpa using (rootPath_eq_iff hdepth).mp hroot⟩
  layers := by simp [single]
  url := rfl

/-- A batch grows by a request of the same tree. -/
theorem Serves.grow (h : Serves features run b) (hne : run ≠ [])
    (hroot : ∀ q ∈ run, q.1.folder.rootPath = r.folder.rootPath) (u : Url) :
    Serves features (run ++ [(r, u)]) (grow b u) where
  root := by
    obtain ⟨top, hmem, hdepth, hid, hbelow⟩ := h.root
    refine ⟨top, hmem, hdepth, hid, ?_⟩
    intro q hq
    rcases List.mem_append.mp hq with hq | hq
    · exact hbelow q hq
    · obtain ⟨first, hfirst⟩ := List.exists_mem_of_ne_nil run hne
      rw [List.mem_singleton.mp hq, ← rootPath_eq_iff hdepth, ← hroot first hfirst,
        rootPath_eq_iff hdepth]
      exact hbelow first hfirst
  layers := by rw [Context.grow, h.layers, List.flatMap_append, List.flatMap_singleton]
  url := by rw [Context.grow, MapRequest.namedLayers_merge, h.url]

/-! ### The batch that may still grow -/

/-- A run that may still grow, with its batch, in the tree of the last root. -/
inductive Growing (features : List Resource) :
    Option Resource → List (Resource × Url) → Option (MapRequest.Endpoint × Batch) → Prop
  /-- No request was met in the tree. -/
  | idle (last : Option Resource) : Growing features last [] none
  /-- All requests of the run lie in the tree and have the endpoint. -/
  | begun {top : Resource} {run : List (Resource × Url)} {endpoint : MapRequest.Endpoint}
      {b : Batch} (nonempty : run ≠ [])
      (root : ∀ q ∈ run, q.1.folder.rootPath = top.folder)
      (same : ∀ q ∈ run, MapRequest.Endpoint.of q.2 = endpoint)
      (serves : Serves features run b) : Growing features (some top) run (some (endpoint, b))

/-- How batches come out for a run that may still grow and the requests that follow it: they serve
the longest runs, unless an address cannot be read. -/
def Answers (features : List Resource) (run : List (Resource × Url)) :
    Except Context.Error (List (Resource × Url)) → Except Context.Error (List Batch) → Prop
  | .ok requests, .ok batches =>
    ∃ runs, MaximalRuns batchKey (run ++ requests) runs ∧
      List.Forall₂ (Serves features) runs batches
  | .error e, .error e' => e' = e
  | _, _ => False

variable {last : Option Resource} {current : Option (MapRequest.Endpoint × Batch)}
  {read : Except Context.Error (List (Resource × Url))} {e : Context.Error}
  {result : Except Context.Error (List Batch)}

theorem Answers.exists_runs (h : Answers features run (.ok requests) result) :
    ∃ runs batches, result = .ok batches ∧ MaximalRuns batchKey (run ++ requests) runs ∧
      List.Forall₂ (Serves features) runs batches := by
  cases result with
  | error e => exact h.elim
  | ok batches =>
      obtain ⟨runs, hruns, hserves⟩ := h
      exact ⟨runs, batches, rfl, hruns, hserves⟩

theorem Answers.eq_error (h : Answers features run (.error e) result) : result = .error e := by
  cases result with
  | error e' => exact congrArg Except.error h
  | ok batches => exact h.elim

/-- A request that follows a run may be counted as the last one of the run. -/
theorem Answers.cons (h : Answers features (run ++ [q]) read result) :
    Answers features run (read.map (q :: ·)) result := by
  cases read with
  | error e =>
      rw [h.eq_error]
      rfl
  | ok requests =>
      obtain ⟨runs, batches, rfl, hruns, hserves⟩ := h.exists_runs
      rw [List.append_assoc, List.singleton_append] at hruns
      exact ⟨runs, hruns, hserves⟩

/-- Every request of the run lies in the tree of the last root and has the endpoint. -/
theorem Growing.of_mem (h : Growing features last run current) (hq : q ∈ run) :
    ∃ top b, last = some top ∧ q.1.folder.rootPath = top.folder ∧
      current = some (MapRequest.Endpoint.of q.2, b) := by
  cases h with
  | idle => cases hq
  | @begun top _ _ b nonempty root same serves =>
      exact ⟨top, b, rfl, root q hq, by rw [same q hq]⟩

/-- A run ends where the next request does not belong to it. -/
theorem Growing.closed (h : Growing features last run current)
    (hnext : ∀ q ∈ run, ∀ requests, read = .ok requests → ∀ next ∈ requests.head?,
      batchKey q ≠ batchKey next)
    (hanswers : Answers features [] read result) :
    Answers features run read (result.map ((current.map (·.2)).toList ++ ·)) := by
  cases read with
  | error e =>
      rw [hanswers.eq_error]
      rfl
  | ok requests =>
      obtain ⟨runs, batches, rfl, hruns, hserves⟩ := hanswers.exists_runs
      cases h with
      | idle => exact ⟨runs, hruns, hserves⟩
      | begun nonempty root same serves =>
          refine ⟨run :: runs, hruns.cons nonempty ?_ ?_, .cons serves hserves⟩
          · intro q hq next hnext
            exact batchKey_eq_iff.mpr ⟨(root q hq).trans (root next hnext).symm,
              (same q hq).trans (same next hnext).symm⟩
          · exact fun q hq => hnext q hq requests rfl

theorem map_nil_append (result : Except Context.Error (List Batch)) :
    result.map ([] ++ ·) = result := by
  cases result with
  | error e => rfl
  | ok batches => rfl

/-! ### One resource after another -/

/-- What is known where a resource is met: no batch may grow beyond its root. -/
def reaching (progress : Progress) (r : Resource) : Progress :=
  if r.depth == 0 then { progress with current := none, root := some r.id } else progress

theorem covered_reaching (progress : Progress) (r : Resource) :
    (reaching progress r).covered = progress.covered := by
  rw [reaching]
  split <;> rfl

/-- The batch that ends where a resource is met. -/
def endedAt (progress : Progress) (r : Resource) : List Batch :=
  if r.depth == 0 then (progress.current.map (·.2)).toList else []

/-- What is known after a resource was drawn: the batch has grown, or a new one has begun. -/
def drawing (progress : Progress) (r : Resource) (u : Url) : Progress :=
  let fresh := single (progress.root.getD r.id) u
  let batch :=
    match progress.current with
    | some (e, b) => if e = MapRequest.Endpoint.of u then grow b u else fresh
    | none => fresh
  { progress with current := some (MapRequest.Endpoint.of u, batch), covered := some r.folder }

/-- The batch that ends where a request is drawn from another endpoint. -/
def endedBy (progress : Progress) (u : Url) : List Batch :=
  match progress.current with
  | some (e, b) => if e = MapRequest.Endpoint.of u then [] else [b]
  | none => []

/-- A resource is met, and it is drawn if there is an address for it. -/
theorem collect_cons (progress : Progress) (r : Resource) (rest : List Resource) :
    collect progress (r :: rest) =
      (match drawnFrom? progress.covered r with
        | none => collect (reaching progress r) rest
        | some href =>
          match Url.read href with
          | .error e => .error (.invalidUrl href e)
          | .ok u => (collect (drawing (reaching progress r) r u) rest).map
              (endedBy (reaching progress r) u ++ ·)).map (endedAt progress r ++ ·) := by
  simp only [collect, bind_pure_eq_map, reaching, endedAt]
  cases r.depth == 0 with
  | true =>
      simp only [if_true]
      cases drawnFrom? progress.covered r with
      | none => rfl
      | some href =>
          dsimp only
          cases Url.read href with
          | error e => rfl
          | ok u => exact (map_map _ _).symm
  | false =>
      simp only [Bool.false_eq_true, if_false]
      cases drawnFrom? progress.covered r with
      | none => rfl
      | some href =>
          dsimp only
          cases Url.read href with
          | error e => rfl
          | ok u =>
              simp only [endedBy, drawing]
              cases progress.current with
              | none => exact (map_map _ _).symm
              | some growing =>
                  obtain ⟨e, b⟩ := growing
                  by_cases he : e = MapRequest.Endpoint.of u
                  · simp only [if_pos he]
                    rw [he]
                    exact (map_map _ _).symm
                  · simp only [if_neg he]
                    exact (map_map _ _).symm

/-- What is known after some resources were met. -/
structure Met (features before : List Resource) (run : List (Resource × Url))
    (progress : Progress) : Prop where
  /-- The folder is that of the last drawn resource. -/
  covered : progress.covered = (last? (draws features) before).map (·.folder)
  /-- The root is the last one. -/
  root : progress.root = (lastRoot? before).map (·.id)
  /-- The batch may grow in its tree. -/
  current : Growing features (lastRoot? before) run progress.current

/-- Where a root is met, the run before it ends; elsewhere nothing changes. -/
theorem Met.reach (h : Met features before run progress)
    (hlt : ((before ++ r :: rest).map (·.folder)).Pairwise (· < ·))
    (hread : ∀ requests, read = .ok requests → ∀ q ∈ requests, q.1 ∈ r :: rest) :
    (reaching progress r).root = (lastRoot? (before ++ [r])).map (·.id) ∧
      ∃ run', Growing features (lastRoot? (before ++ [r])) run' (reaching progress r).current ∧
        ∀ result, Answers features run' read result →
          Answers features run read (result.map (endedAt progress r ++ ·)) := by
  rw [lastRoot?_concat, reaching, endedAt]
  by_cases hroot : (r.depth == 0) = true
  · simp only [if_pos hroot]
    refine ⟨rfl, [], .idle _, ?_⟩
    intro result hanswers
    refine h.current.closed ?_ hanswers
    intro q hq requests hrequests next hnext
    have hlater := hread requests hrequests next (List.mem_of_mem_head? hnext)
    obtain ⟨top, -, htop, hpath, -⟩ := h.current.of_mem hq
    intro hsame
    have htree := congrArg Prod.fst hsame
    exact rootPath_ne_of_later hlt htop (beq_iff_eq.mp hroot) hlater (htree.symm.trans hpath)
  · simp only [if_neg hroot]
    refine ⟨h.root, run, h.current, ?_⟩
    intro result hanswers
    rw [map_nil_append]
    exact hanswers

/-- Where a resource is drawn, its request joins the run if it belongs there, and else begins a new
one. -/
theorem Growing.draw (h : Growing features (some top) run progress.current)
    (hmem : top ∈ features) (hdepth : top.depth = 0) (hroot : r.folder.rootPath = top.folder)
    (hid : progress.root = some top.id) (u : Url) :
    ∃ run', Growing features (some top) run' (drawing progress r u).current ∧
      ∀ result, Answers features run' read result →
        Answers features run (read.map ((r, u) :: ·)) (result.map (endedBy progress u ++ ·)) := by
  have hsingle : Growing features (some top) [(r, u)]
      (some (MapRequest.Endpoint.of u, single (progress.root.getD r.id) u)) := by
    refine .begun (List.cons_ne_nil _ _) (by simpa using hroot) (by simp) ?_
    rw [hid]
    exact serves_single hmem hdepth hroot u
  rw [drawing, endedBy]
  cases hcurrent : progress.current with
  | none =>
      rw [hcurrent] at h
      cases h
      refine ⟨_, hsingle, fun result hanswers => ?_⟩
      rw [map_nil_append]
      exact hanswers.cons
  | some growing =>
      obtain ⟨e, b⟩ := growing
      rw [hcurrent] at h
      by_cases he : e = MapRequest.Endpoint.of u
      · simp only [if_pos he]
        refine ⟨run ++ [(r, u)], ?_, fun result hanswers => ?_⟩
        · cases h with
          | begun nonempty root same serves =>
              refine .begun (by simp) ?_ ?_ (serves.grow nonempty ?_ u)
              · exact List.forall_mem_append.mpr ⟨root, by simpa using hroot⟩
              · rw [← he]
                exact List.forall_mem_append.mpr ⟨same, by simpa using he.symm⟩
              · exact fun q hq => (root q hq).trans hroot.symm
        · rw [map_nil_append]
          exact hanswers.cons
      · simp only [if_neg he]
        refine ⟨_, hsingle, fun result hanswers => ?_⟩
        refine h.closed ?_ hanswers.cons
        intro q hq requests hrequests next hnext
        obtain ⟨others, -, rfl⟩ := map_eq_ok_iff.mp hrequests
        obtain rfl : (r, u) = next := Option.mem_some_iff.mp hnext
        obtain ⟨_, _, -, -, hgrowing⟩ := h.of_mem hq
        intro hsame
        obtain ⟨-, hendpoint⟩ := batchKey_eq_iff.mp hsame
        exact he ((congrArg Prod.fst (Option.some.inj hgrowing)).trans hendpoint)

/-! ### All resources -/

theorem mem_of_readRequests {rs : List Resource}
    (h : (drawn features rs).mapM readRequest = .ok requests) (hq : q ∈ requests) : q.1 ∈ rs := by
  obtain ⟨d, hd, hread⟩ := exists_of_mem_mapM h hq
  obtain ⟨r, hr, haddress⟩ := List.mem_filterMap.mp hd
  obtain ⟨href, -, rfl⟩ := Option.map_eq_some_iff.mp haddress
  rw [(readRequest_eq_ok_iff.mp hread).1]
  exact hr

/-- If the batches are right after a resource, they are right from this resource on. -/
theorem Met.step (hmet : Met features before run progress)
    (h : Contiguous (features.map (·.folder))) (hfeatures : features = before ++ r :: rest)
    (hrest : ∀ run progress, Met features (before ++ [r]) run progress →
      Answers features run ((drawn features rest).mapM readRequest) (collect progress rest)) :
    Answers features run ((drawn features (r :: rest)).mapM readRequest)
      (collect progress (r :: rest)) := by
  have hplace := hfeatures ▸ h
  obtain ⟨top, htop, hroot⟩ := exists_lastRoot? hplace
  obtain ⟨hid, run', hcurrent, hreach⟩ := hmet.reach hplace.ascending
    fun requests (hrequests : (drawn features (r :: rest)).mapM readRequest = .ok requests) q hq =>
      mem_of_readRequests hrequests hq
  have hcovered := covered_concat features before r
  rw [collect_cons, hmet.covered, drawnFrom?_eq h.ascending hfeatures]
  apply hreach
  cases haddress : address? features r with
  | none =>
      rw [drawn_cons_of_none haddress]
      refine hrest run' _ ⟨?_, hid, hcurrent⟩
      rw [covered_reaching, hmet.covered, hcovered, haddress]
      rfl
  | some href =>
      rw [drawn_cons_of_some haddress, List.mapM_cons, readRequest]
      dsimp only
      cases Url.read href with
      | error e => rfl
      | ok u =>
          dsimp only
          rw [ok_bind, bind_pure_eq_map]
          rw [htop] at hcurrent hid
          obtain ⟨hmem, hdepth⟩ := mem_of_lastRoot? htop
          have hmem : top ∈ features := by
            rw [hfeatures, List.append_cons]
            exact List.mem_append_left _ hmem
          obtain ⟨run'', hcurrent', hdraw⟩ := hcurrent.draw hmem hdepth hroot hid u
          apply hdraw
          refine hrest run'' _ ⟨?_, by rw [htop]; exact hid, by rw [htop]; exact hcurrent'⟩
          rw [hcovered, haddress]
          rfl

/-- The batches that are collected answer the requests of the drawn resources. -/
theorem answers_collect (h : Contiguous (features.map (·.folder)))
    (hfeatures : features = before ++ rest) (hmet : Met features before run progress) :
    Answers features run ((drawn features rest).mapM readRequest) (collect progress rest) := by
  induction rest generalizing before run progress with
  | nil =>
      have hnone : Answers features [] (.ok []) (.ok []) := ⟨[], maximalRuns_nil _, .nil⟩
      have hclosed := hmet.current.closed (by simp) hnone
      rw [map_ok, List.append_nil] at hclosed
      exact hclosed
  | cons r rest ih =>
      refine hmet.step h hfeatures fun run' progress' hmet' => ih ?_ hmet'
      rw [← List.append_cons]
      exact hfeatures

/-- In a valid context, if the addresses of all drawn resources can be read, there is one batch for
each of the longest runs of neighbouring requests that lie in the tree of one root and have the same
endpoint: it names this root and the layers of its requests, and its own request names these layers
too. Otherwise the first address that cannot be read is reported. -/
theorem batches_serve_runs (c : Context) (hvalid : validate c.features = .ok ()) :
    ((∀ d ∈ drawn c.features c.features, ∃ u, Url.read d.2 = .ok u) →
      ∃ requests runs batches,
        List.Forall₂ (fun d q => q.1 = d.1 ∧ Url.read d.2 = .ok q.2)
          (drawn c.features c.features) requests ∧
        MaximalRuns batchKey requests runs ∧ c.batches = .ok batches ∧
        List.Forall₂ (Serves c.features) runs batches) ∧
    ((¬∀ d ∈ drawn c.features c.features, ∃ u, Url.read d.2 = .ok u) →
      ∃ before d after fault, drawn c.features c.features = before ++ d :: after ∧
        (∀ d' ∈ before, ∃ u, Url.read d'.2 = .ok u) ∧ Url.read d.2 = .error fault ∧
        c.batches = .error (.invalidUrl d.2 fault)) := by
  have hstart : Met c.features [] [] ⟨none, none, none⟩ := ⟨rfl, rfl, .idle none⟩
  have hanswers := answers_collect (Forest.contiguous_of_validate hvalid) rfl hstart
  rw [← Context.batches] at hanswers
  have hreadable (d : Resource × String) :
      (∃ q, readRequest d = .ok q) ↔ ∃ u, Url.read d.2 = .ok u := by
    simp [readRequest_eq_ok_iff]
  constructor
  · intro hread
    obtain ⟨requests, hrequests⟩ :=
      exists_mapM_eq_ok_iff.mpr fun d hd => (hreadable d).mpr (hread d hd)
    rw [hrequests] at hanswers
    obtain ⟨runs, batches, hbatches, hruns, hserves⟩ := hanswers.exists_runs
    exact ⟨requests, runs, batches,
      (forall₂_of_mapM hrequests).imp fun d q => readRequest_eq_ok_iff.mp, hruns, hbatches, hserves⟩
  · intro hread
    cases hrequests : (drawn c.features c.features).mapM readRequest with
    | ok requests =>
        have hall := exists_mapM_eq_ok_iff.mp ⟨requests, hrequests⟩
        exact absurd (fun d hd => (hreadable d).mp (hall d hd)) hread
    | error e =>
        obtain ⟨before, d, after, hdrawn, hbefore, hd⟩ := exists_of_mapM_eq_error hrequests
        obtain ⟨fault, hfault, rfl⟩ := readRequest_eq_error_iff.mp hd
        refine ⟨before, d, after, fault, hdrawn, fun d' hd' => (hreadable d').mp (hbefore d' hd'),
          hfault, ?_⟩
        rw [hrequests] at hanswers
        exact hanswers.eq_error

/-- An active resource with a map request. -/
def mapLayer (id : Resource.Id) (folder : FolderPath) (query : String) : Resource :=
  ((Resource.new id folder id).switched true).withOffering
    (.wms "map://city/wms" ("map://city/wms?" ++ query) "image/png")

/-- Streets with two layers of one endpoint, the first of them above a third one, and with two of
another endpoint, which spell the kind of service in different cases. The water beside the streets
has the first endpoint again. -/
def cityMap : Context :=
  let streets : FolderPath := .root 0
  { Context.empty "city" with
    features := [(Resource.new "streets" streets "Streets").switched true,
      mapLayer "roads" (streets.child 0) "LAYERS=roads,,rails",
      mapLayer "bridges" ((streets.child 0).child 0) "LAYERS=bridges",
      mapLayer "paths" (streets.child 1) "layers=paths",
      mapLayer "parks" (streets.child 2) "SERVICE=wms&VERSION=1.3.0&LAYERS=parks",
      mapLayer "trees" (streets.child 3) "version=1.3.0&service=WMS&LAYERS=trees",
      mapLayer "water" (.root 1) "LAYERS=water"] }

/-- The bridges are covered by the roads. The paths share the request of the roads, the trees that
of the parks, and the water has a request of its own. -/
theorem cityMap_batches :
    validate cityMap.features = .ok () ∧ ∃ requests runs batches,
      MaximalRuns batchKey requests runs ∧ cityMap.batches = .ok batches ∧
      List.Forall₂ (Serves cityMap.features) runs batches ∧
      batches.map (fun b => (b.root, b.layers)) =
        [("streets", ["roads", "rails", "paths"]), ("streets", ["parks", "trees"]),
          ("water", ["water"])] := by
  have hvalid : validate cityMap.features = .ok () := by decide
  have hread : ∀ d ∈ drawn cityMap.features cityMap.features, ∃ u, Url.read d.2 = .ok u := by
    have hall : (drawn cityMap.features cityMap.features).all
        (fun d => (Url.read d.2).toOption.any fun _ => true) = true := by decide +kernel
    intro d hd
    obtain ⟨u, hu, -⟩ := exists_eq_ok_of_any (List.all_eq_true.mp hall d hd)
    exact ⟨u, hu⟩
  have hlayers : cityMap.batches.toOption.map (fun bs => bs.map fun b => (b.root, b.layers)) =
      some [("streets", ["roads", "rails", "paths"]), ("streets", ["parks", "trees"]),
        ("water", ["water"])] := by decide +kernel
  obtain ⟨requests, runs, batches, -, hruns, hbatches, hserves⟩ :=
    (batches_serve_runs cityMap hvalid).1 hread
  rw [hbatches] at hlayers
  exact ⟨hvalid, requests, runs, batches, hruns, hbatches, hserves, Option.some.inj hlayers⟩

end MapContext.Context
