import MapContext.Context.Basic
import MapContext.MapRequest

/-!
# Batches of map requests

Consecutive resources that are drawn from the same endpoint share one request for all of their
layers. Batches follow document order and never reach from one root into the next. A resource that
is drawn covers everything below it.
-/

namespace MapContext

/-- One map request for one or more resources. -/
structure Batch where
  /-- The root to which the resources belong. -/
  root : Resource.Id
  /-- The request. -/
  url : Url
  /-- The requested layers. -/
  layers : List String
  deriving DecidableEq

namespace Batch

/-- The layers that a request names; empty entries are none. -/
def namedLayers (u : Url) : List String :=
  match u.param? "LAYERS" with
  | some v => (Text.splitAtChar ',' v).filter (! ·.isEmpty)
  | none => []

/-- What is known while resources are met. -/
structure Progress where
  /-- The batch that may still grow, with its endpoint. -/
  current : Option (MapRequest.Endpoint × Batch)
  /-- The folder of the last drawn resource. -/
  covered : Option FolderPath
  /-- The last root. -/
  root : Option Resource.Id

/-- The address from which a resource is drawn, if it is to be drawn. -/
def drawnFrom? (covered : Option FolderPath) (r : Resource) : Option String :=
  if covered.any (·.isAncestorOf r.folder) || !r.isActive then none else r.mapHref?

/-- The batches of resources. -/
def collect (progress : Progress) : List Resource → Except Context.Error (List Batch)
  | [] => .ok (progress.current.map (·.2)).toList
  | r :: rs => do
    let isRoot := r.depth == 0
    let finished := if isRoot then (progress.current.map (·.2)).toList else []
    let progress := if isRoot then { progress with current := none, root := some r.id }
      else progress
    match drawnFrom? progress.covered r with
    | none => do
      let batches ← collect progress rs
      return finished ++ batches
    | some href =>
      match Url.read href with
      | .error e => .error (.invalidUrl href e)
      | .ok u =>
        let endpoint := MapRequest.Endpoint.of u
        let fresh : Batch := ⟨progress.root.getD r.id, u, namedLayers u⟩
        let covered := some r.folder
        match progress.current with
        | some (e, batch) =>
          if e = endpoint then do
            let grown : Batch :=
              { batch with
                url := MapRequest.merge batch.url u
                layers := batch.layers ++ fresh.layers }
            let batches ← collect { progress with current := some (e, grown), covered } rs
            return finished ++ batches
          else do
            let batches ← collect { progress with current := some (endpoint, fresh), covered } rs
            return finished ++ batch :: batches
        | none => do
          let batches ← collect { progress with current := some (endpoint, fresh), covered } rs
          return finished ++ batches

end Batch

/-- The map requests that draw the active resources. -/
def Context.batches (c : Context) : Except Context.Error (List Batch) :=
  Batch.collect ⟨none, none, none⟩ c.features

end MapContext
