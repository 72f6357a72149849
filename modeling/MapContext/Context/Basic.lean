import MapContext.Capabilities.Basic
import MapContext.Context.Validity
import MapContext.Crs

/-!
# Map contexts

A context is a list of resources in document order, which describes a layer tree, with metadata,
the descriptions of the services it was built from, and the reference systems that its active
resources share.
-/

namespace MapContext

/-- Metadata of a context. -/
structure Context.Properties where
  /-- The title. -/
  title : String := ""
  /-- A second title. -/
  subtitle : Option String := none
  /-- The time of the last change. -/
  updated : Option Instant := none
  /-- The language. -/
  lang : Option String := none
  /-- Other members, sorted by key. -/
  extension : Json.Members := []
  deriving BEq

/-- The description of a service and the resources that were built from it. -/
structure Context.Service where
  /-- The description. -/
  capabilities : Capabilities
  /-- Identifiers of resources, in the order of their creation. -/
  resources : List Resource.Id

/-- A layer tree with its metadata. -/
structure Context where
  /-- The identifier. -/
  id : String
  /-- The metadata. -/
  properties : Context.Properties
  /-- The resources in document order. -/
  features : List Resource
  /-- Services by the address they were appended with. -/
  services : List (String × Context.Service)
  /-- Reference systems that the active resources share. -/
  crs : List String

namespace Context

/-- The reference systems shared by all active resources that declare any, in the order of the
first of them. -/
def sharedCrs (features : List Resource) : List String :=
  let declared := (features.filter fun r => r.isActive && !r.properties.crs.isEmpty).map
    fun r => r.properties.crs.map Crs.normalize
  match declared with
  | [] => []
  | first :: rest => rest.foldl (fun acc codes => acc.filter codes.contains) first.eraseDups

/-- A context without resources. -/
def empty (id : String) : Context := ⟨id, {}, [], [], []⟩

/-- The context with its shared reference systems computed anew. -/
def refreshCrs (c : Context) : Context := { c with crs := sharedCrs c.features }

/-- A context over resources that already stand in document order. -/
def new (id : String) (features : List Resource) : Except Error Context := do
  validate features
  return { empty id with features }.refreshCrs

/-- The first shared reference system that a client draws natively. -/
def preferredCrs? (c : Context) : Option Crs.Native :=
  c.crs.findSome? Crs.native?

/-- Sorts resources into document order and puts them into the context, if their order is valid. -/
def commit (c : Context) (staged : List Resource) : Except Error Context := do
  let features := staged.mergeSort fun a b => decide (a.folder ≤ b.folder)
  validate features
  return { c with features }

end Context

end MapContext
