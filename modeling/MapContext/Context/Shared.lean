import MapContext.Context.Append

/-!
# Contexts shared between clients

An append is announced before the description of the service is fetched. Of several announced
appends for one address only the latest one is applied, and only once.
-/

namespace MapContext

/-- An announced append. -/
structure Ticket where
  /-- The address of the service. -/
  href : String
  /-- The number of the announcement. -/
  generation : Nat
  deriving DecidableEq

/-- A context with the announcements that are still open. -/
structure Shared where
  /-- The context. -/
  context : Context
  /-- The latest open announcement for an address. -/
  pending : List (String × Nat)
  /-- The number of the next announcement. -/
  next : Nat

namespace Shared

/-- What became of an announced append. -/
inductive Outcome where
  /-- The layers were appended; identifiers of the new resources in document order. -/
  | applied (ids : List Resource.Id)
  /-- A newer append for the same address was announced, or this one was tried before: it was
  applied then, or it failed. -/
  | superseded (generation latest : Nat)
  deriving DecidableEq

/-- A shared context without announcements. -/
def new (context : Context) : Shared := ⟨context, [], 1⟩

/-- Applies an edit if it succeeds. -/
def mutate {α : Type} (s : Shared) (edit : Context → Except Context.Error (Context × α)) :
    Shared × Except Context.Error α :=
  match edit s.context with
  | .ok (context, a) => ({ s with context }, .ok a)
  | .error e => (s, .error e)

/-- The open announcements for other addresses. -/
def withoutPending (s : Shared) (href : String) : List (String × Nat) :=
  s.pending.filter (·.1 != href)

/-- The number of the open announcement for an address; zero if there is none. -/
def latest (s : Shared) (href : String) : Nat :=
  (s.pending.lookup href).getD 0

/-- Announces an append; an open one for the same address is superseded. -/
def announce (s : Shared) (href : String) : Shared × Ticket :=
  ({ s with pending := (href, s.next) :: s.withoutPending href, next := s.next + 1 },
   ⟨href, s.next⟩)

/-- Applies an announced append if its announcement is the open one. The announcement is closed
before the layers are appended. -/
def complete (s : Shared) (ticket : Ticket) (c : Capabilities) (fresh : Nat → Resource.Id) :
    Shared × Except Context.Error Outcome :=
  let latest := s.latest ticket.href
  if latest ≠ ticket.generation then (s, .ok (.superseded ticket.generation latest))
  else
    let closed := { s with pending := s.withoutPending ticket.href }
    match s.context.append ticket.href c fresh with
    | .ok (context, ids) => ({ closed with context }, .ok (.applied ids))
    | .error e => (closed, .error e)

end Shared

end MapContext
