import MapContext.Proofs.Context.Announcing

/-!
# Appends that fail

A ticket is closed before its layers are appended, so an append that fails closes it as well. The
context and the tickets for other addresses stay as they are, but the ticket cannot be tried again:
it is superseded although no newer append was announced.
-/

namespace MapContext.Shared

variable {s : Shared} {t : Ticket} {log : List Event} {c : Capabilities}
  {fresh : Nat → Resource.Id} {e : Context.Error}

/-- An append of this ticket failed. -/
def Failed (log : List Event) (t : Ticket) : Prop :=
  ∃ e, .completed t (.error e) ∈ log

/-- What was tried was applied or failed. -/
theorem tried_iff : Tried log t ↔ Applied log t ∨ Failed log t := by
  constructor
  · rintro ⟨result, hmem, hresult⟩
    rcases result with e | ids | ⟨generation, latest⟩
    · exact .inr ⟨e, hmem⟩
    · exact .inl ⟨ids, hmem⟩
    · exact Bool.noConfusion hresult
  · rintro (⟨ids, hmem⟩ | ⟨e, hmem⟩)
    · exact ⟨_, hmem, rfl⟩
    · exact ⟨_, hmem, rfl⟩

/-! ### One completion -/

/-- The open ticket gets what the append gives. -/
theorem result_complete_of_open (hopen : s.latest t.href = t.generation) (c : Capabilities)
    (fresh : Nat → Resource.Id) :
    (s.complete t c fresh).2 =
      (s.context.append t.href c fresh).map fun appended => .applied appended.2 := by
  rw [complete, if_neg (not_not_intro hopen)]
  cases s.context.append t.href c fresh with
  | error e => rfl
  | ok appended => rfl

/-- An append that fails does nothing but close its ticket. -/
theorem complete_of_append_error (hopen : s.latest t.href = t.generation)
    (hfail : s.context.append t.href c fresh = .error e) :
    s.complete t c fresh = ({ s with pending := s.withoutPending t.href }, .error e) := by
  simp only [complete, if_neg (not_not_intro hopen), hfail]

/-- What an append that fails leaves of a shared context. -/
structure Abandoned (s : Shared) (t : Ticket) (s' : Shared) : Prop where
  /-- The context stays. -/
  context : s'.context = s.context
  /-- No number is given away. -/
  next : s'.next = s.next
  /-- The tickets for other addresses stay. -/
  others (href : String) : href ≠ t.href → s'.latest href = s.latest href
  /-- There is no open ticket for the address. -/
  closed : s'.latest t.href = 0
  /-- So the announcements are not what they were. -/
  changed : s'.pending ≠ s.pending
  /-- A second attempt changes nothing, whatever the service offers. -/
  retry (c : Capabilities) (fresh : Nat → Resource.Id) :
    s'.complete t c fresh = (s', .ok (.superseded t.generation 0))

theorem abandoned_withoutPending (hpos : 0 < t.generation)
    (hopen : s.latest t.href = t.generation) :
    Abandoned s t { s with pending := s.withoutPending t.href } := by
  let s' : Shared := { s with pending := s.withoutPending t.href }
  have hlatest (href : String) : s'.latest href = if href = t.href then 0 else s.latest href :=
    latest_of_pending rfl href
  have hclosed : s'.latest t.href = 0 := by rw [hlatest, if_pos rfl]
  constructor
  case context => rfl
  case next => rfl
  case others =>
    intro href hne
    exact (hlatest href).trans (if_neg hne)
  case closed => exact hclosed
  case changed =>
    intro heq
    have hsame : s'.latest t.href = s.latest t.href :=
      congrArg (fun pending => (List.lookup t.href pending).getD 0) heq
    apply Nat.ne_of_gt hpos
    calc
      t.generation = s.latest t.href := hopen.symm
      _ = s'.latest t.href := hsame.symm
      _ = 0 := hclosed
  case retry =>
    intro c fresh
    have hne : s'.latest t.href ≠ t.generation := hclosed.trans_ne (Nat.ne_of_lt hpos)
    rw [← hclosed]
    exact complete_of_ne hne c fresh

/-! ### Sessions -/

/-- An append that fails leaves the context alone and closes its ticket, which cannot be tried
again. In every session the completion of an issued ticket is superseded if and only if a newer
append was announced for its address, or it was applied before, or it failed before. Otherwise it
gets what the append gives. -/
theorem failed_append_closes_ticket (s : Shared) (context : Context) (calls : List Call)
    (t : Ticket) (c : Capabilities) (fresh : Nat → Resource.Id) :
    (∀ e, 0 < t.generation → s.latest t.href = t.generation →
      s.context.append t.href c fresh = .error e →
      ∃ s', s.complete t c fresh = (s', .error e) ∧ Abandoned s t s') ∧
    (.announced t ∈ (run context calls).log →
      0 < t.generation ∧
      (isSuperseded ((run context calls).shared.complete t c fresh).2 = true ↔
        Overtaken (run context calls).log t ∨ Applied (run context calls).log t ∨
          Failed (run context calls).log t) ∧
      (isSuperseded ((run context calls).shared.complete t c fresh).2 = false →
        ((run context calls).shared.complete t c fresh).2 =
          ((run context calls).shared.context.append t.href c fresh).map
            fun appended => .applied appended.2)) := by
  constructor
  · intro e hpos hopen hfail
    exact ⟨_, complete_of_append_error hopen hfail, abandoned_withoutPending hpos hopen⟩
  · intro ht
    have hcoherent := coherent_run context calls
    have hverdict := isSuperseded_complete_iff (run context calls).shared t c fresh
    refine ⟨(hcoherent.generation ht).1, ?_, ?_⟩
    · rw [hverdict, ne_eq, hcoherent.latest_eq_iff ht, not_not, tried_iff]
    · intro hkept
      apply result_complete_of_open
      by_contra hne
      exact Bool.false_ne_true (hkept.symm.trans (hverdict.mpr hne))

/-- A service whose requests for capabilities go to an address that does not parse. -/
def misdirected : Capabilities :=
  { oneLayer "roads" with capabilitiesHref := some "nowhere" }

/-- An append fails and is tried again with a service that could be appended. -/
def secondAttempt : List Call :=
  [.announce "a:b", .complete "a:b" 0 misdirected fun _ => "first",
    .complete "a:b" 0 (oneLayer "roads") fun _ => "second"]

/-- The second attempt is superseded though no newer append was announced and the service could be
appended: the failed append has changed the announcements. -/
theorem second_attempt_superseded :
    (run (Context.empty "map") secondAttempt).log =
      [.completed ⟨"a:b", 1⟩ (.ok (.superseded 1 0)),
        .completed ⟨"a:b", 1⟩ (.error (.invalidUrl "nowhere" .noScheme)),
        .announced ⟨"a:b", 1⟩] ∧
    ((Context.empty "map").append "a:b" (oneLayer "roads") fun _ => "second").toOption.isSome =
      true ∧
    (run (Context.empty "map") (secondAttempt.take 1)).shared.pending = [("a:b", 1)] ∧
    (run (Context.empty "map") (secondAttempt.take 2)).shared.pending = [] := by
  decide +kernel

/-- The ticket of an append that failed is closed, as the log of the session tells. -/
theorem misdirected_append_abandoned :
    (run (Context.empty "map") [.announce "a:b"]).shared.context.append "a:b" misdirected
        (fun _ => "first") = .error (.invalidUrl "nowhere" .noScheme) ∧
      (∃ s', (run (Context.empty "map") [.announce "a:b"]).shared.complete ⟨"a:b", 1⟩ misdirected
          (fun _ => "first") = (s', .error (.invalidUrl "nowhere" .noScheme)) ∧
        Abandoned (run (Context.empty "map") [.announce "a:b"]).shared ⟨"a:b", 1⟩ s') ∧
      Failed (run (Context.empty "map") (secondAttempt.take 2)).log ⟨"a:b", 1⟩ ∧
      isSuperseded ((run (Context.empty "map") (secondAttempt.take 2)).shared.complete ⟨"a:b", 1⟩
        (oneLayer "roads") fun _ => "second").2 = true := by
  have hfail : (run (Context.empty "map") [.announce "a:b"]).shared.context.append "a:b"
      misdirected (fun _ => "first") = .error (.invalidUrl "nowhere" .noScheme) := by
    rfl
  have hlog : (run (Context.empty "map") (secondAttempt.take 2)).log =
      [.completed ⟨"a:b", 1⟩ (.error (.invalidUrl "nowhere" .noScheme)),
        .announced ⟨"a:b", 1⟩] := by
    decide +kernel
  have hfailed : Failed (run (Context.empty "map") (secondAttempt.take 2)).log ⟨"a:b", 1⟩ := by
    refine ⟨.invalidUrl "nowhere" .noScheme, ?_⟩
    rw [hlog]
    exact List.mem_cons_self
  obtain ⟨hstate, -⟩ := failed_append_closes_ticket
    (run (Context.empty "map") [.announce "a:b"]).shared (Context.empty "map") [] ⟨"a:b", 1⟩
    misdirected fun _ => "first"
  obtain ⟨-, hsession⟩ := failed_append_closes_ticket (new (Context.empty "map"))
    (Context.empty "map") (secondAttempt.take 2) ⟨"a:b", 1⟩ (oneLayer "roads") fun _ => "second"
  have hannounced : .announced ⟨"a:b", 1⟩ ∈
      (run (Context.empty "map") (secondAttempt.take 2)).log := by
    rw [hlog]
    exact List.mem_cons_of_mem _ List.mem_cons_self
  obtain ⟨-, hsuperseded, -⟩ := hsession hannounced
  refine ⟨hfail, ?_, hfailed, ?_⟩
  · exact hstate _ Nat.one_pos rfl hfail
  · exact hsuperseded.mpr (.inr (.inr hfailed))

end MapContext.Shared
