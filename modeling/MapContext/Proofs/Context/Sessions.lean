import Mathlib.Data.List.Induction
import MapContext.Context.Shared
import MapContext.Proofs.Context.Reachable

/-!
# Sessions of a shared context

Clients announce appends, complete them late, repeatedly or never, and edit the context in between.
The log of a session keeps what was announced and what became of each completion. The numbers that
are open can be read off the log: a ticket is open as long as no other one was announced later for
its address and it was not tried yet.
-/

namespace MapContext.Shared

variable {s : Shared} {t t' : Ticket} {href : String}

/-! ### Calls and what is logged of them -/

/-- A call of a client. The ticket of a completion is named by its address and by the number of
tickets that were issued for this address before it. -/
inductive Call : Type 1 where
  /-- Announces an append. -/
  | announce (href : String)
  /-- Completes an announced append. -/
  | complete (href : String) (n : Nat) (capabilities : Capabilities) (fresh : Nat → Resource.Id)
  /-- Edits the context. -/
  | mutate {α : Type} (edit : Context → Except Context.Error (Context × α))

/-- What is logged of a call. -/
inductive Event where
  /-- A ticket was issued. -/
  | announced (t : Ticket)
  /-- A ticket was completed. -/
  | completed (t : Ticket) (result : Except Context.Error Outcome)
  deriving DecidableEq

/-- The tickets for an address in the order in which they were issued; the log begins with the
latest event. -/
def issued (href : String) : List Event → List Ticket
  | [] => []
  | .announced t :: es => if t.href = href then issued href es ++ [t] else issued href es
  | .completed _ _ :: es => issued href es

/-- A shared context with the log of the calls that led to it, latest first. -/
structure Session where
  /-- The shared context. -/
  shared : Shared
  /-- The events, latest first. -/
  log : List Event

/-- The session after one more call. A ticket that was not issued cannot be completed. -/
def Session.step (x : Session) : Call → Session
  | .announce href => ⟨(x.shared.announce href).1, .announced (x.shared.announce href).2 :: x.log⟩
  | .complete href n c fresh =>
    match (issued href x.log)[n]? with
    | none => x
    | some t =>
      ⟨(x.shared.complete t c fresh).1, .completed t (x.shared.complete t c fresh).2 :: x.log⟩
  | .mutate edit => ⟨(x.shared.mutate edit).1, x.log⟩

/-- The session of some calls on a context. -/
def run (context : Context) (calls : List Call) : Session :=
  calls.foldl Session.step ⟨new context, []⟩

theorem run_append (context : Context) (calls : List Call) (call : Call) :
    run context (calls ++ [call]) = (run context calls).step call := by
  simp [run]

/-- Whether a completion was dropped. -/
def isSuperseded : Except Context.Error Outcome → Bool
  | .ok (.superseded _ _) => true
  | _ => false

/-- The layers of this ticket were appended. -/
def Applied (log : List Event) (t : Ticket) : Prop :=
  ∃ ids, .completed t (.ok (.applied ids)) ∈ log

/-- The append of this ticket was tried. -/
def Tried (log : List Event) (t : Ticket) : Prop :=
  ∃ result, .completed t result ∈ log ∧ isSuperseded result = false

/-- One event comes after another one. -/
def After (log : List Event) (later earlier : Event) : Prop :=
  [later, earlier].Sublist log

/-- Another append was announced later for the same address. -/
def Overtaken (log : List Event) (t : Ticket) : Prop :=
  ∃ t' : Ticket, t'.href = t.href ∧ After log (.announced t') (.announced t)

/-- Each of two appends is announced before the other one is completed. -/
def Overlap (log : List Event) (t t' : Ticket) : Prop :=
  ∀ result, ¬After log (.announced t') (.completed t result) ∧
    ¬After log (.announced t) (.completed t' result)

/-- No append that was tried failed. -/
def Flawless (log : List Event) : Prop :=
  ∀ t e, .completed t (.error e) ∉ log

theorem after_cons {e later earlier : Event} {log : List Event} :
    After (e :: log) later earlier ↔ After log later earlier ∨ later = e ∧ earlier ∈ log := by
  rw [After, List.sublist_cons_iff, After]
  simp

theorem not_after_nil {later earlier : Event} : ¬After [] later earlier :=
  fun h => List.not_mem_nil (h.subset List.mem_cons_self)

theorem after_or_after {e e' : Event} {log : List Event} (h : e ∈ log) (h' : e' ∈ log)
    (hne : e ≠ e') : After log e e' ∨ After log e' e := by
  induction log with
  | nil => exact absurd h List.not_mem_nil
  | cons a as ih =>
      rw [after_cons, after_cons]
      rcases List.mem_cons.mp h with hhead | hrest
      · rcases List.mem_cons.mp h' with hhead' | hrest'
        · exact absurd (hhead.trans hhead'.symm) hne
        · exact .inl (.inr ⟨hhead, hrest'⟩)
      · rcases List.mem_cons.mp h' with hhead' | hrest'
        · exact .inr (.inr ⟨hhead', hrest⟩)
        · exact (ih hrest hrest').imp .inl .inl

/-- If no append fails, what was tried was applied. -/
theorem Flawless.tried_iff {log : List Event} (h : Flawless log) : Tried log t ↔ Applied log t := by
  constructor
  · rintro ⟨result, hmem, hresult⟩
    rcases result with e | ids | ⟨generation, latest⟩
    · exact absurd hmem (h t e)
    · exact ⟨ids, hmem⟩
    · exact Bool.noConfusion hresult
  · rintro ⟨ids, hmem⟩
    exact ⟨_, hmem, rfl⟩

/-! ### One call -/

theorem lookup_withoutPending (s : Shared) (href h : String) :
    (s.withoutPending href).lookup h = if h = href then none else s.pending.lookup h := by
  unfold withoutPending
  induction s.pending with
  | nil => simp
  | cons entry rest ih =>
      obtain ⟨key, n⟩ := entry
      by_cases hkey : key = href
      · rw [List.filter_cons_of_neg (by simp [hkey]), ih]
        split
        · rfl
        · have hne : (h == key) = false := by
            simp only [beq_eq_false_iff_ne, hkey]
            assumption
          rw [List.lookup_cons, hne]
      · rw [List.filter_cons_of_pos (by simpa using hkey), List.lookup_cons, List.lookup_cons, ih]
        cases hh : h == key with
        | false => rfl
        | true => simp [eq_of_beq hh, hkey]

theorem latest_announce (s : Shared) (href h : String) :
    (s.announce href).1.latest h = if h = href then s.next else s.latest h := by
  rw [latest, latest, announce, List.lookup_cons, lookup_withoutPending]
  by_cases hh : h = href
  · simp [hh]
  · rw [beq_eq_false_iff_ne.mpr hh, if_neg hh, if_neg hh]

theorem latest_of_pending {s' : Shared} (h : s'.pending = s.withoutPending href) (k : String) :
    s'.latest k = if k = href then 0 else s.latest k := by
  rw [latest, h, lookup_withoutPending]
  split <;> rfl

theorem pending_mutate {α : Type} (s : Shared)
    (edit : Context → Except Context.Error (Context × α)) :
    (s.mutate edit).1.pending = s.pending ∧ (s.mutate edit).1.next = s.next := by
  unfold mutate
  split <;> exact ⟨rfl, rfl⟩

theorem latest_mutate {α : Type} (s : Shared)
    (edit : Context → Except Context.Error (Context × α)) (h : String) :
    (s.mutate edit).1.latest h = s.latest h := by
  rw [latest, (pending_mutate s edit).1, latest]

/-- A ticket that is not the open one changes nothing. -/
theorem complete_of_ne (h : s.latest t.href ≠ t.generation) (c : Capabilities)
    (fresh : Nat → Resource.Id) :
    s.complete t c fresh = (s, .ok (.superseded t.generation (s.latest t.href))) := by
  rw [complete, if_pos h]

/-- The open ticket is tried and closed, whatever comes of it. -/
theorem complete_of_eq (h : s.latest t.href = t.generation) (c : Capabilities)
    (fresh : Nat → Resource.Id) :
    (s.complete t c fresh).1.pending = s.withoutPending t.href ∧
      (s.complete t c fresh).1.next = s.next ∧ isSuperseded (s.complete t c fresh).2 = false := by
  rw [complete, if_neg (not_not_intro h)]
  cases s.context.append t.href c fresh with
  | error e => exact ⟨rfl, rfl, rfl⟩
  | ok appended => exact ⟨rfl, rfl, rfl⟩

theorem isSuperseded_complete_iff (s : Shared) (t : Ticket) (c : Capabilities)
    (fresh : Nat → Resource.Id) :
    isSuperseded (s.complete t c fresh).2 = true ↔ s.latest t.href ≠ t.generation := by
  by_cases h : s.latest t.href = t.generation
  · rw [(complete_of_eq h c fresh).2.2]
    exact iff_of_false Bool.false_ne_true (not_not_intro h)
  · rw [complete_of_ne h]
    exact iff_of_true rfl h

theorem next_complete (s : Shared) (t : Ticket) (c : Capabilities) (fresh : Nat → Resource.Id) :
    (s.complete t c fresh).1.next = s.next := by
  by_cases h : s.latest t.href = t.generation
  · exact (complete_of_eq h c fresh).2.1
  · rw [complete_of_ne h]

theorem latest_complete_of_ne (hhref : href ≠ t.href) (c : Capabilities)
    (fresh : Nat → Resource.Id) : (s.complete t c fresh).1.latest href = s.latest href := by
  by_cases h : s.latest t.href = t.generation
  · rw [latest_of_pending (complete_of_eq h c fresh).1, if_neg hhref]
  · rw [complete_of_ne h]

/-- A completion closes its own ticket and no other one. -/
theorem latest_complete_iff {u : Ticket} (hhref : u.href = t.href) (hpos : 0 < u.generation)
    (c : Capabilities) (fresh : Nat → Resource.Id) :
    (s.complete t c fresh).1.latest u.href = u.generation ↔
      u ≠ t ∧ s.latest u.href = u.generation := by
  by_cases h : s.latest t.href = t.generation
  · rw [latest_of_pending (complete_of_eq h c fresh).1, if_pos hhref]
    refine iff_of_false (Nat.ne_of_lt hpos) ?_
    rintro ⟨hne, hu⟩
    apply hne
    have hgeneration : u.generation = t.generation := by rw [← hu, hhref, h]
    cases u
    cases t
    exact congrArg₂ Ticket.mk hhref hgeneration
  · rw [complete_of_ne h]
    constructor
    · intro hu
      refine ⟨?_, hu⟩
      rintro rfl
      exact h hu
    · exact And.right

/-- An applied append is an append to the present context. -/
theorem append_of_complete {c : Capabilities} {fresh : Nat → Resource.Id}
    {ids : List Resource.Id} (h : (s.complete t c fresh).2 = .ok (.applied ids)) :
    s.context.append t.href c fresh = .ok ((s.complete t c fresh).1.context, ids) := by
  by_cases hopen : s.latest t.href = t.generation
  · rw [complete, if_neg (not_not_intro hopen)] at h ⊢
    cases happend : s.context.append t.href c fresh with
    | error e => simp [happend] at h
    | ok appended =>
        simp only [happend, Except.ok.injEq, Outcome.applied.injEq] at h ⊢
        rw [← h]
  · rw [complete_of_ne hopen] at h
    cases h

/-- An append that is completed right after its announcement is never superseded: it is the append
to the context. -/
theorem complete_announce (s : Shared) (href : String) (c : Capabilities)
    (fresh : Nat → Resource.Id) :
    ((s.announce href).1.complete (s.announce href).2 c fresh).2 =
        (s.context.append href c fresh).map (fun appended => .applied appended.2) ∧
      ∀ context ids, s.context.append href c fresh = .ok (context, ids) →
        ((s.announce href).1.complete (s.announce href).2 c fresh).1.context = context := by
  have hopen : (s.announce href).1.latest (s.announce href).2.href =
      (s.announce href).2.generation := by
    rw [latest_announce]
    exact if_pos rfl
  have hcontext : (s.announce href).1.context = s.context := rfl
  have hhref : (s.announce href).2.href = href := rfl
  rw [complete, if_neg (not_not_intro hopen), hcontext, hhref]
  cases s.context.append href c fresh with
  | error e => exact ⟨rfl, fun _ _ h => nomatch h⟩
  | ok appended =>
      refine ⟨rfl, fun context ids h => ?_⟩
      cases h
      rfl

/-! ### The log explains the open numbers -/

/-- Every completion in a log was superseded if and only if its ticket was overtaken or tried
before. -/
def Explained : List Event → Prop
  | [] => True
  | .announced _ :: es => Explained es
  | .completed t result :: es =>
    (isSuperseded result = true ↔ Overtaken es t ∨ Tried es t) ∧ Explained es

/-- A log accounts for the open numbers of a shared context. -/
structure Coherent (s : Shared) (log : List Event) : Prop where
  /-- Numbers are given from one on. -/
  next_pos : 0 < s.next
  /-- The numbers given so far. -/
  generation : ∀ {t}, .announced t ∈ log → 0 < t.generation ∧ t.generation < s.next
  /-- Numbers grow. -/
  ascending : ∀ {t t'}, After log (.announced t') (.announced t) → t.generation < t'.generation
  /-- Only issued tickets are completed. -/
  announced : ∀ {t result}, .completed t result ∈ log → .announced t ∈ log
  /-- No number above the open one was given for its address. -/
  latest : ∀ {t}, .announced t ∈ log → s.latest t.href = 0 ∨ t.generation ≤ s.latest t.href
  /-- The open tickets are those that were neither overtaken nor tried. -/
  latest_eq_iff : ∀ {t}, .announced t ∈ log →
    (s.latest t.href = t.generation ↔ ¬(Overtaken log t ∨ Tried log t))
  /-- So it was at every completion. -/
  explained : Explained log

theorem mem_of_mem_issued {log : List Event} (h : t ∈ issued href log) :
    t.href = href ∧ .announced t ∈ log := by
  induction log with
  | nil => exact absurd h List.not_mem_nil
  | cons e es ih =>
      cases e with
      | announced u =>
          rw [issued] at h
          split at h
          · rcases List.mem_append.mp h with h | h
            · exact (ih h).imp_right (List.mem_cons_of_mem _)
            · obtain rfl := List.mem_singleton.mp h
              exact ⟨‹_›, List.mem_cons_self⟩
          · exact (ih h).imp_right (List.mem_cons_of_mem _)
      | completed u result => exact (ih h).imp_right (List.mem_cons_of_mem _)

theorem tried_announced {log : List Event} {u : Ticket} :
    Tried (.announced u :: log) t ↔ Tried log t := by
  simp [Tried]

theorem overtaken_completed {log : List Event} {u : Ticket} {result} :
    Overtaken (.completed u result :: log) t ↔ Overtaken log t := by
  simp [Overtaken, after_cons]

theorem tried_completed {log : List Event} {u : Ticket} {result} :
    Tried (.completed u result :: log) t ↔ Tried log t ∨ t = u ∧ isSuperseded result = false := by
  constructor
  · rintro ⟨r, hmem, hr⟩
    rcases List.mem_cons.mp hmem with h | hmem
    · obtain ⟨rfl, rfl⟩ := Event.completed.inj h
      exact .inr ⟨rfl, hr⟩
    · exact .inl ⟨r, hmem, hr⟩
  · rintro (⟨r, hmem, hr⟩ | ⟨rfl, hr⟩)
    · exact ⟨r, List.mem_cons_of_mem _ hmem, hr⟩
    · exact ⟨result, List.mem_cons_self, hr⟩

theorem overtaken_announced {log : List Event} {u : Ticket} :
    Overtaken (.announced u :: log) t ↔
      Overtaken log t ∨ u.href = t.href ∧ .announced t ∈ log := by
  simp only [Overtaken, after_cons, Event.announced.injEq]
  constructor
  · rintro ⟨t', hhref, hafter | ⟨rfl, hmem⟩⟩
    · exact .inl ⟨t', hhref, hafter⟩
    · exact .inr ⟨hhref, hmem⟩
  · rintro (⟨t', hhref, hafter⟩ | ⟨hhref, hmem⟩)
    · exact ⟨t', hhref, .inl hafter⟩
    · exact ⟨u, hhref, .inr ⟨rfl, hmem⟩⟩

theorem mem_of_after {log : List Event} {later earlier : Event} (h : After log later earlier) :
    later ∈ log ∧ earlier ∈ log :=
  ⟨h.subset List.mem_cons_self, h.subset (List.mem_cons_of_mem _ List.mem_cons_self)⟩

variable {log : List Event}

theorem coherent_new (context : Context) : Coherent (new context) [] where
  next_pos := Nat.one_pos
  generation h := absurd h List.not_mem_nil
  ascending h := absurd (mem_of_after h).1 List.not_mem_nil
  announced h := absurd h List.not_mem_nil
  latest h := absurd h List.not_mem_nil
  latest_eq_iff h := absurd h List.not_mem_nil
  explained := trivial

/-- An announcement gives the next number, which is then the open one for its address. -/
theorem Coherent.announce (h : Coherent s log) (href : String) :
    Coherent (s.announce href).1 (.announced (s.announce href).2 :: log) := by
  have hticket : (s.announce href).2 = ⟨href, s.next⟩ := rfl
  have hnext : (s.announce href).1.next = s.next + 1 := rfl
  rw [hticket]
  constructor
  case next_pos =>
    rw [hnext]
    exact Nat.succ_pos _
  case generation =>
    intro t ht
    rw [hnext]
    rcases List.mem_cons.mp ht with heq | ht
    · obtain rfl := Event.announced.inj heq
      exact ⟨h.next_pos, Nat.lt_succ_self _⟩
    · exact ⟨(h.generation ht).1, Nat.lt_succ_of_lt (h.generation ht).2⟩
  case ascending =>
    intro t t' hafter
    rcases after_cons.mp hafter with hafter | ⟨heq, ht⟩
    · exact h.ascending hafter
    · obtain rfl := Event.announced.inj heq
      exact (h.generation ht).2
  case announced =>
    intro t result hmem
    rcases List.mem_cons.mp hmem with heq | hmem
    · cases heq
    · exact List.mem_cons_of_mem _ (h.announced hmem)
  case latest =>
    intro t ht
    rw [latest_announce]
    rcases List.mem_cons.mp ht with heq | ht
    · obtain rfl := Event.announced.inj heq
      exact .inr (Nat.le_of_eq (if_pos rfl).symm)
    · split
      · exact .inr (Nat.le_of_lt (h.generation ht).2)
      · exact h.latest ht
  case latest_eq_iff =>
    intro t ht
    rw [latest_announce, overtaken_announced, tried_announced]
    rcases List.mem_cons.mp ht with heq | ht
    · -- the new number is above all others, so its ticket is neither overtaken nor tried
      obtain rfl := Event.announced.inj heq
      have hnew : .announced ⟨href, s.next⟩ ∉ log := by
        intro hmem
        exact Nat.lt_irrefl _ (h.generation hmem).2
      refine iff_of_true (if_pos rfl) ?_
      rintro ((⟨t', -, hafter⟩ | ⟨-, hmem⟩) | ⟨result, hmem, -⟩)
      · exact hnew (mem_of_after hafter).2
      · exact hnew hmem
      · exact hnew (h.announced hmem)
    · by_cases hhref : t.href = href
      · rw [if_pos hhref]
        refine iff_of_false (Nat.ne_of_gt (h.generation ht).2) ?_
        exact not_not_intro (.inl (.inr ⟨hhref.symm, ht⟩))
      · have hother : ¬(href = t.href ∧ .announced t ∈ log) := fun hhref' => hhref hhref'.1.symm
        rw [if_neg hhref, h.latest_eq_iff ht, or_iff_left hother]
  case explained => exact h.explained

/-- A completion was dropped if its ticket was overtaken or tried, and counts as tried if not. -/
theorem Coherent.complete (h : Coherent s log) (ht : .announced t ∈ log) (c : Capabilities)
    (fresh : Nat → Resource.Id) :
    Coherent (s.complete t c fresh).1 (.completed t (s.complete t c fresh).2 :: log) := by
  have hverdict : isSuperseded (s.complete t c fresh).2 = true ↔
      Overtaken log t ∨ Tried log t := by
    rw [isSuperseded_complete_iff, ne_eq, h.latest_eq_iff ht, not_not]
  have hissued : ∀ {u}, .announced u ∈ Event.completed t (s.complete t c fresh).2 :: log →
      .announced u ∈ log := by
    intro u hu
    exact (List.mem_cons.mp hu).resolve_left Event.noConfusion
  constructor
  case next_pos =>
    rw [next_complete]
    exact h.next_pos
  case generation =>
    intro u hu
    rw [next_complete]
    exact h.generation (hissued hu)
  case ascending =>
    intro u u' hafter
    rcases after_cons.mp hafter with hafter | ⟨heq, -⟩
    · exact h.ascending hafter
    · cases heq
  case announced =>
    intro u result hmem
    rcases List.mem_cons.mp hmem with heq | hmem
    · obtain ⟨rfl, -⟩ := Event.completed.inj heq
      exact List.mem_cons_of_mem _ ht
    · exact List.mem_cons_of_mem _ (h.announced hmem)
  case latest =>
    intro u hu
    by_cases hopen : s.latest t.href = t.generation
    · rw [latest_of_pending (complete_of_eq hopen c fresh).1]
      split
      · exact .inl rfl
      · exact h.latest (hissued hu)
    · rw [complete_of_ne hopen]
      exact h.latest (hissued hu)
  case latest_eq_iff =>
    intro u hu
    replace hu := hissued hu
    rw [overtaken_completed, tried_completed]
    by_cases hhref : u.href = t.href
    · rw [latest_complete_iff hhref (h.generation hu).1, h.latest_eq_iff hu]
      constructor
      · rintro ⟨hne, hopen⟩ (hovertaken | htried | ⟨rfl, -⟩)
        · exact hopen (.inl hovertaken)
        · exact hopen (.inr htried)
        · exact hne rfl
      · intro hopen
        have hbefore : ¬(Overtaken log u ∨ Tried log u) := fun h => hopen (h.imp_right .inl)
        refine ⟨?_, hbefore⟩
        rintro rfl
        have hdropped : isSuperseded (s.complete u c fresh).2 = false :=
          Bool.eq_false_iff.mpr fun hdropped => hbefore (hverdict.mp hdropped)
        exact hopen (.inr (.inr ⟨rfl, hdropped⟩))
    · have hother : ¬(u = t ∧ isSuperseded (s.complete t c fresh).2 = false) := by
        rintro ⟨rfl, -⟩
        exact hhref rfl
      rw [latest_complete_of_ne hhref, h.latest_eq_iff hu, or_iff_left hother]
  case explained => exact ⟨hverdict, h.explained⟩

/-- An edit leaves the numbers alone. -/
theorem Coherent.mutate (h : Coherent s log) {α : Type}
    (edit : Context → Except Context.Error (Context × α)) : Coherent (s.mutate edit).1 log := by
  have hnext := (pending_mutate s edit).2
  refine ⟨hnext ▸ h.next_pos, ?_, h.ascending, h.announced, ?_, ?_, h.explained⟩
  · rw [hnext]
    exact h.generation
  · intro t ht
    rw [latest_mutate]
    exact h.latest ht
  · intro t ht
    rw [latest_mutate]
    exact h.latest_eq_iff ht

theorem coherent_run (context : Context) (calls : List Call) :
    Coherent (run context calls).shared (run context calls).log := by
  induction calls using List.reverseRecOn with
  | nil => exact coherent_new context
  | append_singleton calls call ih =>
      rw [run_append]
      cases call with
      | announce href => exact ih.announce href
      | complete href n c fresh =>
          rw [Session.step]
          cases hticket : (issued href (run context calls).log)[n]? with
          | none => exact ih
          | some t =>
              obtain ⟨-, ht⟩ := mem_of_mem_issued (List.mem_of_getElem? hticket)
              exact ih.complete ht c fresh
      | mutate edit => exact ih.mutate edit

end MapContext.Shared
