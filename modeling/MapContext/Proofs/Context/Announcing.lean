import Mathlib.Data.Set.Pairwise.Basic
import MapContext.Proofs.Context.Sessions

/-!
# Announced appends

What becomes of an announced append follows from the log of the session. Of overlapping appends for
one address at most the last one is applied, and only once. Seen from one address, a session is a
list of signals: a ticket is issued, or the ticket of a number is completed. Calls for other
addresses do not appear in it.
-/

namespace MapContext.Shared

variable {s : Shared} {t t' : Ticket} {href : String} {log : List Event}

/-! ### Overlapping appends -/

/-- Whether an event is the append of a ticket. -/
def isAppendOf (t : Ticket) : Event → Bool
  | .completed u (.ok (.applied _)) => u = t
  | _ => false

theorem isAppendOf_iff {e : Event} :
    isAppendOf t e = true ↔ ∃ ids, e = .completed t (.ok (.applied ids)) := by
  unfold isAppendOf
  split
  · simp [eq_comm]
  · simp_all

/-- No ticket is applied twice. -/
theorem Explained.countP_le_one (h : Explained log) (t : Ticket) :
    log.countP (isAppendOf t) ≤ 1 := by
  induction log with
  | nil => exact Nat.zero_le _
  | cons e es ih =>
      by_cases happend : isAppendOf t e = true
      · obtain ⟨ids, rfl⟩ := isAppendOf_iff.mp happend
        have hfirst : ¬(Overtaken es t ∨ Tried es t) := fun hbefore =>
          Bool.false_ne_true (h.1.mpr hbefore)
        have hnone : es.countP (isAppendOf t) = 0 := by
          rw [List.countP_eq_zero]
          intro e he happend
          obtain ⟨ids, rfl⟩ := isAppendOf_iff.mp happend
          exact hfirst (.inr ⟨_, he, rfl⟩)
        rw [List.countP_cons_of_pos happend, hnone]
      · rw [List.countP_cons_of_neg happend]
        cases e with
        | announced u => exact ih h
        | completed u result => exact ih h.2

/-- A ticket that was applied was overtaken only afterwards. -/
theorem Explained.after_append (h : Explained log) {ids : List Resource.Id}
    (hhref : t'.href = t.href) (hafter : After log (.announced t') (.announced t))
    (happlied : .completed t (.ok (.applied ids)) ∈ log) :
    After log (.announced t') (.completed t (.ok (.applied ids))) := by
  induction log with
  | nil => exact absurd happlied List.not_mem_nil
  | cons e es ih =>
      rw [after_cons] at hafter ⊢
      cases e with
      | announced u =>
          have hpast : .completed t (.ok (.applied ids)) ∈ es :=
            (List.mem_cons.mp happlied).resolve_left Event.noConfusion
          rcases hafter with hafter | ⟨heq, -⟩
          · exact .inl (ih h hafter hpast)
          · exact .inr ⟨heq, hpast⟩
      | completed u result =>
          have hpast : After es (.announced t') (.announced t) :=
            hafter.resolve_right fun hnow => Event.noConfusion hnow.1
          rcases List.mem_cons.mp happlied with heq | hmem
          · obtain ⟨rfl, rfl⟩ := Event.completed.inj heq
            exact absurd (h.1.mpr (.inl ⟨t', hhref, hpast⟩)) Bool.false_ne_true
          · exact .inl (ih h.2 hpast hmem)

/-- Of two overlapping appends for one address only the one announced last can be applied. -/
theorem Coherent.after_of_applied (h : Coherent s log) (ht' : .announced t' ∈ log)
    (hhref : t'.href = t.href) (hne : t' ≠ t) (hoverlap : Overlap log t t')
    (happlied : Applied log t) : After log (.announced t) (.announced t') := by
  obtain ⟨ids, hmem⟩ := happlied
  have hevents : Event.announced t ≠ .announced t' := fun heq => hne (Event.announced.inj heq).symm
  apply (after_or_after (h.announced hmem) ht' hevents).resolve_right
  intro hafter
  exact (hoverlap (.ok (.applied ids))).1 (h.explained.after_append hhref hafter hmem)

theorem Overlap.symm (h : Overlap log t t') : Overlap log t' t :=
  fun result => (h result).symm

theorem Coherent.not_after_self (h : Coherent s log)
    (hafter : After log (.announced t') (.announced t)) :
    ¬After log (.announced t) (.announced t') :=
  fun hback => Nat.lt_asymm (h.ascending hafter) (h.ascending hback)

/-! ### Tickets for one address -/

/-- What a call says about the tickets for one address. -/
inductive Signal where
  /-- One more ticket is issued. -/
  | announce
  /-- The ticket of a number is completed. -/
  | complete (n : Nat)

/-- What a call says about the tickets for an address. -/
def Call.signal? (href : String) : Call → Option Signal
  | .announce h => if h = href then some .announce else none
  | .complete h n _ _ => if h = href then some (.complete n) else none
  | .mutate _ => none

/-- What calls say about the tickets for an address. -/
def signals (href : String) (calls : List Call) : List Signal :=
  calls.filterMap (·.signal? href)

/-- Whether the completions for an address were dropped, the latest first. -/
def verdicts (href : String) : List Event → List Bool
  | [] => []
  | .announced _ :: es => verdicts href es
  | .completed t result :: es =>
    if t.href = href then isSuperseded result :: verdicts href es else verdicts href es

/-- The number of tickets issued by signals. -/
def ticketCount : List Signal → Nat
  | [] => 0
  | .announce :: past => ticketCount past + 1
  | .complete _ :: past => ticketCount past

/-- Whether a ticket is open after signals, of which the latest is the first. -/
def isOpen : List Signal → Nat → Bool
  | [], _ => false
  | .announce :: past, n => n == ticketCount past
  | .complete m :: past, n => n != m && isOpen past n

/-- The verdicts that follow from signals, of which the latest is the first. -/
def judged : List Signal → List Bool
  | [] => []
  | .announce :: past => judged past
  | .complete n :: past =>
    if n < ticketCount past then (!isOpen past n) :: judged past else judged past

/-- A shared context follows the signals for an address. -/
structure Follows (href : String) (s : Shared) (log : List Event) (past : List Signal) : Prop where
  /-- The tickets issued. -/
  length_issued : (issued href log).length = ticketCount past
  /-- The open one among them. -/
  latest_eq_iff : ∀ {n t}, (issued href log)[n]? = some t →
    (s.latest href = t.generation ↔ isOpen past n = true)
  /-- The verdicts so far. -/
  verdicts_eq : verdicts href log = judged past

/-- The tickets for an address have ascending numbers. -/
theorem Coherent.pairwise_issued (h : Coherent s log) (href : String) :
    (issued href log).Pairwise (·.generation < ·.generation) := by
  have hascending := @h.ascending
  clear h
  induction log with
  | nil => exact .nil
  | cons e es ih =>
      have hpast := ih fun hafter => hascending (after_cons.mpr (.inl hafter))
      cases e with
      | completed u result => exact hpast
      | announced u =>
          rw [issued]
          split
          · refine List.pairwise_append.mpr ⟨hpast, List.pairwise_singleton _ _, ?_⟩
            intro t ht t' ht'
            obtain rfl := List.mem_singleton.mp ht'
            exact hascending (after_cons.mpr (.inr ⟨rfl, (mem_of_mem_issued ht).2⟩))
          · exact hpast

variable {past : List Signal}

theorem Follows.announce (h : Follows href s log past) (hcoherent : Coherent s log) :
    Follows href (s.announce href).1 (.announced (s.announce href).2 :: log)
      (.announce :: past) := by
  have hissued : issued href (.announced (s.announce href).2 :: log) =
      issued href log ++ [⟨href, s.next⟩] := if_pos rfl
  refine ⟨?_, ?_, h.verdicts_eq⟩
  · rw [hissued, List.length_append, h.length_issued]
    rfl
  · intro n t ht
    rw [hissued] at ht
    rw [latest_announce, if_pos rfl, isOpen, beq_iff_eq, ← h.length_issued]
    rcases Nat.lt_trichotomy n (issued href log).length with hn | rfl | hn
    · rw [List.getElem?_append_left hn] at ht
      obtain ⟨-, hmem⟩ := mem_of_mem_issued (List.mem_of_getElem? ht)
      exact iff_of_false (Nat.ne_of_gt (hcoherent.generation hmem).2) (Nat.ne_of_lt hn)
    · rw [List.getElem?_concat_length] at ht
      obtain rfl := Option.some.inj ht
      exact iff_of_true rfl rfl
    · rw [List.getElem?_eq_none (by simpa [Nat.succ_le_iff] using hn)] at ht
      cases ht

theorem Follows.announce_other (h : Follows href s log past) {other : String}
    (hne : other ≠ href) :
    Follows href (s.announce other).1 (.announced (s.announce other).2 :: log) past := by
  have hissued : issued href (.announced (s.announce other).2 :: log) = issued href log :=
    if_neg hne
  refine ⟨hissued ▸ h.length_issued, ?_, h.verdicts_eq⟩
  intro n t ht
  rw [latest_announce, if_neg hne.symm]
  exact h.latest_eq_iff (hissued ▸ ht)

theorem Follows.complete (h : Follows href s log past) (hcoherent : Coherent s log) {n : Nat}
    (ht : (issued href log)[n]? = some t) (c : Capabilities) (fresh : Nat → Resource.Id) :
    Follows href (s.complete t c fresh).1 (.completed t (s.complete t c fresh).2 :: log)
      (.complete n :: past) := by
  obtain ⟨hhref, -⟩ := mem_of_mem_issued (List.mem_of_getElem? ht)
  have hnodup : (issued href log).Nodup :=
    (hcoherent.pairwise_issued href).imp fun hlt heq => Nat.ne_of_lt hlt (congrArg _ heq)
  refine ⟨h.length_issued, ?_, ?_⟩
  · intro m u hu
    replace hu : (issued href log)[m]? = some u := hu
    obtain ⟨huhref, hmem⟩ := mem_of_mem_issued (List.mem_of_getElem? hu)
    have hself : u ≠ t ↔ m ≠ n := by
      rw [not_iff_not]
      constructor
      · rintro rfl
        exact (List.getElem?_inj (List.getElem?_eq_some_iff.mp hu).1 hnodup).mp (hu.trans ht.symm)
      · rintro rfl
        exact Option.some.inj (hu.symm.trans ht)
    have hlatest := latest_complete_iff (s := s) (huhref.trans hhref.symm)
      (hcoherent.generation hmem).1 c fresh
    rw [huhref] at hlatest
    rw [hlatest, h.latest_eq_iff hu, hself, isOpen, Bool.and_eq_true, bne_iff_ne]
  · have hn : n < ticketCount past := by
      rw [← h.length_issued]
      exact (List.getElem?_eq_some_iff.mp ht).1
    have hverdict : isSuperseded (s.complete t c fresh).2 = !isOpen past n := by
      rw [Bool.eq_iff_iff, isSuperseded_complete_iff, hhref, ne_eq, h.latest_eq_iff ht]
      simp
    rw [verdicts, if_pos hhref, judged, if_pos hn, hverdict, h.verdicts_eq]

theorem Follows.complete_other (h : Follows href s log past) (hne : t.href ≠ href)
    (c : Capabilities) (fresh : Nat → Resource.Id) :
    Follows href (s.complete t c fresh).1 (.completed t (s.complete t c fresh).2 :: log) past := by
  refine ⟨h.length_issued, ?_, ?_⟩
  · intro n u hu
    rw [latest_complete_of_ne hne.symm]
    exact h.latest_eq_iff hu
  · rw [verdicts, if_neg hne, h.verdicts_eq]

/-- The completion of a ticket that was not issued means nothing. -/
theorem Follows.complete_unknown (h : Follows href s log past) {n : Nat}
    (hn : (issued href log)[n]? = none) : Follows href s log (.complete n :: past) := by
  have hcount : ticketCount past ≤ n := by
    rw [← h.length_issued]
    exact List.getElem?_eq_none_iff.mp hn
  refine ⟨h.length_issued, ?_, ?_⟩
  · intro m u hu
    have hm : m ≠ n := by
      rintro rfl
      rw [hn] at hu
      cases hu
    rw [h.latest_eq_iff hu, isOpen, Bool.and_eq_true, bne_iff_ne, and_iff_right hm]
  · rw [judged, if_neg (Nat.not_lt.mpr hcount), h.verdicts_eq]

/-- What becomes of the tickets for an address follows from the calls for this address alone. -/
theorem follows_run (context : Context) (calls : List Call) (href : String) :
    Follows href (run context calls).shared (run context calls).log
      (signals href calls).reverse := by
  induction calls using List.reverseRecOn with
  | nil =>
      refine ⟨rfl, ?_, rfl⟩
      intro n t hn
      cases hn
  | append_singleton calls call ih =>
      have hcoherent := coherent_run context calls
      have hsignals : (signals href (calls ++ [call])).reverse =
          (call.signal? href).toList ++ (signals href calls).reverse := by
        rw [signals, List.filterMap_append, List.reverse_append, signals]
        cases h : call.signal? href <;> simp [h]
      rw [run_append, hsignals]
      cases call with
      | announce other =>
          by_cases hother : other = href
          · subst hother
            rw [Call.signal?, if_pos rfl]
            exact ih.announce hcoherent
          · rw [Call.signal?, if_neg hother]
            exact ih.announce_other hother
      | complete other n c fresh =>
          rw [Session.step, Call.signal?]
          by_cases hother : other = href
          · subst hother
            rw [if_pos rfl]
            cases hticket : (issued other (run context calls).log)[n]? with
            | none => exact ih.complete_unknown hticket
            | some t => exact ih.complete hcoherent hticket c fresh
          · rw [if_neg hother]
            cases hticket : (issued other (run context calls).log)[n]? with
            | none => exact ih
            | some t =>
                obtain ⟨hhref, -⟩ := mem_of_mem_issued (List.mem_of_getElem? hticket)
                exact ih.complete_other (hhref.trans_ne hother) c fresh
      | mutate edit =>
          refine ⟨ih.length_issued, ?_, ih.verdicts_eq⟩
          intro n t ht
          rw [Session.step, latest_mutate]
          exact ih.latest_eq_iff ht

/-! ### What becomes of announced appends -/

/-- The layers of a service were appended, each as one new resource. -/
def Appends (before after : Context) (href : String) (c : Capabilities)
    (fresh : Nat → Resource.Id) (ids : List Resource.Id) : Prop :=
  before.append href c fresh = .ok (after, ids) ∧
    ids = (List.range c.rootLayer.count).map fresh ∧
    ∃ rs : List Resource, rs.map (·.id) = ids ∧ after.features.Perm (before.features ++ rs)

theorem appends_of_append {before after : Context} {c : Capabilities}
    {fresh : Nat → Resource.Id} {ids : List Resource.Id}
    (h : before.append href c fresh = .ok (after, ids)) :
    Appends before after href c fresh ids := by
  obtain ⟨rs, committed, hrs, rfl, hcommit, rfl⟩ := Context.append_eq_ok_cases h
  obtain ⟨g, hg, hids⟩ := Context.resourcesOf_eq_ok hrs
  obtain ⟨-, rfl⟩ := Context.commit_eq_ok_iff.mp hcommit
  refine ⟨h, ?_, rs, rfl, List.mergeSort_perm _ _⟩
  rw [← hids, hg, ← Forest.ids_numbered none before.nextRoot g, Forest.ids]

/-- What a completion does: its ticket is superseded if and only if another append was announced
later for its address or it was applied before. Otherwise the layers are appended to the present
context. A superseded completion changes nothing, and the open number for its address is greater
than its own, or there is none. -/
structure Settled (s : Shared) (log : List Event) (t : Ticket) (c : Capabilities)
    (fresh : Nat → Resource.Id) : Prop where
  isSuperseded_iff : isSuperseded (s.complete t c fresh).2 = true ↔
    Overtaken log t ∨ Applied log t
  appends : ¬(Overtaken log t ∨ Applied log t) → ∃ ids,
    (s.complete t c fresh).2 = .ok (.applied ids) ∧
      Appends s.context (s.complete t c fresh).1.context t.href c fresh ids
  unchanged : Overtaken log t ∨ Applied log t → ∃ latest,
    s.complete t c fresh = (s, .ok (.superseded t.generation latest)) ∧
      (latest = 0 ∨ t.generation < latest)

theorem Coherent.settled (h : Coherent s log) (hflawless : Flawless log)
    (ht : .announced t ∈ log) {c : Capabilities} {fresh : Nat → Resource.Id}
    (hok : ∀ e, (s.complete t c fresh).2 ≠ .error e) : Settled s log t c fresh := by
  have hopen : s.latest t.href = t.generation ↔ ¬(Overtaken log t ∨ Applied log t) := by
    rw [h.latest_eq_iff ht, hflawless.tried_iff]
  refine ⟨?_, ?_, ?_⟩
  · rw [isSuperseded_complete_iff, ne_eq, hopen, not_not]
  · intro hnot
    have htried := (complete_of_eq (hopen.mpr hnot) c fresh).2.2
    rcases hresult : (s.complete t c fresh).2 with e | ids | ⟨generation, latest⟩
    · exact absurd hresult (hok e)
    · exact ⟨ids, rfl, appends_of_append (append_of_complete hresult)⟩
    · rw [hresult] at htried
      exact Bool.noConfusion htried
  · intro hover
    have hne : s.latest t.href ≠ t.generation := fun heq => hopen.mp heq hover
    refine ⟨_, complete_of_ne hne c fresh, ?_⟩
    exact (h.latest ht).imp_right fun hle => Nat.lt_of_le_of_ne hle hne.symm

/-- In a session in which no append fails, every further completion of an issued ticket is settled
by what was announced and applied before, whatever was edited in between. No ticket is applied
twice. Of overlapping appends for one address at most the one announced last is applied. Which
completions for an address are superseded depends only on the calls for this address. -/
theorem announced_appends_settled (context : Context) (calls : List Call)
    (hflawless : Flawless (run context calls).log) :
    (∀ (t : Ticket) (c : Capabilities) (fresh : Nat → Resource.Id),
      .announced t ∈ (run context calls).log →
      (∀ e, ((run context calls).shared.complete t c fresh).2 ≠ .error e) →
      Settled (run context calls).shared (run context calls).log t c fresh) ∧
    (∀ t, (run context calls).log.countP (isAppendOf t) ≤ 1) ∧
    (∀ (href : String) (T : Set Ticket),
      (∀ t ∈ T, t.href = href ∧ .announced t ∈ (run context calls).log) →
      T.Pairwise (Overlap (run context calls).log) →
      ∀ t ∈ T, Applied (run context calls).log t → ∀ t' ∈ T, t' ≠ t →
        After (run context calls).log (.announced t) (.announced t') ∧
          ¬Applied (run context calls).log t') ∧
    (∀ (href : String) (context' : Context) (calls' : List Call),
      signals href calls' = signals href calls →
      verdicts href (run context' calls').log = verdicts href (run context calls).log) := by
  have hcoherent := coherent_run context calls
  refine ⟨?_, hcoherent.explained.countP_le_one, ?_, ?_⟩
  · intro t c fresh ht hok
    exact hcoherent.settled hflawless ht hok
  · intro href T hT hoverlap t ht happlied t' ht' hne
    have hhref : t'.href = t.href := (hT t' ht').1.trans (hT t ht).1.symm
    have hafter := hcoherent.after_of_applied (hT t' ht').2 hhref hne
      (hoverlap ht ht' hne.symm) happlied
    refine ⟨hafter, ?_⟩
    intro happlied'
    have hback := hcoherent.after_of_applied (hT t ht).2 hhref.symm hne.symm
      (hoverlap ht' ht hne) happlied'
    exact hcoherent.not_after_self hafter hback
  · intro href context' calls' hsignals
    rw [(follows_run context' calls' href).verdicts_eq, hsignals,
      ← (follows_run context calls href).verdicts_eq]

/-- A service with one layer. -/
def oneLayer (name : String) : Capabilities where
  version := "1.3.0"
  serviceTitle := none
  serviceDescription := none
  capabilitiesHref := none
  mapHref := none
  mapFormats := []
  rootLayer := { name }

/-- Two appends for one address overlap with each other and with one for another address; one
ticket is completed late and one twice, and edits fail and succeed in between. -/
def race : List Call :=
  [.announce "a:b", .announce "a:c", .announce "a:b",
    .complete "a:b" 0 (oneLayer "stale") fun _ => "stale",
    .mutate fun c => (c.activate "missing" true).map (·, ()),
    .complete "a:b" 1 (oneLayer "latest") fun _ => "latest",
    .mutate fun c => c.remove "latest",
    .complete "a:b" 1 (oneLayer "latest") fun _ => "again",
    .complete "a:c" 0 (oneLayer "other") fun _ => "other",
    .mutate fun c => c.remove "other",
    .announce "a:b"]

theorem log_race : (run (Context.empty "map") race).log =
    [.announced ⟨"a:b", 4⟩,
      .completed ⟨"a:c", 2⟩ (.ok (.applied ["other"])),
      .completed ⟨"a:b", 3⟩ (.ok (.superseded 3 0)),
      .completed ⟨"a:b", 3⟩ (.ok (.applied ["latest"])),
      .completed ⟨"a:b", 1⟩ (.ok (.superseded 1 3)),
      .announced ⟨"a:b", 3⟩, .announced ⟨"a:c", 2⟩, .announced ⟨"a:b", 1⟩] := by
  decide +kernel

/-- In the race only the later one of the overlapping appends is applied, and the append that is
still open will be settled. -/
theorem settled_race :
    Flawless (run (Context.empty "map") race).log ∧
      Overlap (run (Context.empty "map") race).log ⟨"a:b", 1⟩ ⟨"a:b", 3⟩ ∧
      Applied (run (Context.empty "map") race).log ⟨"a:b", 3⟩ ∧
      ¬Applied (run (Context.empty "map") race).log ⟨"a:b", 1⟩ ∧
      Settled (run (Context.empty "map") race).shared (run (Context.empty "map") race).log
        ⟨"a:b", 4⟩ (oneLayer "last") fun _ => "last" := by
  have hflawless : Flawless (run (Context.empty "map") race).log := by
    intro t e
    rw [log_race]
    simp
  have hoverlap : Overlap (run (Context.empty "map") race).log ⟨"a:b", 1⟩ ⟨"a:b", 3⟩ := by
    intro result
    rw [log_race]
    simp [after_cons, not_after_nil]
  have happlied : Applied (run (Context.empty "map") race).log ⟨"a:b", 3⟩ := by
    refine ⟨["latest"], ?_⟩
    rw [log_race]
    simp
  have hlast : ((run (Context.empty "map") race).shared.complete ⟨"a:b", 4⟩ (oneLayer "last")
      fun _ => "last").2 = .ok (.applied ["last"]) := by
    decide +kernel
  obtain ⟨hsettled, -, hlatest, -⟩ :=
    announced_appends_settled (Context.empty "map") race hflawless
  refine ⟨hflawless, hoverlap, happlied, ?_, ?_⟩
  · refine (hlatest "a:b" {⟨"a:b", 1⟩, ⟨"a:b", 3⟩} ?_ ?_ _ (by simp) happlied _ (by simp)
      (by simp)).2
    · rintro t (rfl | rfl) <;> rw [log_race] <;> simp
    · exact Set.pairwise_pair.mpr fun _ => ⟨hoverlap, hoverlap.symm⟩
  · refine hsettled _ _ _ (by rw [log_race]; simp) ?_
    intro e he
    rw [hlast] at he
    cases he

end MapContext.Shared
