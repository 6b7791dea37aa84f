import TileFetch.Proofs.Auth.Leader

/-!
# The books of a cache

The counters of a cache count what its history shows, and they are balanced: every refresh
that was begun has published a context, has failed, was given up, or is in flight.  Of each
published context at most one report is accepted before the next one is published; under a
reactive policy it is exactly one, because no call refreshes while there is a context that was
not reported.
-/

namespace TileFetch.Auth

open Time (Instant)

/-! ## Counting marks -/

def publications (log : List Mark) : List Nat :=
  (published (cycles log)).map Snapshot.generation

def failure? : Outcome → Option (Handle Provider.Failure)
  | .ok _ => none
  | .error failure => some failure

def failures (log : List Mark) : List (Handle Provider.Failure) :=
  (cycles log).filterMap failure?

@[simp] theorem publications_append (log more : List Mark) :
    publications (log ++ more) = publications log ++ publications more := by
  simp [publications]

@[simp] theorem failures_append (log more : List Mark) :
    failures (log ++ more) = failures log ++ failures more := by
  simp [failures]

theorem length_cycles (log : List Mark) :
    (cycles log).length = (publications log).length + (failures log).length := by
  unfold publications failures
  induction cycles log with
  | nil => rfl
  | cons outcome outcomes ih =>
      cases outcome with
      | ok snapshot =>
          simp only [published_cons_ok, List.length_cons, List.map_cons, List.filterMap_cons,
            failure?]
          omega
      | error failure =>
          simp only [published_cons_error, List.length_cons, List.filterMap_cons, failure?]
          omega

/-- In a log there is a last published context, or none. -/
theorem exists_last_publication (log : List Mark) :
    publications log = [] ∨ ∃ early c snapshot late,
      log = early ++ .ended c (.ok snapshot) :: late ∧ publications late = [] := by
  induction log with
  | nil => exact .inl rfl
  | cons m log ih =>
      rcases ih with hnone | ⟨early, c, snapshot, late, rfl, hlate⟩
      · by_cases hm : ∃ c snapshot, m = .ended c (.ok snapshot)
        · obtain ⟨c, snapshot, rfl⟩ := hm
          exact .inr ⟨[], c, snapshot, log, rfl, hnone⟩
        · left
          rw [← List.singleton_append, publications_append, hnone, List.append_nil]
          match m with
          | .ended c (.ok snapshot) => exact (hm ⟨c, snapshot, rfl⟩).elim
          | .ended _ (.error _) | .began _ | .missed _ _ | .invoked _ _ | .retried _
          | .returned _ _ | .left _ | .gaveUp _ | .accepted _ => rfl
      · exact .inr ⟨m :: early, c, snapshot, late, rfl, hlate⟩

namespace Tally

instance : Add Tally where
  add a b :=
    { attempts := a.attempts + b.attempts
      successes := a.successes + b.successes
      failures := a.failures + b.failures
      invalidations := a.invalidations + b.invalidations }

def ofLog (log : List Mark) : Tally where
  attempts := (invocations log).length
  successes := (publications log).length
  failures := (Auth.failures log).length
  invalidations := (acceptances log).length

theorem ofLog_append (log more : List Mark) : ofLog (log ++ more) = ofLog log + ofLog more := by
  simp only [ofLog, invocations_append, publications_append, failures_append,
    acceptances_append, List.length_append]
  rfl

end Tally

namespace Calls

variable {s t : Calls} {log : List Mark} {e : Event} {m : Option Mark}

theorem Move.tally_eq (h : s.Move e m t) :
    t.cache.tally = s.cache.tally + Tally.ofLog m.toList := by
  cases h with
  | settle c result => cases result <;> rfl
  | accept snapshot haccepts =>
      simp only [Cache.invalidate, haccepts, if_true]
      rfl
  | _ => rfl

theorem tally_run (policy : Policy) (events : List Event) :
    ((initial policy).run events).cache.tally = .ofLog ((initial policy).log events) := by
  induction events using List.reverseRecOn with
  | nil => rfl
  | append_singleton events e ih =>
      rw [run_concat, log_concat, Tally.ofLog_append, (move_step _ e).tally_eq, ih]

/-- A refresh that was begun has ended a cycle, was given up, or is in flight. -/
def Balanced (s : Calls) (log : List Mark) : Prop :=
  (invocations log).length =
    (cycles log).length + (givenUp log).length + s.holder.toList.length

theorem Balanced.move (h : s.Balanced log) (hs : s.Consistent log) (hmove : s.Move e m t) :
    t.Balanced (log ++ m.toList) := by
  unfold Balanced at h ⊢
  rw [invocations_append, cycles_append, givenUp_append, List.length_append, List.length_append,
    List.length_append]
  -- Besides the marks, what counts is who holds the guard: it is taken or it is released.
  cases hmove with
  | lead c now seen hcall hfree =>
      rw [hfree] at h
      simp only [Calls.lead, Option.toList_some, Option.toList_none] at h ⊢
      simp [Mark.invoked?, Mark.cycle?, Mark.gaveUp?, h]
  | settle c result now draw seen previous hcall | giveUp c seen previous hcall =>
      rw [hs.holder_eq ⟨seen, previous, hcall⟩] at h
      simp [conclude, Calls.giveUp, Mark.invoked?, Mark.cycle?, Mark.gaveUp?] at h ⊢
      omega
  | idle => simpa using h
  | _ => simpa [Mark.invoked?, Mark.cycle?, Mark.gaveUp?] using h

theorem balanced_run (policy : Policy) (events : List Event) :
    ((initial policy).run events).Balanced ((initial policy).log events) := by
  induction events using List.reverseRecOn with
  | nil => rfl
  | append_singleton events e ih =>
      rw [run_concat, log_concat]
      exact ih.move (consistent_run policy events) (move_step _ e)

end Calls

/-! ## Reports against published contexts -/

/-- The generation of a context that was not reported. -/
def Slot.standing? (s : Slot) : Option Nat :=
  match s.phase with
  | .valid | .bypassed => some s.contextGeneration
  | _ => none

theorem Slot.length_standing? (s : Slot) :
    s.standing?.toList.length = if s.phase = .valid ∨ s.phase = .bypassed then 1 else 0 := by
  cases h : s.phase <;> simp [standing?, h]

theorem Slot.standing?_eq_some_iff {s : Slot} {g : Nat} :
    s.standing? = some g ↔
      (s.phase = .bypassed ∨ s.phase = .valid) ∧ s.contextGeneration = g := by
  cases h : s.phase <;> simp [standing?, h]

/-- A context that is not refreshed ahead of time can be used until it is reported. -/
theorem Slot.fresh?_of_standing? {s : Slot} (hnever : s.refreshAt = none)
    (hstanding : s.standing? ≠ none) (now : Instant) : s.fresh? now = s.snapshot? := by
  cases hp : s.phase with
  | valid | bypassed => simp [fresh?, hp, isDue, hnever]
  | _ => simp [standing?, hp] at hstanding

section Reflects

variable {s : Slot} {outcomes : List Outcome} {reported : List Nat}

theorem Slot.Reflects.exists_of_standing? (h : s.Reflects outcomes reported)
    (hstanding : s.standing? ≠ none) : ∃ snapshot, s.snapshot? = some snapshot := by
  apply h.exists_snapshot?
  intro hphase
  exact hstanding (by simp [standing?, hphase])

theorem Slot.Reflects.standing?_eq_none (h : s.Reflects outcomes reported)
    (hnever : s.refreshAt = none) {now : Instant} (hnone : s.fresh? now = none) :
    s.standing? = none := by
  by_contra hstanding
  obtain ⟨snapshot, hsnapshot⟩ := h.exists_of_standing? hstanding
  simp [fresh?_of_standing? hnever hstanding, hsnapshot] at hnone

theorem Slot.Reflects.not_mem_of_standing? (h : s.Reflects outcomes reported) {g : Nat}
    (hstanding : s.standing? = some g) : g ∉ reported := by
  obtain ⟨snapshot, hsnapshot⟩ := h.exists_of_standing? (by simp [hstanding])
  obtain ⟨hphase, hgeneration⟩ := standing?_eq_some_iff.mp hstanding
  rw [← hgeneration, (snapshot?_eq_some_iff.mp hsnapshot).2]
  exact h.not_reported hsnapshot hphase

end Reflects

theorem Policy.refreshAt_of_isReactive {policy : Policy} (h : policy.isReactive = true)
    (context : Context) (now : Instant) (draw : Nat) :
    policy.refreshAt context now draw = none := by
  obtain ⟨hwindow, hage⟩ : policy.window = none ∧ policy.maxAge = none := by
    simpa [isReactive] using h
  simp [refreshAt, byExpiry, byAge, hwindow, hage, earliest]

namespace Calls

variable {s t : Calls} {log : List Mark} {e : Event} {m : Option Mark} {policy : Policy}

/-- A step leaves the context that was not reported as it is, or it publishes one, or it
accepts a report against it. -/
theorem Move.standing?_cases (h : s.Move e m t) :
    (t.cache.slot.standing? = s.cache.slot.standing? ∧ acceptances m.toList = [] ∧
      publications m.toList = []) ∨
    (∃ c snapshot, m = some (.ended c (.ok snapshot)) ∧
      t.cache.slot.standing? = some snapshot.generation) ∨
    ∃ g, m = some (.accepted g) ∧ s.cache.slot.standing? = some g ∧
      t.cache.slot.standing? = none := by
  rcases h.slot_cases with ⟨flag, hslot, hcycles, haccepted⟩ | ⟨c, result, now, draw, hcache, rfl⟩ |
    ⟨snapshot, haccepts, hcache, rfl⟩
  · left
    rw [hslot, publications, hcycles]
    exact ⟨rfl, haccepted, rfl⟩
  · rw [hcache]
    cases result with
    | error failure => exact .inl ⟨rfl, rfl, rfl⟩
    | ok context =>
        refine .inr (.inl ⟨c, _, rfl, ?_⟩)
        cases hbypass : context.bypass <;>
          simp [Cache.settle, Cache.publish, Slot.standing?, hbypass]
  · obtain ⟨hvalid, hgeneration⟩ := Cache.accepts_iff.mp haccepts
    refine .inr (.inr ⟨snapshot.generation, rfl, ?_, ?_⟩)
    · simp [Slot.standing?, hvalid, hgeneration]
    · simp [hcache, Cache.invalidate, haccepts, Slot.standing?]

/-- The accepted reports are against published contexts, in the order of these and no two
against one. -/
theorem acceptances_sublist (policy : Policy) (events : List Event) :
    (acceptances ((initial policy).log events) ++
      ((initial policy).run events).cache.slot.standing?.toList).Sublist
        (publications ((initial policy).log events)) := by
  induction events using List.reverseRecOn with
  | nil => exact .slnil
  | append_singleton events e ih =>
      rw [run_concat, log_concat, acceptances_append, publications_append]
      rcases (move_step ((initial policy).run events) e).standing?_cases with
        ⟨hstanding, haccepted, hpublished⟩ | ⟨c, snapshot, hm, hstanding⟩ |
        ⟨g, hm, hbefore, hafter⟩
      · simpa [hstanding, haccepted, hpublished] using ih
      · rw [hm, hstanding]
        simpa [Mark.accepted?, publications, Mark.cycle?] using
          ((List.sublist_append_left _ _).trans ih).append_right [snapshot.generation]
      · rw [hbefore] at ih
        simpa [hm, hafter, Mark.accepted?, publications, Mark.cycle?] using ih

/-- No two reports against one generation are accepted. -/
theorem acceptances_nodup (policy : Policy) (events : List Event) :
    (acceptances ((initial policy).log events)).Nodup := by
  induction events using List.reverseRecOn with
  | nil => exact .nil
  | append_singleton events e ih =>
      rw [log_concat, acceptances_append]
      rcases (move_step ((initial policy).run events) e).standing?_cases with
        ⟨-, haccepted, -⟩ | ⟨c, snapshot, hm, -⟩ | ⟨g, hm, hstanding, -⟩
      · simpa [haccepted] using ih
      · simpa [hm, Mark.accepted?] using ih
      · have hnew := (consistent_run policy events).slot.not_mem_of_standing? hstanding
        rw [hm]
        exact ih.append (List.nodup_singleton g) (List.disjoint_singleton.mpr hnew)

theorem Move.policy_eq (h : s.Move e m t) : t.cache.policy = s.cache.policy := by
  cases h with
  | settle c result => cases result <;> rfl
  | accept snapshot haccepts => simp [Cache.invalidate, haccepts]
  | _ => rfl

theorem policy_run (policy : Policy) (events : List Event) :
    ((initial policy).run events).cache.policy = policy := by
  induction events using List.reverseRecOn with
  | nil => rfl
  | append_singleton events e ih =>
      rw [run_concat]
      exact (move_step _ e).policy_eq.trans ih

section Reactive

variable (hreactive : policy.isReactive = true)

include hreactive

theorem refreshAt_run (events : List Event) :
    ((initial policy).run events).cache.slot.refreshAt = none := by
  induction events using List.reverseRecOn with
  | nil => rfl
  | append_singleton events e ih =>
      rw [run_concat]
      rcases (move_step ((initial policy).run events) e).slot_cases with ⟨flag, hslot, -⟩ |
        ⟨c, result, now, draw, hcache, -⟩ | ⟨snapshot, haccepts, hcache, -⟩
      · rw [hslot]
        exact ih
      · rw [hcache]
        cases result with
        | error failure => exact ih
        | ok context =>
            simp [Cache.settle, Cache.publish, policy_run,
              Policy.refreshAt_of_isReactive hreactive]
      · simpa [hcache, Cache.invalidate, haccepts] using ih

/-- Under a reactive policy no call refreshes while there is a context that was not reported. -/
theorem standing?_of_refreshes (events : List Event) {c : Nat}
    (h : ((initial policy).run events).Refreshes c) :
    ((initial policy).run events).cache.slot.standing? = none := by
  obtain ⟨earlier, -, hnone⟩ := exists_fresh?_eq_none_of_refreshes policy events h
  exact (consistent_run policy events).slot.standing?_eq_none
    (refreshAt_run hreactive events) hnone

theorem standing?_of_waiting (events : List Event) {c : Nat}
    (h : ((initial policy).run events).call c =
      .waiting ((initial policy).run events).cache.slot.generation) :
    ((initial policy).run events).cache.slot.standing? = none := by
  obtain ⟨earlier, -, hnone⟩ := exists_fresh?_eq_none policy events c h
  exact (consistent_run policy events).slot.standing?_eq_none
    (refreshAt_run hreactive events) hnone

/-- Under a reactive policy every published context but the last was reported. -/
theorem acceptances_eq (events : List Event) :
    acceptances ((initial policy).log events) ++
      ((initial policy).run events).cache.slot.standing?.toList =
        publications ((initial policy).log events) := by
  induction events using List.reverseRecOn with
  | nil => rfl
  | append_singleton events e ih =>
      have hmove := move_step ((initial policy).run events) e
      rw [run_concat, log_concat, acceptances_append, publications_append]
      rcases hmove.standing?_cases with ⟨hstanding, haccepted, hpublished⟩ |
        ⟨c, snapshot, hm, hstanding⟩ | ⟨g, hm, hbefore, hafter⟩
      · simpa [hstanding, haccepted, hpublished] using ih
      · have hnone := standing?_of_refreshes hreactive events (hmove.refreshes_of_ended hm)
        rw [hnone] at ih
        simpa [hm, hstanding, Mark.accepted?, publications, Mark.cycle?] using ih
      · rw [hbefore] at ih
        simpa [hm, hafter, Mark.accepted?, publications, Mark.cycle?] using ih

/-- When a context is published, all earlier ones have been reported. -/
theorem acceptances_before_publication (events : List Event) {past rest : List Mark} {c : Nat}
    {snapshot : Snapshot}
    (hlog : (initial policy).log events = past ++ .ended c (.ok snapshot) :: rest) :
    acceptances past = publications past := by
  obtain ⟨before, e, after, -, rfl, hmark, -⟩ := exists_step_of_log hlog
  have hrefreshes := (move_step ((initial policy).run before) e).refreshes_of_ended hmark
  have hall := acceptances_eq hreactive before
  rwa [standing?_of_refreshes hreactive before hrefreshes, Option.toList_none,
    List.append_nil] at hall

/-- Under a reactive policy a context is published on first use, or after exactly one accepted
report, which was against the last published context. -/
theorem report_before_publication (events : List Event) {past rest : List Mark} {c : Nat}
    {snapshot : Snapshot}
    (hlog : (initial policy).log events = past ++ .ended c (.ok snapshot) :: rest) :
    (publications past = [] ∧ acceptances past = []) ∨
      ∃ early d last late, past = early ++ .ended d (.ok last) :: late ∧
        publications late = [] ∧ acceptances late = [last.generation] := by
  have hpast := acceptances_before_publication hreactive events hlog
  rcases exists_last_publication past with hnone | ⟨early, d, last, late, rfl, hlate⟩
  · exact .inl ⟨hnone, hpast.trans hnone⟩
  · refine .inr ⟨early, d, last, late, rfl, hlate, ?_⟩
    rw [List.append_assoc, List.cons_append] at hlog
    have hearly := acceptances_before_publication hreactive events hlog
    rw [← List.singleton_append, acceptances_append, acceptances_append, publications_append,
      publications_append, hearly, hlate] at hpast
    simpa [Mark.accepted?, publications, Mark.cycle?] using hpast

end Reactive

theorem Move.abandoned_eq (h : s.Move e m t) :
    t.abandoned = s.abandoned + (givenUp m.toList).length := by
  cases h <;> rfl

theorem abandoned_run (policy : Policy) (events : List Event) :
    ((initial policy).run events).abandoned = (givenUp ((initial policy).log events)).length := by
  induction events using List.reverseRecOn with
  | nil => rfl
  | append_singleton events e ih =>
      rw [run_concat, log_concat, givenUp_append, List.length_append, ← ih]
      exact (move_step _ e).abandoned_eq

/-- The counters count the marks of the log.  Every refresh that was begun has published a
context, has failed, was given up or is in flight; the generation counts the first two; the
flag shows the third, of which there is at most one.  No context is reported twice, and under
a reactive policy one is published on first use or after one accepted report, against its
predecessor. -/
theorem exact_accounting (policy : Policy) (events : List Event) :
    let s := (initial policy).run events
    let log := (initial policy).log events
    let slot := s.cache.slot
    let tally := s.cache.tally
    let standing := if slot.phase = .valid ∨ slot.phase = .bypassed then 1 else 0
    tally = .ofLog log ∧ s.abandoned = (givenUp log).length ∧
      tally.attempts = tally.successes + tally.failures + s.abandoned +
        (if slot.refreshing then 1 else 0) ∧
      slot.generation = tally.successes + tally.failures ∧
      (slot.refreshing = true ↔ ∃ c, s.Refreshes c) ∧
      (∀ c d, s.Refreshes c → s.Refreshes d → c = d) ∧
      tally.invalidations + standing ≤ tally.successes ∧
      (policy.isReactive = true →
        tally.invalidations + standing = tally.successes ∧
        ∀ past c snapshot rest, log = past ++ .ended c (.ok snapshot) :: rest →
          (publications past = [] ∧ acceptances past = []) ∨
            ∃ early d last late, past = early ++ .ended d (.ok last) :: late ∧
              publications late = [] ∧ acceptances late = [last.generation]) := by
  intro s log slot tally standing
  have h := consistent_run policy events
  have htally : tally = .ofLog log := tally_run policy events
  have habandoned : s.abandoned = (givenUp log).length := abandoned_run policy events
  have hflag : slot.refreshing = s.holder.isSome := refreshing_run policy events
  have hcycles := length_cycles log
  have hstanding : slot.standing?.toList.length = standing := slot.length_standing?
  refine ⟨htally, habandoned, ?_, ?_, ?_, fun c d ↦ h.eq_of_refreshes, ?_, ?_⟩
  · have hbalance : s.Balanced log := balanced_run policy events
    have hheld : s.holder.toList.length = if slot.refreshing then 1 else 0 := by
      rw [hflag]
      cases s.holder <;> rfl
    rw [htally, habandoned, ← hheld]
    simp only [Tally.ofLog, Balanced] at hbalance ⊢
    omega
  · rw [htally]
    exact h.slot.generation_eq.trans hcycles
  · rw [hflag, Option.isSome_iff_exists]
    exact exists_congr h.holder_eq_some_iff
  · have hle := (acceptances_sublist policy events).length_le
    rw [List.length_append] at hle
    rw [htally, ← hstanding]
    exact hle
  · intro hreactive
    refine ⟨?_, fun past c snapshot rest ↦ report_before_publication hreactive events⟩
    have heq := congrArg List.length (acceptances_eq hreactive events)
    rw [List.length_append] at heq
    rw [htally, ← hstanding]
    exact heq

/-- A context is reported.  The refresh of one call is given up, that of the next one replaces
the context. -/
def replacedOnce : List Event :=
  [.start 0, .step 0 (.look (moment 0)), .step 0 (.acquire (moment 0)),
    .step 0 (.settle (.ok (.ofToken "old")) (moment 1) 0), .invalidate ⟨1, ⟨0, .ofToken "old"⟩⟩,
    .start 1, .step 1 (.look (moment 2)), .step 1 (.acquire (moment 2)), .drop 1,
    .start 2, .step 2 (.look (moment 3)), .step 2 (.acquire (moment 3)),
    .step 2 (.settle (.ok (.ofToken "new")) (moment 4) 0)]

theorem replaced_once_accounted :
    let tally := ((initial .reactive).run replacedOnce).cache.tally
    tally.attempts = 3 ∧ tally.invalidations + 1 = tally.successes ∧ tally.successes = 2 := by
  obtain ⟨-, -, -, -, -, -, -, hreactive⟩ := exact_accounting .reactive replacedOnce
  obtain ⟨hbalance, -⟩ := hreactive rfl
  exact ⟨rfl, hbalance, rfl⟩

end Calls

end TileFetch.Auth
