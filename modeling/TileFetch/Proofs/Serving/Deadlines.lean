import TileFetch.Proofs.Serving.Turns
import TileFetch.Simulation.Clocked

/-!
# Calls that may take too long

A call of the provider that a fetch waits for sets at most two alarms, one for the moment when its
answer is there and one for the moment when it has taken as long as calls may take.  A run passes no
alarm (`OnTime.run`).  So a call ends at the first of the two moments, and not before
(`EndsOnTime`), counted from the last turn of its fetch (`began_run`).
-/

namespace TileFetch.Simulation

open Serving (Event)

variable {π : Type} {setup : Setup π} {tile : Nat → TileRequest}

/-! ## The progress of a call -/

namespace Waiting

variable {α : Type} {call : Begun π α} {since clock : Nat}

theorem progress_limit (setup : Setup π) (call : Begun π α) (since clock : Nat) :
    (setup.limit since call).progress clock =
      if call.delay.any (since + · ≤ clock) then .answered
      else if since + setup.timeout ≤ clock then .late
      else .waiting := by
  cases hdelay : call.delay <;> simp [progress, Setup.limit, hdelay]

theorem progress_eq_answered_iff : (setup.limit since call).progress clock = .answered ↔
    ∃ delay, call.delay = some delay ∧ since + delay ≤ clock := by
  rw [progress_limit]
  cases call.delay <;> split_ifs <;> simp_all

theorem progress_eq_late_iff : (setup.limit since call).progress clock = .late ↔
    (∀ delay, call.delay = some delay → clock < since + delay) ∧
      since + setup.timeout ≤ clock := by
  rw [progress_limit]
  cases call.delay <;> split_ifs <;> simp_all

theorem progress_eq_waiting_iff : (setup.limit since call).progress clock = .waiting ↔
    ∀ alarm ∈ (setup.limit since call).alarms, clock < alarm.moment := by
  rw [progress_limit]
  cases hdelay : call.delay <;> simp only [alarms, Setup.limit, hdelay] <;>
    split_ifs <;> simp_all

theorem delay_ne_none (h : (setup.limit since call).progress clock = .answered) :
    call.delay ≠ none := by
  obtain ⟨delay, hdelay, -⟩ := progress_eq_answered_iff.mp h
  simp [hdelay]

theorem mayExceed (h : (setup.limit since call).progress clock = .late) :
    call.mayExceed setup.timeout = true := by
  obtain ⟨hwaits, hdeadline⟩ := progress_eq_late_iff.mp h
  cases hdelay : call.delay with
  | none => simp [Begun.mayExceed, hdelay]
  | some delay =>
      have hlt := hwaits delay hdelay
      have hlong : setup.timeout < delay := by omega
      simpa [Begun.mayExceed, hdelay] using hlong

theorem forall_alarms_iff : (∀ alarm ∈ (setup.limit since call).alarms, clock ≤ alarm.moment) ↔
    (∀ delay, call.delay = some delay → clock ≤ since + delay) ∧
      clock ≤ since + setup.timeout := by
  cases hdelay : call.delay <;> simp [alarms, Setup.limit, hdelay]

end Waiting

namespace Clocked

variable {s t u : Clocked π} {events after : List Event} {e : Event} {f : Nat}

/-! ## Runs -/

theorem Runs.serving_eq (h : s.Runs setup tile events t) :
    t.toServing = s.toServing.run setup tile events := by
  induction h with
  | refl => rfl
  | happen e _ _ ih => rw [Serving.run_concat, ← ih]; rfl
  | pass _ _ _ ih => exact ih

theorem Runs.append (h : s.Runs setup tile events t) (h' : t.Runs setup tile after u) :
    s.Runs setup tile (events ++ after) u := by
  induction h' with
  | refl => simpa using h
  | happen e _ hpermits ih => rw [← List.append_assoc]; exact ih.happen e hpermits
  | pass clock _ hpasses ih => exact ih.pass clock hpasses

structure OnTime (setup : Setup π) (s : Clocked π) : Prop where
  since_le : ∀ f, s.since f ≤ s.clock
  alarms : ∀ f, ∀ alarm ∈ (s.pending f).alarms setup (s.since f), s.clock ≤ alarm.moment

theorem alarms_since_clock (pending : Pending π) (clock : Nat) :
    ∀ alarm ∈ pending.alarms setup clock, clock ≤ alarm.moment := by
  cases pending with
  | none => simp [Pending.alarms]
  | context call | tile call =>
      rw [Pending.alarms, Waiting.forall_alarms_iff]
      exact ⟨fun delay _ ↦ Nat.le_add_right _ _, Nat.le_add_right _ _⟩

theorem caller?_ne (he : e.fetch? ≠ some f) : e.caller? ≠ some f := by
  cases e <;> simp_all [Event.fetch?, Event.caller?]

/-- What is not for fetch `f` to begin leaves its call as it is, or ends it. -/
theorem pending_happen (setup : Setup π) (tile : Nat → TileRequest) (s : Clocked π)
    (he : e.caller? ≠ some f) :
    (s.happen setup tile e).since f = s.since f ∧
      ((s.happen setup tile e).pending f = s.pending f ∨
        e = .drop f ∧ (s.happen setup tile e).pending f = .none) := by
  refine ⟨by simp [happen, he], ?_⟩
  cases e with
  | start g | invalidate g => exact .inl rfl
  | drop g =>
      by_cases hg : f = g
      · subst hg
        exact .inr ⟨rfl, by simp [happen, Serving.step, Serving.await]⟩
      · left
        simp [happen, Serving.step, Serving.await, hg]
  | turn g r | expire g r =>
      have hg : f ≠ g := by
        rintro rfl
        exact he rfl
      exact .inl (Serving.step_frame s.toServing rfl hg).2

theorem OnTime.happen (h : s.OnTime setup) (e : Serving.Event) :
    (s.happen setup tile e).OnTime setup where
  since_le f := by
    by_cases he : e.caller? = some f
    · simp [Clocked.happen, he]
    · simpa [Clocked.happen, he] using h.since_le f
  alarms f := by
    by_cases he : e.caller? = some f
    -- A call that begins now sets its alarms for now or for later.
    · have hsince : (s.happen setup tile e).since f = s.clock := by simp [Clocked.happen, he]
      rw [hsince]
      exact alarms_since_clock _ _
    · obtain ⟨hsince, hsame | ⟨-, hnone⟩⟩ := pending_happen setup tile s he
      · rw [hsince, hsame]
        exact h.alarms f
      · simp [hnone, Pending.alarms]

theorem OnTime.run (hs : s.OnTime setup) (h : s.Runs setup tile events t) : t.OnTime setup := by
  induction h with
  | refl => exact hs
  | happen e _ _ ih => exact ih.happen e
  | pass clock _ hpasses ih =>
      exact ⟨fun f ↦ (ih.since_le f).trans hpasses.le, hpasses.alarms⟩

theorem onTime_ofServing {s : Serving π} (hidle : ∀ f, s.pending f = .none) :
    (ofServing s).OnTime setup where
  since_le _ := le_rfl
  alarms f := by
    rw [show (ofServing s).pending f = .none from hidle f]
    simp [Pending.alarms]

/-- The call that fetch `f` waits for began at the moment `since f`, when the fetch took a turn or
gave up another call; since then it has done neither. -/
def Began (setup : Setup π) (tile : Nat → TileRequest) (s : Clocked π) (events : List Event)
    (t : Clocked π) (f : Nat) : Prop :=
  ∃ before e during u, events = before ++ e :: during ∧ s.Runs setup tile before u ∧
    u.Permits setup e ∧ e.caller? = some f ∧ u.clock = t.since f ∧
    (u.happen setup tile e).Runs setup tile during t ∧
    (u.happen setup tile e).pending f = t.pending f ∧ ∀ e' ∈ during, e'.caller? ≠ some f

theorem began_run {s : Serving π} (hidle : ∀ f, s.pending f = .none)
    (h : (ofServing s).Runs setup tile events t) (hpending : t.pending f ≠ .none) :
    (ofServing s).Began setup tile events t f := by
  induction h with
  | refl => exact (hpending (hidle f)).elim
  | @happen events t e h hpermits ih =>
      by_cases he : e.caller? = some f
      · exact ⟨events, e, [], t, rfl, h, hpermits, he, by simp [Clocked.happen, he], .refl, rfl,
          by simp⟩
      · obtain ⟨hsince, hsame | ⟨-, hnone⟩⟩ := pending_happen setup tile t he
        · rw [hsame] at hpending
          obtain ⟨before, e', during, u, rfl, hu, hu', he', hclock, hrun, hcall, hduring⟩ :=
            ih hpending
          refine ⟨before, e', during ++ [e], u, by simp, hu, hu', he', hclock.trans hsince.symm,
            hrun.happen e hpermits, hcall.trans hsame.symm, ?_⟩
          intro e'' hmem
          rcases List.mem_append.mp hmem with hmem | hmem
          · exact hduring e'' hmem
          · rwa [List.mem_singleton.mp hmem]
        · exact (hpending hnone).elim
  | pass clock h hpasses ih =>
      obtain ⟨before, e', during, u, rfl, hu, hu', he', hclock, hrun, hcall, hduring⟩ := ih hpending
      exact ⟨before, e', during, u, rfl, hu, hu', he', hclock, hrun.pass clock hpasses, hcall,
        hduring⟩

/-! ## The end of a call -/

/-- A call of fetch `f` takes `delay`.  The clock does not pass the moment when its answer is there,
nor the one when it has taken as long as calls may take.  At the first of the two, and only then, it
ends: it is answered if the answer is there in time, and else given up. -/
structure EndsOnTime (setup : Setup π) (s : Clocked π) (f : Nat) (delay : Option Nat) : Prop where
  since_le : s.since f ≤ s.clock
  le_deadline : s.clock ≤ s.since f + setup.timeout
  le_due : ∀ d, delay = some d → s.clock ≤ s.since f + d
  answered_iff : ∀ r, s.Permits setup (.turn f r) ↔
    ∃ d ≤ setup.timeout, delay = some d ∧ s.clock = s.since f + d
  givenUp_iff : ∀ r, s.Permits setup (.expire f r) ↔
    (∀ d ≤ setup.timeout, delay ≠ some d) ∧ s.clock = s.since f + setup.timeout

section

variable {α : Type} {call : Begun π α}

theorem EndsOnTime.of_limit (h : s.OnTime setup)
    (halarms : (s.pending f).alarms setup (s.since f) = (setup.limit (s.since f) call).alarms)
    (hprogress : (s.pending f).progress? setup (s.since f) s.clock =
      some ((setup.limit (s.since f) call).progress s.clock))
    (hpending : s.pending f ≠ .none) : s.EndsOnTime setup f call.delay := by
  have hmoments := h.alarms f
  rw [halarms, Waiting.forall_alarms_iff] at hmoments
  obtain ⟨hdue, hdeadline⟩ := hmoments
  refine ⟨h.since_le f, hdeadline, hdue, fun r ↦ ?_, fun r ↦ ?_⟩
  · simp only [Permits, hprogress, Option.some.injEq, Waiting.progress_eq_answered_iff, hpending,
      false_or]
    constructor
    · rintro ⟨d, hdelay, hclock⟩
      have hle := hdue d hdelay
      exact ⟨d, by omega, hdelay, by omega⟩
    · rintro ⟨d, -, hdelay, hclock⟩
      exact ⟨d, hdelay, by omega⟩
  · simp only [Permits, hprogress, Option.some.injEq, Waiting.progress_eq_late_iff]
    constructor
    · rintro ⟨hwaits, hclock⟩
      refine ⟨fun d hd hdelay ↦ ?_, by omega⟩
      have hlt := hwaits d hdelay
      omega
    · rintro ⟨hlong, hclock⟩
      refine ⟨fun d hdelay ↦ ?_, by omega⟩
      have hlt : ¬ d ≤ setup.timeout := fun hd ↦ hlong d hd hdelay
      omega

theorem OnTime.of_context (h : s.OnTime setup) {call : Begun π Auth.Context}
    (hpending : s.pending f = .context call) : s.EndsOnTime setup f call.delay :=
  .of_limit h (by rw [hpending, Pending.alarms]) (by rw [hpending, Pending.progress?])
    (by simp [hpending])

theorem OnTime.of_tile (h : s.OnTime setup) {call : Begun π Image}
    (hpending : s.pending f = .tile call) : s.EndsOnTime setup f call.delay :=
  .of_limit h (by rw [hpending, Pending.alarms]) (by rw [hpending, Pending.progress?])
    (by simp [hpending])

end

variable {r : Reading}

theorem Permits.of_idle (h : s.pending f = .none) (r : Reading) : s.Permits setup (.turn f r) :=
  .inl h

theorem Permits.offer_context (h : s.Permits setup (.turn f r)) {call : Begun π Auth.Context}
    (hpending : s.pending f = .context call) :
    s.toServing.Offer setup f r (.turn f r)
      (.seek f (.settle (call.finish r.now s.provider).2 r.issuedAt r.draw))
      (call.finish r.now s.provider).1 := by
  have hanswered : (setup.limit (s.since f) call).progress s.clock = .answered := by
    simpa [Permits, hpending, Pending.progress?] using h
  exact .context call hpending (Waiting.delay_ne_none hanswered)

theorem Permits.offer_tile (h : s.Permits setup (.turn f r)) {call : Begun π Image}
    (hpending : s.pending f = .tile call) :
    s.toServing.Offer setup f r (.turn f r) (.answer f (call.finish r.now s.provider).2)
      (call.finish r.now s.provider).1 := by
  have hanswered : (setup.limit (s.since f) call).progress s.clock = .answered := by
    simpa [Permits, hpending, Pending.progress?] using h
  exact .tile call hpending (Waiting.delay_ne_none hanswered)

theorem Permits.mayExceed_context (h : s.Permits setup (.expire f r))
    {call : Begun π Auth.Context} (hpending : s.pending f = .context call) :
    call.mayExceed setup.timeout = true := by
  have hlate : (setup.limit (s.since f) call).progress s.clock = .late := by
    simpa [Permits, hpending, Pending.progress?] using h
  exact Waiting.mayExceed hlate

theorem Permits.mayExceed_tile (h : s.Permits setup (.expire f r)) {call : Begun π Image}
    (hpending : s.pending f = .tile call) : call.mayExceed setup.timeout = true := by
  have hlate : (setup.limit (s.since f) call).progress s.clock = .late := by
    simpa [Permits, hpending, Pending.progress?] using h
  exact Waiting.mayExceed hlate

theorem passes_succ (s : Clocked π)
    (hwaiting : ∀ f progress, (s.pending f).progress? setup (s.since f) s.clock = some progress →
      progress = .waiting) : s.Passes setup (s.clock + 1) where
  le := Nat.le_succ _
  alarms f := by
    have hf := hwaiting f
    cases hpending : s.pending f with
    | none => simp [Pending.alarms]
    | context call | tile call =>
        rw [hpending] at hf
        exact Waiting.progress_eq_waiting_iff.mp (hf _ rfl)

end Clocked

end TileFetch.Simulation
