import TileFetch.Proofs.Auth.Cancellation

/-!
# Cycles that fail

A cycle that fails changes the number of cycles, the last failure and a counter; the context
stays as it was.  The failure is for the calls that waited for it.  A call that begins later
finds the old context as useless as it was before: until another cycle ends it returns nothing,
but refreshes, or waits for a refresh that was begun later.
-/

namespace TileFetch.Auth

open Time (Instant)

/-- A call that has not returned, and if it has looked has seen `g` cycles. -/
def Call.Awaits (g : Nat) : Call → Prop
  | .waiting seen => seen = g
  | .leading seen _ => seen = g
  | .done _ => False
  | _ => True

namespace Calls

variable {s t : Calls} {log late : List Mark} {e : Event} {m : Option Mark} {d g : Nat}
  {events : List Event}

theorem awaits_place (h : (s.call d).Awaits g) {c : Nat} {x : Call} (hx : c = d → x.Awaits g) :
    ((s.place c x).call d).Awaits g := by
  by_cases hd : d = c
  · subst hd
    simpa using hx rfl
  · rwa [call_place_of_ne s hd]

/-- No cycle has ended since there were `g` cycles, no context can be used, and call `d` began
since then; `late` is the log since then. -/
structure Unserved (d g : Nat) (events : List Event) (late : List Mark) (s : Calls) : Prop where
  generation_eq : s.cache.slot.generation = g
  awaits : (s.call d).Awaits g
  /-- The refresh in flight is a new one. -/
  invoked : ∀ c, s.holder = some c → c ∈ invocations late
  unusable : ∃ earlier ∈ times events, s.cache.slot.fresh? earlier = none

theorem Unserved.fresh?_eq_none (h : Unserved d g events late s)
    (hclock : ClockForward (events ++ [e])) {now : Instant} (hnow : e.time? = some now) :
    s.cache.slot.fresh? now = none := by
  obtain ⟨earlier, hmem, hnone⟩ := h.unusable
  exact Slot.fresh?_eq_none_of_notAfter hnone (hclock.notAfter hmem hnow)

theorem Unserved.awaits_move (h : Unserved d g events late s)
    (hclock : ClockForward (events ++ [e])) (hquiet : cycles m.toList = [])
    (hmove : s.Move e m t) : (t.call d).Awaits g := by
  cases hmove with
  | idle | accept => exact h.awaits
  | start c | leave c | giveUp c => exact awaits_place h.awaits fun _ ↦ trivial
  | hit c now snapshot hcall hfresh =>
      have hnone := h.fresh?_eq_none hclock (e := .step c (.look now)) rfl
      simp [hnone] at hfresh
  | miss c => exact awaits_place h.awaits fun _ ↦ h.generation_eq
  | share c now seen snapshot hcall hfree hseen | fail c now seen failure hcall hfree hseen
  | again c now seen hcall hfree hseen =>
      -- Such a call has waited since before the last cycle ended.
      apply awaits_place h.awaits
      rintro rfl
      have hsame : seen = g := by simpa [hcall, Call.Awaits] using h.awaits
      exact (hseen (h.generation_eq.trans hsame.symm)).elim
  | lead c now seen hcall hfree hseen =>
      exact awaits_place h.awaits fun _ ↦ hseen.symm.trans h.generation_eq
  | settle => simp [Mark.cycle?] at hquiet

theorem Unserved.invoked_move (h : Unserved d g events late s) (hmove : s.Move e m t) {c : Nat}
    (hc : t.holder = some c) : c ∈ invocations (late ++ m.toList) := by
  rw [invocations_append]
  cases hmove with
  | lead b =>
      obtain rfl : b = c := Option.some.inj hc
      simp [Mark.invoked?]
  | settle | giveUp => simp [conclude, Calls.giveUp] at hc
  | _ => exact List.mem_append_left _ (h.invoked c hc)

theorem Unserved.move (h : Unserved d g events late s) (hclock : ClockForward (events ++ [e]))
    (hquiet : cycles m.toList = []) (hmove : s.Move e m t) :
    Unserved d g (events ++ [e]) (late ++ m.toList) t := by
  have hgeneration : t.cache.slot.generation = s.cache.slot.generation := by
    cases hmove with
    | settle => simp [Mark.cycle?] at hquiet
    | accept snapshot haccepts => simp [Cache.invalidate, haccepts]
    | _ => rfl
  obtain ⟨earlier, hmem, hnone⟩ := h.unusable
  exact
    { generation_eq := hgeneration.trans h.generation_eq
      awaits := h.awaits_move hclock hquiet hmove
      invoked := fun _ ↦ h.invoked_move hmove
      unusable := ⟨earlier, mem_times_append hmem [e], hmove.fresh?_eq_none hgeneration hnone⟩ }

theorem Unserved.run (h : Unserved d g events [] s) (after : List Event)
    (hclock : ClockForward (events ++ after)) (hquiet : cycles (s.log after) = []) :
    Unserved d g (events ++ after) (s.log after) (s.run after) := by
  induction after using List.reverseRecOn with
  | nil => simpa using h
  | append_singleton after e ih =>
      rw [log_concat, cycles_append, List.append_eq_nil_iff] at hquiet
      rw [← List.append_assoc] at hclock ⊢
      rw [run_concat, log_concat]
      exact (ih hclock.of_append hquiet.1).move hclock hquiet.2 (move_step _ e)

theorem Unserved.not_done (h : Unserved d g events late s) (outcome : Outcome) :
    s.call d ≠ .done outcome := by
  intro hdone
  have hawaits := h.awaits
  rw [hdone] at hawaits
  exact hawaits

/-- Such a call waits for a new refresh, or will refresh once it gets the guard. -/
theorem Unserved.of_waiting (h : Unserved d g events late s) (hs : s.Consistent log) {read : Nat}
    (hwaiting : s.call d = .waiting read) :
    (∃ leader, s.Refreshes leader ∧ leader ∈ invocations late) ∨
      s.holder = none ∧ ∀ later, (s.step (.step d (.acquire later))).call d =
        .leading read s.cache.slot.previous := by
  cases hholder : s.holder with
  | some leader =>
      exact .inl ⟨leader, (hs.holder_eq_some_iff leader).mp hholder, h.invoked leader hholder⟩
  | none =>
      have hread : read = s.cache.slot.generation := by
        have hawaits := h.awaits
        rw [hwaiting] at hawaits
        exact hawaits.trans h.generation_eq.symm
      refine .inr ⟨rfl, ?_⟩
      intro later
      rw [hread] at hwaiting ⊢
      exact acquire_of_seen hwaiting hholder later

/-! ## The failure -/

theorem step_settle {c seen : Nat} {previous : Context} (hcall : s.call c = .leading seen previous)
    (result : Except Provider.Failure Context) (now : Instant) (draw : Nat) :
    s.step (.step c (.settle result now draw)) = s.conclude c result now draw := by
  simp [step, stepCall, settle, hcall, conclude]

/-- A call that begins once a cycle has failed is not served. -/
theorem unserved_of_failed (policy : Policy) (before : List Event) {c : Nat}
    {failure : Provider.Failure} {now : Instant} {draw : Nat}
    (hrefreshes : ((initial policy).run before).Refreshes c)
    (hd : (((initial policy).run before).conclude c (.error failure) now draw).call d = .absent)
    (e : Event) :
    Unserved d (((initial policy).run before).cache.slot.generation + 1) (before ++ [e]) []
      (((initial policy).run before).conclude c (.error failure) now draw) := by
  obtain ⟨earlier, hmem, hnone⟩ := exists_fresh?_eq_none_of_refreshes policy before hrefreshes
  refine ⟨rfl, ?_, ?_, earlier, mem_times_append hmem [e], hnone⟩
  · rw [hd]
    trivial
  · intro leader hleader
    simp [conclude] at hleader

/-- What a failed cycle leaves behind, be the failure a timeout or another one.  The flag is
lowered; then the number of cycles, the last failure and the counter of failures change, and the
context does not.  Until another cycle ends, a call that begins later returns nothing: it
refreshes, or it waits for a refresh that was begun later, or, if the guard is free, it will
refresh once it gets the guard. -/
theorem failed_cycle_leaves_error (policy : Policy) (before : List Event) (c seen : Nat)
    (previous : Context) (failure : Provider.Failure) (now : Instant) (draw : Nat)
    (hcall : ((initial policy).run before).call c = .leading seen previous) :
    let s := (initial policy).run before
    let e := Event.step c (.settle (.error failure) now draw)
    let t := s.step e
    let error : Handle Provider.Failure := ⟨s.cache.minted, failure⟩
    t.call c = .done (.error error) ∧
      t.cache.slot =
        { s.lower.cache.slot with
          generation := s.cache.slot.generation + 1
          lastFailure := some (s.cache.slot.generation + 1, error) } ∧
      t.cache.tally = { s.cache.tally with failures := s.cache.tally.failures + 1 } ∧
      t.cache.peek = s.cache.peek ∧
      ∀ after d, ClockForward (before ++ e :: after) → cycles (t.log after) = [] →
        t.call d = .absent →
        let u := t.run after
        (∀ outcome, u.call d ≠ .done outcome) ∧
          (u.Refreshes d → d ∈ invocations (t.log after)) ∧
          ∀ read, u.call d = .waiting read →
            (∃ leader, u.Refreshes leader ∧ leader ∈ invocations (t.log after)) ∨
              u.holder = none ∧ ∀ later, (u.step (.step d (.acquire later))).call d =
                .leading read previous := by
  intro s e t error
  have ht : t = s.conclude c (.error failure) now draw := step_settle hcall _ now draw
  refine ⟨?_, by rw [ht]; rfl, by rw [ht]; rfl, by rw [ht]; rfl, ?_⟩
  · rw [ht]
    exact call_place_self _ c _
  · intro after d hclock hquiet hd u
    have hrun : u = (initial policy).run ((before ++ [e]) ++ after) := by
      rw [run_append, run_concat]
    have hcontext : t.cache.slot.previous = previous := by
      rw [ht]
      exact (slot_of_refreshing policy before hcall).2
    have hu := consistent_run policy ((before ++ [e]) ++ after)
    obtain ⟨-, hprevious⟩ := slot_of_no_cycle policy (before ++ [e]) after
      (by rwa [run_concat])
    rw [← hrun] at hu hprevious
    rw [run_concat, hcontext] at hprevious
    rw [ht] at hd
    have hfailed := unserved_of_failed policy before ⟨seen, previous, hcall⟩ hd e
    rw [← ht] at hfailed
    rw [List.append_cons] at hclock
    have hlast := hfailed.run after hclock hquiet
    refine ⟨hlast.not_done, ?_, ?_⟩
    · intro hrefreshes
      exact hlast.invoked d (hu.holder_eq hrefreshes)
    · intro read hwaiting
      have hnext := hlast.of_waiting hu hwaiting
      rwa [hprevious] at hnext

def slowRefresh : List Event :=
  [.start 0, .step 0 (.look (moment 0)), .step 0 (.acquire (moment 0)),
    .step 0 (.settle (.ok (.ofToken "key")) (moment 0) 0),
    .start 1, .step 1 (.look (moment 6)), .start 2, .step 2 (.look (moment 6)),
    .step 1 (.acquire (moment 6))]

def tooSlow : Event :=
  .step 1 (.settle (.error (.ofTimeout "pre_auth" 20)) (moment 7) 0)

def afterTimeout : List Event :=
  [.step 2 (.acquire (moment 8)), .start 3, .step 3 (.look (moment 9))]

/-- The call that waited takes the failure; the next one waits, and will refresh the old
context. -/
theorem timeout_not_kept :
    let s := (initial (.ofAge 5)).run slowRefresh
    let t := s.step tooSlow
    let u := t.run afterTimeout
    s.call 1 = .leading 1 (.ofToken "key") ∧ t.cache.peek = s.cache.peek ∧
      u.call 2 = .done (.error ⟨1, .ofTimeout "pre_auth" 20⟩) ∧ u.call 3 = .waiting 2 ∧
      (u.step (.step 3 (.acquire (moment 9)))).call 3 = .leading 2 (.ofToken "key") := by
  intro s t u
  have hcall : s.call 1 = .leading 1 (.ofToken "key") := rfl
  have hclock : ClockForward (slowRefresh ++ tooSlow :: afterTimeout) := by
    unfold ClockForward
    decide
  have hquiet : cycles (t.log afterTimeout) = [] := rfl
  have hidle : ∀ leader, ¬ u.Refreshes leader :=
    (consistent_run (.ofAge 5) (slowRefresh ++ tooSlow :: afterTimeout)).not_refreshes rfl
  obtain ⟨-, -, -, hpeek, hlater⟩ := failed_cycle_leaves_error (.ofAge 5) slowRefresh 1 1
    (.ofToken "key") (.ofTimeout "pre_auth" 20) (moment 7) 0 hcall
  obtain ⟨-, -, hwaits⟩ := hlater afterTimeout 3 hclock hquiet rfl
  have hwaiting : u.call 3 = .waiting 2 := rfl
  refine ⟨hcall, hpeek, rfl, hwaiting, ?_⟩
  rcases hwaits 2 hwaiting with ⟨leader, hleader, -⟩ | ⟨-, hnext⟩
  · exact (hidle leader hleader).elim
  · exact hnext (moment 9)

end Calls

end TileFetch.Auth
