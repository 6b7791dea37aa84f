import TileFetch.Proofs.Auth.Reachable

/-!
# What a call returns

A call that returns a context returns the context of the slot, against which no report was
ever accepted: one that can be used at that moment, or one that was published since the call
began.  A call that returns a failure returns the failure of the last cycle, which ended
since the call began.
-/

namespace TileFetch.Auth

open Time (Instant)

/-- The context of a cycle that ended last is the outcome of that cycle. -/
theorem Slot.Reflects.getLast?_eq_ok {s : Slot} {outcomes : List Outcome}
    {reported : List Nat} (h : s.Reflects outcomes reported) {snapshot : Snapshot}
    (hs : s.snapshot? = some snapshot) (hlatest : s.contextGeneration = s.generation) :
    outcomes.getLast? = some (.ok snapshot) := by
  have hfollows := h.follows
  cases hlast : outcomes.getLast? with
  | none =>
      rw [hlast] at hfollows
      have hnone := h.context_eq_none_iff.mpr hfollows.1
      rw [snapshot?_eq_none_iff.mpr hnone] at hs
      simp at hs
  | some outcome =>
      rw [hlast] at hfollows
      cases outcome with
      | ok last =>
          have hsame : last = snapshot := Option.some.inj (hfollows.1.symm.trans hs)
          rw [hsame]
      | error failure =>
          have hlt := hfollows.2
          omega

theorem Slot.Reflects.getLast?_eq_error {s : Slot} {outcomes : List Outcome}
    {reported : List Nat} (h : s.Reflects outcomes reported)
    {failure : Handle Provider.Failure} (hs : s.latestFailure? = some failure) :
    outcomes.getLast? = some (.error failure) := by
  have hfollows := h.follows
  have hfailure := latestFailure?_eq_some_iff.mp hs
  cases hlast : outcomes.getLast? with
  | none =>
      rw [hlast] at hfollows
      simp [hfollows.2] at hfailure
  | some outcome =>
      rw [hlast] at hfollows
      cases outcome with
      | ok last => simp [hfollows.2.2] at hfailure
      | error other =>
          have hsame := hfollows.1.symm.trans hfailure
          simp only [Option.some.injEq, Prod.mk.injEq, true_and] at hsame
          rw [hsame]

namespace Calls

variable {s t : Calls} {log : List Mark} {e : Event} {m : Option Mark}

theorem Move.mark_of_done (h : s.Move e m t) {c : Nat} {outcome : Outcome}
    (hpending : ∀ o, s.call c ≠ .done o) (hdone : t.call c = .done outcome) :
    m = some (.returned c outcome) ∨ m = some (.ended c outcome) := by
  have hne : t.call c ≠ s.call c := by
    rw [hdone]
    exact fun heq ↦ hpending outcome heq.symm
  obtain ⟨mark, hmark, hc⟩ := h.exists_mark hne
  cases h with
  | idle => simp at hmark
  | accept => exact (hne rfl).elim
  | hit | share | fail =>
      obtain rfl := Option.mem_some_iff.mp hmark
      obtain rfl := Option.some.inj hc
      left
      simpa using hdone
  | settle =>
      obtain rfl := Option.mem_some_iff.mp hmark
      obtain rfl := Option.some.inj hc
      right
      simpa [conclude] using hdone
  | _ =>
      obtain rfl := Option.mem_some_iff.mp hmark
      obtain rfl := Option.some.inj hc
      simp [Calls.lead, Calls.giveUp] at hdone

theorem mem_returns_of_done (s : Calls) (events : List Event) {c : Nat} {outcome : Outcome}
    (hpending : ∀ o, s.call c ≠ .done o) (hdone : (s.run events).call c = .done outcome) :
    outcome ∈ returns (s.log events) := by
  induction events generalizing s with
  | nil => exact (hpending outcome hdone).elim
  | cons e events ih =>
      rw [log, returns_append, List.mem_append]
      by_cases hnow : ∃ o, (s.step e).call c = .done o
      · obtain ⟨own, hown⟩ := hnow
        obtain rfl : own = outcome := by
          rw [run_cons, call_run_of_over (s.step e) events (.inr ⟨own, hown⟩), hown] at hdone
          exact Call.done.inj hdone
        left
        rcases (move_step s e).mark_of_done hpending hown with hm | hm <;>
          simp [hm, Mark.outcome?]
      · push Not at hnow
        exact .inr (ih (s.step e) hnow hdone)

/-- If a cycle has ended since a waiting call looked, then the last cycle ended since the
call began. -/
theorem Consistent.getLast?_cycles_since (h : s.Consistent log) {c seen : Nat}
    (hcall : s.call c = .waiting seen) (hseen : s.cache.slot.generation ≠ seen) :
    (cycles (since c log)).getLast? = (cycles log).getLast? := by
  obtain ⟨-, -, hle, hsince⟩ : (Call.waiting seen).Fits c log := hcall ▸ h.fits c
  have hgeneration := h.slot.generation_eq
  obtain ⟨past, hpast⟩ := cycles_since_suffix c log
  have hne : cycles (since c log) ≠ [] := by
    intro hnil
    rw [hnil, List.length_nil] at hsince
    omega
  rw [← hpast, List.getLast?_append_of_ne_nil _ hne]

theorem Consistent.returned_ok (h : s.Consistent log) {c : Nat} {snapshot : Snapshot}
    (hmove : s.Move e (some (.returned c (.ok snapshot))) t) :
    t.cache.peek = some snapshot ∧ snapshot.generation ∉ acceptances log ∧
      (snapshot.isBypassed = true ∨
        (∃ now, e.time? = some now ∧ t.cache.slot.isDue now = false) ∨
        .ok snapshot ∈ cycles (since c log)) := by
  have hfound : ∀ now, s.cache.slot.fresh? now = some snapshot →
      s.cache.slot.snapshot? = some snapshot ∧ snapshot.generation ∉ acceptances log ∧
        (snapshot.isBypassed = true ∨ s.cache.slot.isDue now = false) := by
    intro now hfresh
    obtain ⟨hs, hphase⟩ := Slot.snapshot?_of_fresh? hfresh
    refine ⟨hs, h.slot.not_reported hs (hphase.imp_right And.left), ?_⟩
    rcases hphase with hbypassed | ⟨-, hdue⟩
    · obtain ⟨x, hx, hbypass⟩ := h.slot.phase_eq_bypassed_iff.mp hbypassed
      obtain rfl : x = snapshot := Option.some.inj (hx.symm.trans hs)
      exact .inl hbypass
    · exact .inr hdue
  cases hmove with
  | hit c now snapshot hcall hfresh =>
      obtain ⟨hs, hreported, husable⟩ := hfound now hfresh
      exact ⟨hs, hreported, husable.imp_right fun hdue ↦ .inl ⟨now, rfl, hdue⟩⟩
  | share c now seen snapshot hcall hfree hseen hcontext =>
      rcases Option.or_eq_some_iff.mp hcontext with hfresh | ⟨-, hlatest⟩
      · obtain ⟨hs, hreported, husable⟩ := hfound now hfresh
        exact ⟨hs, hreported, husable.imp_right fun hdue ↦ .inl ⟨now, rfl, hdue⟩⟩
      · obtain ⟨hs, hgeneration, hphase⟩ := Slot.snapshot?_of_latest? hlatest
        refine ⟨hs, h.slot.not_reported hs hphase, .inr (.inr ?_)⟩
        apply List.mem_of_getLast?
        rw [h.getLast?_cycles_since hcall hseen]
        exact h.slot.getLast?_eq_ok hs hgeneration

theorem Consistent.returned_error (h : s.Consistent log) {c : Nat}
    {failure : Handle Provider.Failure}
    (hmove : s.Move e (some (.returned c (.error failure))) t) :
    (cycles (since c log)).getLast? = some (.error failure) := by
  cases hmove with
  | fail c now seen failure hcall hfree hseen hcontext hfailure =>
      rw [h.getLast?_cycles_since hcall hseen]
      exact h.slot.getLast?_eq_error hfailure

theorem Consistent.began_of_returned (h : s.Consistent log) {c : Nat} {outcome : Outcome}
    (hmove : s.Move e (some (.returned c outcome)) t) : .began c ∈ log := by
  cases hmove with
  | hit c now snapshot hcall =>
      obtain ⟨hbegan, -⟩ : Call.looking.Fits c log := hcall ▸ h.fits c
      exact hbegan
  | share c now seen snapshot hcall | fail c now seen failure hcall =>
      obtain ⟨hbegan, -⟩ : (Call.waiting seen).Fits c log := hcall ▸ h.fits c
      exact hbegan

/-- A call that refreshed has begun, and what it published is new. -/
theorem Consistent.ended (h : s.Consistent log) {c : Nat} {outcome : Outcome}
    (hmove : s.Move e (some (.ended c outcome)) t) :
    .began c ∈ log ∧ ∀ snapshot, outcome = .ok snapshot →
      t.cache.peek = some snapshot ∧ snapshot.generation ∉ acceptances log ∧
        s.cache.slot.generation < snapshot.generation := by
  cases hmove with
  | settle c result now draw seen previous hcall =>
      obtain ⟨hbegan, -⟩ : (Call.leading seen previous).Fits c log := hcall ▸ h.fits c
      refine ⟨hbegan, ?_⟩
      intro snapshot hsnapshot
      cases result with
      | error failure => simp [Cache.settled] at hsnapshot
      | ok context =>
          obtain rfl := Except.ok.inj hsnapshot
          refine ⟨rfl, ?_, Nat.lt_succ_self _⟩
          intro hmem
          have hle := h.slot.reported_le _ hmem
          have hlatest := h.slot.follows.contextGeneration_le
          simp only at hle
          omega

/-- A call that returns a context returns a newer one than those that were retired. -/
theorem Consistent.lt_generation_of_done (h : s.Consistent log) (hmove : s.Move e m t) {c g : Nat}
    {snapshot : Snapshot} (hretired : s.cache.slot.Retired g)
    (hpending : ∀ o, s.call c ≠ .done o) (hdone : t.call c = .done (.ok snapshot)) :
    g < snapshot.generation := by
  have hpresent : ∀ found, s.cache.slot.snapshot? = some found →
      s.cache.slot.phase ≠ .stale → g < found.generation := by
    intro found hfound hphase
    rw [← (Slot.snapshot?_eq_some_iff.mp hfound).2]
    exact hretired.resolve_right fun hstale ↦ hphase hstale.2
  have hfresh : ∀ now found, s.cache.slot.fresh? now = some found → g < found.generation := by
    intro now found hfound
    obtain ⟨hs, hphase⟩ := Slot.snapshot?_of_fresh? hfound
    refine hpresent found hs ?_
    rcases hphase with hphase | ⟨hphase, -⟩ <;> simp [hphase]
  rcases hmove.mark_of_done hpending hdone with rfl | rfl
  · cases hmove with
    | hit c now snapshot hcall hfound => exact hfresh now snapshot hfound
    | share c now seen snapshot hcall hfree hseen hcontext =>
        rcases Option.or_eq_some_iff.mp hcontext with hfound | ⟨-, hlatest⟩
        · exact hfresh now snapshot hfound
        · obtain ⟨hs, -, hphase⟩ := Slot.snapshot?_of_latest? hlatest
          refine hpresent snapshot hs ?_
          rcases hphase with hphase | hphase <;> simp [hphase]
  · -- What the call published itself is newer than anything before.
    obtain ⟨-, hpublished⟩ := h.ended hmove
    obtain ⟨-, -, hnew⟩ := hpublished snapshot rfl
    have hle := h.slot.follows.contextGeneration_le
    rcases hretired with hlt | ⟨heq, -⟩ <;> omega

/-- What a call may return.  A context is the one of the slot, no report against it was ever
accepted, and it bypasses authentication, or is not due, or was published since the call
began.  A failure is the one of the last cycle, which ended since the call began. -/
theorem outcome_of_call (policy : Policy) (events : List Event) (e : Event) (c : Nat)
    (outcome : Outcome)
    (hpending : ∀ o, ((initial policy).run events).call c ≠ .done o)
    (hdone : ((initial policy).run (events ++ [e])).call c = .done outcome) :
    let cache := ((initial policy).run (events ++ [e])).cache
    let log := (initial policy).log (events ++ [e])
    match outcome with
    | .ok snapshot =>
        cache.peek = some snapshot ∧ snapshot.generation ∉ acceptances log ∧
          (snapshot.isBypassed = true ∨
            (∃ now, e.time? = some now ∧ cache.slot.isDue now = false) ∨
            .ok snapshot ∈ cycles (since c log))
    | .error failure =>
        (cycles log).getLast? = some (.error failure) ∧
          (cycles (since c log)).getLast? = some (.error failure) := by
  have h := consistent_run policy events
  have hmove := move_step ((initial policy).run events) e
  rw [run_concat] at hdone
  simp only [run_concat, log_concat]
  rcases hmove.mark_of_done hpending hdone with hm | hm
  · rw [hm] at hmove ⊢
    have hbegan := h.began_of_returned hmove
    cases outcome with
    | ok snapshot =>
        obtain ⟨hpeek, hreported, husable⟩ := h.returned_ok hmove
        refine ⟨hpeek, by simpa [Mark.accepted?] using hreported, ?_⟩
        simpa [since_append hbegan, Mark.cycle?] using husable
    | error failure =>
        have hlast := h.returned_error hmove
        obtain ⟨past, hpast⟩ := cycles_since_suffix c ((initial policy).log events)
        have hlog : (cycles ((initial policy).log events)).getLast? = some (.error failure) := by
          rw [← hpast, List.getLast?_append, hlast, Option.some_or]
        exact ⟨by simpa [Mark.cycle?] using hlog,
          by simpa [since_append hbegan, Mark.cycle?] using hlast⟩
  · rw [hm] at hmove ⊢
    obtain ⟨hbegan, hpublished⟩ := h.ended hmove
    cases outcome with
    | ok snapshot =>
        obtain ⟨hpeek, hreported, -⟩ := hpublished snapshot rfl
        refine ⟨hpeek, by simpa [Mark.accepted?] using hreported, .inr (.inr ?_)⟩
        simp [since_append hbegan, Mark.cycle?]
    | error failure => simp [since_append hbegan, Mark.cycle?]

def oneFails : List Event :=
  [.start 0, .start 1, .step 0 (.look (moment 0)), .step 1 (.look (moment 1)),
    .step 0 (.acquire (moment 2)), .step 0 (.settle (.error ⟨.fetch, "down", none⟩) (moment 3) 0)]

/-- The call that waited has the failure, and the cycle ended after it began. -/
theorem failure_of_waiting_call :
    ((initial .reactive).run oneFails).call 1 = .waiting 0 ∧
      (cycles (since 1 ((initial .reactive).log
        (oneFails ++ [.step 1 (.acquire (moment 4))])))).getLast? =
          some (.error ⟨0, ⟨.fetch, "down", none⟩⟩) := by
  have hwaiting : ((initial .reactive).run oneFails).call 1 = .waiting 0 := rfl
  have hpending : ∀ o, ((initial .reactive).run oneFails).call 1 ≠ .done o := by
    simp [hwaiting]
  obtain ⟨-, hsince⟩ := outcome_of_call .reactive oneFails (.step 1 (.acquire (moment 4))) 1
    (.error ⟨0, ⟨.fetch, "down", none⟩⟩) hpending rfl
  exact ⟨hwaiting, hsince⟩

end Calls

end TileFetch.Auth
