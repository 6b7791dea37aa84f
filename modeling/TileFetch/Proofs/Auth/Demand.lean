import TileFetch.Proofs.Auth.Cancellation

/-!
# When contexts are refreshed

A call refreshes at most once.  When it gets the guard it does not look for a context again: as
long as no cycle has ended since it looked, only reports can have changed the slot, and no
report makes a context usable.  What it refreshes is the context of the last cycle that
published one, whatever was given up or failed since then.
-/

namespace TileFetch.Auth

open Time (Instant)

def lastPublished (log : List Mark) : Context :=
  ((published (cycles log)).getLast?.map (·.context.value)).getD .blank

section Reflects

variable {s : Slot} {outcomes : List Outcome} {reported : List Nat}

theorem Slot.Reflects.fresh?_eq_none_iff (h : s.Reflects outcomes reported) {now : Instant} :
    s.fresh? now = none ↔ s.phase = .uninitialized ∨ s.phase = .stale ∨
      s.phase = .valid ∧ s.isDue now = true := by
  cases hphase : s.phase with
  | uninitialized | stale => simp [fresh?, hphase]
  | valid =>
      obtain ⟨snapshot, hsnapshot⟩ := h.exists_snapshot? (by simp [hphase])
      simp [fresh?, hphase, hsnapshot]
  | bypassed =>
      obtain ⟨snapshot, hsnapshot⟩ := h.exists_snapshot? (by simp [hphase])
      simp [fresh?, hphase, hsnapshot]

end Reflects

namespace Calls

variable {s t : Calls} {log : List Mark} {e : Event} {m : Option Mark} {c seen : Nat}
  {previous : Context}

theorem Consistent.previous_eq (h : s.Consistent log) :
    s.cache.slot.previous = lastPublished log := by
  rw [Slot.previous_eq, h.slot.snapshot?_eq]
  rfl

/-- A refresh is invoked by a call that gets the guard and has seen the last cycle. -/
theorem Move.of_invoked (h : s.Move e (some (.invoked c previous)) t) :
    ∃ now, e = .step c (.acquire now) ∧ s.call c = .waiting s.cache.slot.generation ∧
      previous = s.cache.slot.previous := by
  cases h with
  | lead c now seen hcall hfree hseen => exact ⟨now, rfl, hseen ▸ hcall, rfl⟩

theorem Move.looking_of_missed (h : s.Move e (some (.missed c seen)) t) : s.call c = .looking := by
  cases h with
  | miss c now hcall => exact hcall

/-! ## How often -/

theorem Consistent.not_mem_invocations (h : s.Consistent log)
    (hmove : s.Move e (some (.invoked c previous)) t) : c ∉ invocations log := by
  obtain ⟨now, -, hcall, -⟩ := hmove.of_invoked
  obtain ⟨-, hinvoked, -⟩ : (Call.waiting _).Fits c log := hcall ▸ h.fits c
  exact hinvoked

theorem invocations_nodup (policy : Policy) (events : List Event) :
    (invocations ((initial policy).log events)).Nodup := by
  induction events using List.reverseRecOn with
  | nil => exact List.nodup_nil
  | append_singleton events e ih =>
      have h := consistent_run policy events
      have hmove := move_step ((initial policy).run events) e
      rw [log_concat, invocations_append]
      cases hmark : ((initial policy).run events).mark? e with
      | none => simpa using ih
      | some m =>
          rw [hmark] at hmove
          cases m with
          | invoked c previous =>
              have hnew := h.not_mem_invocations hmove
              exact ih.append (List.nodup_singleton c) (by simpa [Mark.invoked?] using hnew)
          | _ => simpa [Mark.invoked?] using ih

/-! ## When -/

/-- A waiting call remembers the generation that it read last: the number of cycles that had
ended then. -/
theorem exists_missed (policy : Policy) (events : List Event)
    (hcall : ((initial policy).run events).call c = .waiting seen) :
    ∃ early late, (initial policy).log events = early ++ .missed c seen :: late ∧
      (∀ g, .missed c g ∉ late) ∧ (cycles early).length = seen := by
  induction events using List.reverseRecOn with
  | nil => simp [initial] at hcall
  | append_singleton events e ih =>
      have h := consistent_run policy events
      have hmove := move_step ((initial policy).run events) e
      rw [run_concat] at hcall
      rw [log_concat]
      rcases hmove.of_waiting hcall with hwaiting | ⟨now, -, hmark, -, -, hseen, -⟩
      · obtain ⟨early, late, hlog, hlast, hlength⟩ := ih hwaiting
        refine ⟨early, late ++ (((initial policy).run events).mark? e).toList, by simp [hlog],
          ?_, hlength⟩
        intro g hmem
        rcases List.mem_append.mp hmem with hlate | hnow
        · exact hlast g hlate
        · -- A call that waits has looked already.
          rw [Option.mem_toList] at hnow
          rw [Option.mem_def.mp hnow] at hmove
          have hlooking := hmove.looking_of_missed
          simp [hwaiting] at hlooking
      · refine ⟨(initial policy).log events, [], by rw [hmark]; rfl, by simp, ?_⟩
        rw [← h.slot.generation_eq]
        exact hseen

theorem exists_missed_of_seen (policy : Policy) (events : List Event)
    (hcall : ((initial policy).run events).call c =
      .waiting ((initial policy).run events).cache.slot.generation) :
    ∃ early seen late, (initial policy).log events = early ++ .missed c seen :: late ∧
      (∀ g, .missed c g ∉ late) ∧ cycles late = [] := by
  obtain ⟨early, late, hlog, hlast, hlength⟩ := exists_missed policy events hcall
  refine ⟨early, _, late, hlog, hlast, ?_⟩
  have hcount := (consistent_run policy events).slot.generation_eq
  have hcycles : cycles ((initial policy).log events) = cycles early ++ cycles late := by
    rw [hlog, cycles_append]
    rfl
  rw [hcycles, List.length_append] at hcount
  apply List.length_eq_zero_iff.mp
  omega

/-- When a call refreshes, and what.  It does so at most once, at a moment when no context can
be used: there is none, it was reported, or it is due.  No cycle has ended since the call looked
for a context the last time, and what it refreshes is what was published last.  The wall clock
must not be set back: else the context may not be due any more when the call gets the guard. -/
theorem refresh_on_demand (policy : Policy) (events : List Event) (hclock : ClockForward events)
    (c : Nat) :
    (invocations ((initial policy).log events)).count c ≤ 1 ∧
      ∀ before e after previous, events = before ++ e :: after →
        let s := (initial policy).run before
        let past := (initial policy).log before
        s.mark? e = some (.invoked c previous) →
          (∃ now, e = .step c (.acquire now) ∧
            (s.cache.slot.phase = .uninitialized ∨ s.cache.slot.phase = .stale ∨
              s.cache.slot.phase = .valid ∧ s.cache.slot.isDue now = true)) ∧
          (∃ early seen late, past = early ++ .missed c seen :: late ∧
            (∀ g, .missed c g ∉ late) ∧ cycles late = []) ∧
          previous = lastPublished past := by
  refine ⟨List.nodup_iff_count_le_one.mp (invocations_nodup policy events) c, ?_⟩
  intro before e after previous hevents s past hmark
  have h := consistent_run policy before
  have hmove := move_step s e
  rw [hmark] at hmove
  obtain ⟨now, rfl, hcall, rfl⟩ := hmove.of_invoked
  refine ⟨⟨now, rfl, ?_⟩, exists_missed_of_seen policy before hcall, h.previous_eq⟩
  obtain ⟨earlier, hmem, hnone⟩ := exists_fresh?_eq_none policy before c hcall
  have hforward : ClockForward (before ++ [.step c (.acquire now)]) := by
    rw [hevents, List.append_cons] at hclock
    exact hclock.of_append
  apply h.slot.fresh?_eq_none_iff.mp
  exact Slot.fresh?_eq_none_of_notAfter hnone (hforward.notAfter hmem rfl)

/-- A context is published and becomes due; then one call that refreshes is dropped, and the
refresh of another one fails. -/
def droppedAndFailed : List Event :=
  [.start 0, .step 0 (.look (moment 0)), .step 0 (.acquire (moment 0)),
    .step 0 (.settle (.ok (.ofToken "key")) (moment 0) 0),
    .start 1, .step 1 (.look (moment 6)), .step 1 (.acquire (moment 6)), .drop 1,
    .start 2, .step 2 (.look (moment 7)), .step 2 (.acquire (moment 7)),
    .step 2 (.settle (.error ⟨.fetch, "down", none⟩) (moment 8) 0),
    .start 3, .step 3 (.look (moment 9))]

/-- The next call refreshes the context that was published. -/
theorem published_refreshed_after_failure :
    let s := (initial (.ofAge 5)).run droppedAndFailed
    let e := Event.step 3 (.acquire (moment 9))
    ClockForward (droppedAndFailed ++ [e]) ∧
      s.mark? e = some (.invoked 3 (.ofToken "key")) ∧ s.cache.slot.phase = .valid ∧
      Context.ofToken "key" = lastPublished ((initial (.ofAge 5)).log droppedAndFailed) := by
  intro s e
  have hclock : ClockForward (droppedAndFailed ++ [e]) := by
    unfold ClockForward
    decide
  have hmark : s.mark? e = some (.invoked 3 (.ofToken "key")) := rfl
  obtain ⟨-, hinvoked⟩ := refresh_on_demand (.ofAge 5) (droppedAndFailed ++ [e]) hclock 3
  obtain ⟨-, -, hprevious⟩ := hinvoked droppedAndFailed e [] (.ofToken "key") rfl hmark
  exact ⟨hclock, hmark, rfl, hprevious⟩

/-- If the clock is set back while a call waits, it may refresh a context that can be used. -/
example :
    let s := (initial (.ofAge 5)).run
      [.start 0, .step 0 (.look (moment 0)), .step 0 (.acquire (moment 0)),
        .step 0 (.settle (.ok (.ofToken "key")) (moment 0) 0), .start 1, .step 1 (.look (moment 6))]
    s.cache.slot.fresh? (moment 4) = some ⟨1, ⟨0, .ofToken "key"⟩⟩ ∧
      s.mark? (.step 1 (.acquire (moment 4))) = some (.invoked 1 (.ofToken "key")) :=
  ⟨rfl, rfl⟩

end Calls

end TileFetch.Auth
