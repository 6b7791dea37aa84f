import TileFetch.Proofs.Auth.Leader
import TileFetch.Proofs.Auth.Returns

/-!
# Calls that are dropped

A waiting call leaves nothing behind.  A call that is dropped while it refreshes clears the
flag and then releases the guard, and the slot is as it was when the refresh began, but for
reports that were accepted meanwhile: the next call that has seen the same generation
refreshes in its place.
-/

namespace TileFetch.Auth

open Time (Instant)

theorem mem_cycles {log : List Mark} {outcome : Outcome} :
    outcome ∈ cycles log ↔ ∃ c, .ended c outcome ∈ log := by
  simp only [cycles, List.mem_filterMap]
  constructor
  · rintro ⟨m, hmem, hm⟩
    cases m with
    | ended c own =>
        obtain rfl : own = outcome := Option.some.inj hm
        exact ⟨c, hmem⟩
    | _ => simp [Mark.cycle?] at hm
  · rintro ⟨c, hmem⟩
    exact ⟨.ended c outcome, hmem, rfl⟩

theorem Slot.withFlag_eq_self {s : Slot} {flag : Bool} (h : s.refreshing = flag) :
    { s with refreshing := flag } = s := by
  subst h
  rfl

theorem Slot.previous_eq (s : Slot) :
    s.previous = (s.snapshot?.map (·.context.value)).getD .blank := by
  cases h : s.context <;> simp [previous, snapshot?, h]

namespace Calls

variable {s t : Calls} {log : List Mark} {e : Event} {m : Option Mark} {c seen : Nat}
  {previous : Context}

/-! ## The two halves of a drop -/

/-- The first half of dropping a call that refreshes: the flag is cleared. -/
def lower (s : Calls) : Calls :=
  { s with cache := s.cache.abandon }

/-- The second half: the guard is released. -/
def release (s : Calls) (c : Nat) : Calls :=
  { s with holder := none, abandoned := s.abandoned + 1 }.place c .dropped

@[simp] theorem call_lower (s : Calls) : s.lower.call = s.call := rfl

@[simp] theorem holder_lower (s : Calls) : s.lower.holder = s.holder := rfl

@[simp] theorem fresh?_lower (s : Calls) (now : Instant) :
    s.lower.cache.slot.fresh? now = s.cache.slot.fresh? now := rfl

@[simp] theorem generation_lower (s : Calls) :
    s.lower.cache.slot.generation = s.cache.slot.generation := rfl

@[simp] theorem place_lower (s : Calls) (c : Nat) (x : Call) :
    s.lower.place c x = (s.place c x).lower := rfl

theorem invalidate_abandon (c : Cache) (snapshot : Snapshot) :
    c.abandon.invalidate snapshot = (c.invalidate snapshot).abandon := by
  have haccepts : c.abandon.accepts snapshot = c.accepts snapshot := rfl
  unfold Cache.invalidate
  rw [haccepts]
  split <;> rfl

theorem drop_of_leading (hcall : s.call c = .leading seen previous) :
    s.step (.drop c) = s.lower.release c := by
  simp [step, drop, hcall, lower, release]

/-- While a call holds the guard, no step of the others reads or writes the flag. -/
theorem Consistent.step_lower (h : s.Consistent log) (hc : s.Refreshes c)
    (he : e.call? ≠ some c) : s.lower.step e = (s.step e).lower := by
  have hother : ∀ d, some d ≠ some c → ∀ read before, s.call d ≠ .leading read before := by
    intro d hd read before hcall
    exact hd (congrArg some (h.eq_of_refreshes ⟨read, before, hcall⟩ hc))
  cases e with
  | start d => cases hd : s.call d <;> simp [step, start, hd]
  | step d e =>
      cases e with
      | look now =>
          cases hd : s.call d with
          | looking => cases hf : s.cache.slot.fresh? now <;> simp [step, stepCall, look, hd, hf]
          | _ => simp [step, stepCall, look, hd]
      | acquire now => simp [step, stepCall, acquire, h.holder_eq hc]
      | settle result now draw =>
          cases hd : s.call d with
          | leading read before => exact (hother d he read before hd).elim
          | _ => simp [step, stepCall, settle, hd]
  | drop d =>
      cases hd : s.call d with
      | leading read before => exact (hother d he read before hd).elim
      | _ => simp [step, drop, hd]
  | invalidate snapshot =>
      simp only [step, lower, invalidate_abandon]

/-- So the others do not notice in which half of the drop they take their steps. -/
theorem Consistent.run_lower (h : s.Consistent log) (hcall : s.call c = .leading seen previous)
    {between : List Event} (hbetween : ∀ e ∈ between, e.call? ≠ some c) :
    s.lower.run between = (s.run between).lower := by
  -- By induction on the run; what carries it is that `c` refreshes all the time.
  induction between generalizing s log with
  | nil => rfl
  | cons e between ih =>
      have he : e.call? ≠ some c := hbetween e List.mem_cons_self
      have hmove := move_step s e
      have hsame : (s.step e).call c = .leading seen previous :=
        (hmove.call_eq_of_ne he).trans hcall
      rw [run_cons, h.step_lower ⟨seen, previous, hcall⟩ he, run_cons]
      exact ih (h.move hmove) hsame fun e' he' ↦ hbetween e' (List.mem_cons_of_mem e he')

/-! ## What calls return -/

theorem exists_ended_of_done (policy : Policy) (events : List Event) {d : Nat} {outcome : Outcome}
    (hdone : ((initial policy).run events).call d = .done outcome) :
    ∃ leader, .ended leader outcome ∈ (initial policy).log events := by
  rw [← mem_cycles]
  induction events using List.reverseRecOn with
  | nil => simp [initial] at hdone
  | append_singleton events e ih =>
      have h := consistent_run policy events
      have hmove := move_step ((initial policy).run events) e
      have ht := h.move hmove
      rw [run_concat] at hdone
      rw [log_concat]
      by_cases hearlier : ∃ own, ((initial policy).run events).call d = .done own
      · rw [hmove.call_eq_of_over (.inr hearlier)] at hdone
        rw [cycles_append]
        exact List.mem_append_left _ (ih hdone)
      · push Not at hearlier
        rcases hmove.mark_of_done hearlier hdone with hm | hm
        · rw [hm] at hmove ht ⊢
          cases outcome with
          | ok snapshot => exact ht.slot.ok_mem (h.returned_ok hmove).1
          | error failure =>
              rw [cycles_append]
              apply List.mem_append_left
              exact (cycles_since_suffix d _).subset
                (List.mem_of_getLast? (h.returned_error hmove))
        · simp [hm, Mark.cycle?]

theorem done_of_ended (policy : Policy) (events : List Event) {outcome : Outcome}
    (hended : .ended c outcome ∈ (initial policy).log events) :
    ((initial policy).run events).call c = .done outcome := by
  induction events using List.reverseRecOn with
  | nil => simp at hended
  | append_singleton events e ih =>
      have hmove := move_step ((initial policy).run events) e
      rw [run_concat]
      rw [log_concat, List.mem_append] at hended
      rcases hended with hearlier | hnow
      · exact (hmove.call_eq_of_over (.inr ⟨outcome, ih hearlier⟩)).trans (ih hearlier)
      · rw [Option.mem_toList] at hnow
        rw [Option.mem_def.mp hnow] at hmove
        generalize ((initial policy).run events).step e = t at hmove
        cases hmove with
        | settle => exact call_place_self _ c _

/-! ## Dropping calls -/

theorem drop_of_waiting (hcall : s.call c = .looking ∨ ∃ seen, s.call c = .waiting seen) :
    s.step (.drop c) = s.place c .dropped := by
  rcases hcall with hcall | ⟨seen, hcall⟩ <;> simp [step, drop, hcall]

/-- The slot after a refresh was given up is the slot from before it began, but for reports
that were accepted meanwhile. -/
theorem slot_of_dropped (policy : Policy) (events : List Event)
    (hcall : ((initial policy).run events).call c = .leading seen previous) :
    ∃ before now during, events = before ++ .step c (.acquire now) :: during ∧
      ((initial policy).run before).mark? (.step c (.acquire now)) = some (.invoked c previous) ∧
      (((initial policy).run events).step (.drop c)).cache.slot =
        ((initial policy).run before).cache.slot.afterReports
          (acceptances (((initial policy).run before).log
            (.step c (.acquire now) :: during))) := by
  obtain ⟨before, now, during, hevents, hmark, -, hfree, -, -, hslot⟩ :=
    exists_beginning policy events hcall
  refine ⟨before, now, during, hevents, hmark, ?_⟩
  generalize acceptances (((initial policy).run before).log (.step c (.acquire now) :: during)) =
    accepted at hslot ⊢
  have hidle : (((initial policy).run before).cache.slot.afterReports accepted).refreshing =
      false := by
    rw [Slot.refreshing_afterReports, refreshing_run, hfree]
    rfl
  calc (((initial policy).run events).step (.drop c)).cache.slot
      = { ((initial policy).run events).cache.slot with refreshing := false } := by
        rw [drop_of_leading hcall]
        rfl
    _ = { ((initial policy).run before).cache.slot.afterReports accepted with
          refreshing := false } := by rw [hslot]
    _ = ((initial policy).run before).cache.slot.afterReports accepted :=
        Slot.withFlag_eq_self hidle

/-- Between the halves of a drop the others may take any steps: the flag is clear, the guard is
held and nobody refreshes.  Once the guard is released, the drop is as if done in one step. -/
theorem Consistent.halves_of_drop (h : s.Consistent log)
    (hcall : s.call c = .leading seen previous) {between : List Event}
    (hbetween : ∀ e ∈ between, e.call? ≠ some c) :
    let u := s.lower.run between
    u.holder = some c ∧ u.cache.slot.refreshing = false ∧ (∀ d, u.Refreshes d → d = c) ∧
      (u.release c).cache = u.cache ∧ u.release c = (s.run between).step (.drop c) := by
  intro u
  have hu : u = (s.run between).lower := h.run_lower hcall hbetween
  have hlater : (s.run between).call c = .leading seen previous :=
    (call_run_of_ne s between hbetween).trans hcall
  have hbetween := h.run between
  refine ⟨?_, ?_, ?_, rfl, ?_⟩
  · rw [hu, holder_lower]
    exact hbetween.holder_eq ⟨seen, previous, hlater⟩
  · rw [hu]
    rfl
  · rw [hu]
    exact fun d hd ↦ hbetween.eq_of_refreshes hd ⟨seen, previous, hlater⟩
  · rw [hu]
    exact (drop_of_leading hlater).symm

theorem slot_of_no_cycle (policy : Policy) (events more : List Event)
    (hquiet : cycles (((initial policy).run events).log more) = []) :
    ((initial policy).run (events ++ more)).cache.slot.generation =
        ((initial policy).run events).cache.slot.generation ∧
      ((initial policy).run (events ++ more)).cache.slot.previous =
        ((initial policy).run events).cache.slot.previous := by
  have hbefore := (consistent_run policy events).slot
  have hafter := (consistent_run policy (events ++ more)).slot
  rw [log_append, cycles_append, hquiet, List.append_nil] at hafter
  refine ⟨hafter.generation_eq.trans hbefore.generation_eq.symm, ?_⟩
  rw [Slot.previous_eq, Slot.previous_eq, hafter.snapshot?_eq, hbefore.snapshot?_eq]

theorem acquire_of_seen (hcall : s.call c = .waiting s.cache.slot.generation)
    (hfree : s.holder = none) (now : Instant) :
    (s.step (.step c (.acquire now))).call c =
      .leading s.cache.slot.generation s.cache.slot.previous := by
  simp [step, stepCall, acquire, hcall, hfree, Cache.turn]

/-- What it means that a call is dropped.  If it waits, nothing else changes.  If it refreshes,
then the guard is free and the slot is as before the refresh, but for reports accepted
meanwhile; the flag is cleared while the guard is still held; until another cycle ends, a call
that gets the free guard and remembers the generation refreshes the same context; and what
calls return is never the outcome of the dropped refresh. -/
theorem drop_leaves_no_trace (policy : Policy) (events : List Event) (c : Nat) :
    let s := (initial policy).run events
    let t := s.step (.drop c)
    ((s.call c = .looking ∨ ∃ seen, s.call c = .waiting seen) →
      t.cache = s.cache ∧ t.holder = s.holder ∧ ∀ d, d ≠ c → t.call d = s.call d) ∧
    ∀ seen previous, s.call c = .leading seen previous →
      t.holder = none ∧
      (∃ before now during, events = before ++ .step c (.acquire now) :: during ∧
        let start := (initial policy).run before
        start.mark? (.step c (.acquire now)) = some (.invoked c previous) ∧
          t.cache.slot = start.cache.slot.afterReports
            (acceptances (start.log (.step c (.acquire now) :: during)))) ∧
      (∀ between, (∀ e ∈ between, e.call? ≠ some c) →
        let u := s.lower.run between
        u.holder = some c ∧ u.cache.slot.refreshing = false ∧ (∀ d, u.Refreshes d → d = c) ∧
          (u.release c).cache = u.cache ∧ u.release c = (s.run between).step (.drop c)) ∧
      (∀ after d now, cycles (t.log after) = [] → (t.run after).holder = none →
        (t.run after).call d = .waiting seen →
        ((t.run after).step (.step d (.acquire now))).call d = .leading seen previous) ∧
      ∀ after d outcome, (t.run after).call d = .done outcome →
        ∃ leader, leader ≠ c ∧
          .ended leader outcome ∈ (initial policy).log (events ++ .drop c :: after) := by
  intro s t
  have ht : ∀ after, t.run after = (initial policy).run (events ++ .drop c :: after) := by
    intro after
    rw [run_append, run_cons]
  refine ⟨?_, ?_⟩
  · intro hcall
    rw [show t = s.place c .dropped from drop_of_waiting hcall]
    exact ⟨rfl, rfl, fun d hd ↦ call_place_of_ne s hd _⟩
  · intro seen previous hcall
    have hdrop : t = s.lower.release c := drop_of_leading hcall
    refine ⟨by rw [hdrop]; rfl, slot_of_dropped policy events hcall, ?_, ?_, ?_⟩
    · exact fun between ↦ (consistent_run policy events).halves_of_drop hcall
    · intro after d now hquiet hfree hwaiting
      -- No cycle ends from the drop on, so the slot still says what the dropped call saw.
      have hmark : cycles (s.log (.drop c :: after)) = [] := by
        rw [log, cycles_append, hquiet, List.append_nil]
        simp [mark?, drop, hcall, Mark.ofMove?, Mark.cycle?]
      obtain ⟨hgeneration, hprevious⟩ := slot_of_no_cycle policy events _ hmark
      obtain ⟨hseen, hcontext⟩ := slot_of_refreshing policy events hcall
      rw [ht] at hfree hwaiting ⊢
      rw [hseen] at hgeneration
      rw [hcontext] at hprevious
      rw [← hgeneration] at hwaiting
      rw [acquire_of_seen hwaiting hfree now, hgeneration, hprevious]
    · intro after d outcome hdone
      rw [ht] at hdone
      obtain ⟨leader, hended⟩ := exists_ended_of_done policy _ hdone
      refine ⟨leader, ?_, hended⟩
      rintro rfl
      -- The dropped call would be done, but it stays dropped.
      have hreturned := done_of_ended policy _ hended
      have hdropped : t.call leader = .dropped := by
        rw [hdrop]
        exact call_place_self _ leader _
      rw [← ht, call_run_of_over t after (.inl hdropped), hdropped] at hreturned
      simp at hreturned

/-- Two calls find a context that is due; one of them refreshes it, and meanwhile it is
reported. -/
def reportedRefresh : List Event :=
  [.start 0, .step 0 (.look (moment 0)), .step 0 (.acquire (moment 0)),
    .step 0 (.settle (.ok (.ofToken "key")) (moment 0) 0),
    .start 1, .step 1 (.look (moment 9)), .start 2, .step 2 (.look (moment 9)),
    .step 1 (.acquire (moment 9)), .invalidate ⟨1, ⟨0, .ofToken "key"⟩⟩]

/-- If that call is dropped, the report stays, and the other call refreshes the same context. -/
theorem successor_refreshes :
    let s := (initial (.ofAge 1)).run reportedRefresh
    let t := s.step (.drop 1)
    s.call 1 = .leading 1 (.ofToken "key") ∧ t.cache.slot.phase = .stale ∧
      (t.step (.step 2 (.acquire (moment 9)))).call 2 = .leading 1 (.ofToken "key") := by
  intro s t
  have hleading : s.call 1 = .leading 1 (.ofToken "key") := rfl
  have hwaiting : t.call 2 = .waiting 1 := rfl
  obtain ⟨-, hdropped⟩ := drop_leaves_no_trace (.ofAge 1) reportedRefresh 1
  obtain ⟨-, -, -, hnext, -⟩ := hdropped 1 (.ofToken "key") hleading
  exact ⟨hleading, rfl, hnext [] 2 (moment 9) rfl rfl hwaiting⟩

/-- The order of the halves matters: were the guard released first, the flag that is cleared
could be that of the successor. -/
example :
    let s := (((initial (.ofAge 1)).run reportedRefresh).release 1).step
      (.step 2 (.acquire (moment 9)))
    s.Refreshes 2 ∧ s.cache.slot.refreshing = true ∧ s.lower.cache.slot.refreshing = false :=
  ⟨⟨1, _, rfl⟩, rfl, rfl⟩

end Calls

end TileFetch.Auth
