import TileFetch.Proofs.Auth.Clock

/-!
# Single flight

Some calls have read one generation without finding a context they could use.  If from then
on only they take steps, none of them is dropped and no report is accepted, then one of them
refreshes, in a single cycle, and all of them return the outcome of that cycle.  The stages
of such a run are `Gathering` in front of the guard, `Flying` while one of the calls
refreshes, and `Landed`, when the others share the outcome in any order.

A published context is shared whatever the wall clock says.  A failure is shared if the clock
is not set back: else a context that was due may be usable again.
-/

namespace TileFetch.Auth

open Time (Instant)

def Slot.Answers (s : Slot) : Outcome → Prop
  | .ok snapshot => s.latest? = some snapshot
  | .error failure => s.latest? = none ∧ s.latestFailure? = some failure

/-- A cycle that ends leaves its outcome for the calls that waited for it. -/
theorem Slot.answers_settle {c : Cache} (hle : c.slot.contextGeneration ≤ c.slot.generation)
    (result : Except Provider.Failure Context) (now : Instant) (draw : Nat) :
    (c.settle result now draw).slot.Answers (c.settled result) := by
  cases result with
  | ok context =>
      cases hbypass : context.bypass <;>
        simp [Cache.settle, Cache.publish, Cache.settled, Answers, latest?, snapshot?, hbypass]
  | error failure =>
      have hne : c.slot.contextGeneration ≠ c.slot.generation + 1 := by omega
      refine ⟨?_, ?_⟩
      · cases hphase : c.slot.phase <;>
          simp [Cache.settle, Cache.reject, latest?, hphase, hne]
      · simp [Cache.settle, Cache.reject, latestFailure?]

section Answers

variable {s : Slot} {outcome : Outcome} {now : Instant}

/-- A context that is shared is the one of the cycle.  After a failed cycle it is an old
context that can be used again. -/
theorem Slot.Answers.of_shared (h : s.Answers outcome) {snapshot : Snapshot}
    (hcontext : (s.fresh? now).or s.latest? = some snapshot) :
    outcome = .ok snapshot ∨
      ∃ failure, outcome = .error failure ∧ s.fresh? now = some snapshot := by
  cases outcome with
  | ok latest =>
      left
      have hlatest : s.snapshot? = some latest := (snapshot?_of_latest? h).1
      have hshared : s.snapshot? = some snapshot := by
        rcases Option.or_eq_some_iff.mp hcontext with hfresh | ⟨-, hsame⟩
        · exact (snapshot?_of_fresh? hfresh).1
        · exact (snapshot?_of_latest? hsame).1
      rw [Option.some.inj (hlatest.symm.trans hshared)]
  | error failure =>
      right
      obtain ⟨hlatest, -⟩ := h
      refine ⟨failure, rfl, ?_⟩
      rw [hlatest, Option.or_none] at hcontext
      exact hcontext

theorem Slot.Answers.of_not_shared (h : s.Answers outcome)
    (hcontext : (s.fresh? now).or s.latest? = none) :
    ∃ failure, outcome = .error failure ∧ s.latestFailure? = some failure := by
  obtain ⟨-, hlatest⟩ := Option.or_eq_none_iff.mp hcontext
  cases outcome with
  | ok latest =>
      have hsome : s.latest? = some latest := h
      simp [hsome] at hlatest
  | error failure => exact ⟨failure, rfl, h.2⟩

end Answers

theorem Slot.Answers.generation_eq {s : Slot} {snapshot : Snapshot}
    (h : s.Answers (.ok snapshot)) : snapshot.generation = s.generation := by
  obtain ⟨hsnapshot, hlatest, -⟩ := snapshot?_of_latest? h
  exact (snapshot?_eq_some_iff.mp hsnapshot).2.symm.trans hlatest

namespace Calls

variable {s t : Calls} {log : List Mark} {e : Event} {m : Option Mark}

/-! ## The window in which the calls are alone -/

/-- A call has read a generation: it waits, or it refreshes already. -/
def HasRead (s : Calls) (c g : Nat) : Prop :=
  s.call c = .waiting g ∨ ∃ previous, s.call c = .leading g previous

def Returned (s : Calls) (c : Nat) : Prop :=
  ∃ outcome, s.call c = .done outcome

/-- No call but those of `W` is made or goes on, none is dropped, and no report is
accepted. -/
def Admits (s : Calls) (W : Finset Nat) : Event → Prop
  | .start _ => False
  | .step c _ => c ∈ W
  | .drop _ => False
  | .invalidate snapshot => s.cache.accepts snapshot = false

def Undisturbed (W : Finset Nat) : Calls → List Event → Prop
  | _, [] => True
  | s, e :: events => s.Admits W e ∧ Undisturbed W (s.step e) events

theorem undisturbed_concat (W : Finset Nat) (s : Calls) (events : List Event) (e : Event) :
    Undisturbed W s (events ++ [e]) ↔ Undisturbed W s events ∧ (s.run events).Admits W e := by
  induction events generalizing s with
  | nil => simp [Undisturbed]
  | cons d events ih =>
      rw [List.cons_append, Undisturbed, ih, Undisturbed, run_cons, and_assoc]

/-! ## The stages of a flight -/

section Stages

variable (W : Finset Nat) (g : Nat) (outcomes : List Outcome)

structure Gathering (log : List Mark) (s : Calls) : Prop where
  generation_eq : s.cache.slot.generation = g
  holder_eq : s.holder = none
  waiting : ∀ c ∈ W, s.call c = .waiting g
  invoked : (invocations log).filter (· ∈ W) = []
  cycles_eq : cycles log = outcomes

structure Flying (leader : Nat) (log : List Mark) (s : Calls) : Prop where
  mem : leader ∈ W
  generation_eq : s.cache.slot.generation = g
  holder_eq : s.holder = some leader
  leading : ∃ previous, s.call leader = .leading g previous
  waiting : ∀ c ∈ W, c ≠ leader → s.call c = .waiting g
  invoked : (invocations log).filter (· ∈ W) = [leader]
  cycles_eq : cycles log = outcomes

structure Landed (leader : Nat) (outcome : Outcome) (events : List Event) (log : List Mark)
    (s : Calls) : Prop where
  mem : leader ∈ W
  generation_eq : s.cache.slot.generation = g + 1
  holder_eq : s.holder = none
  call_cases : ∀ c ∈ W, s.call c = .waiting g ∨ s.Returned c
  shared : (∃ snapshot, outcome = .ok snapshot) ∨ ClockForward events →
    ∀ c ∈ W, ∀ own, s.call c = .done own → own = outcome
  answers : s.cache.slot.Answers outcome
  /-- A call that waits for a failure found no context it could use, and there is no new one. -/
  unusable : ∀ failure, outcome = .error failure → ∀ c ∈ W, s.call c = .waiting g →
    ∃ earlier ∈ times events, s.cache.slot.fresh? earlier = none
  invoked : (invocations log).filter (· ∈ W) = [leader]
  cycles_eq : cycles log = outcomes ++ [outcome]

inductive Flight (events : List Event) (log : List Mark) (s : Calls) : Prop where
  | gathering (h : Gathering W g outcomes log s)
  | flying (leader : Nat) (h : Flying W g outcomes leader log s)
  | landed (leader : Nat) (outcome : Outcome)
      (h : Landed W g outcomes leader outcome events log s)

end Stages

variable {W : Finset Nat} {g leader : Nat} {outcome : Outcome} {outcomes : List Outcome}
  {events : List Event}

/-- While the calls gather, the first to get the guard begins to refresh. -/
theorem Gathering.move (h : Gathering W g outcomes log s) (hadmits : s.Admits W e)
    (hmove : s.Move e m t) : Flight W g outcomes (events ++ [e]) (log ++ m.toList) t := by
  cases hmove with
  | idle => exact .gathering (by simpa using h)
  | start | leave | giveUp => exact hadmits.elim
  | accept snapshot haccepts => simp [Admits, haccepts] at hadmits
  | hit c now snapshot hcall | miss c now hcall => simp [h.waiting c hadmits] at hcall
  | settle c result now draw seen previous hcall => simp [h.waiting c hadmits] at hcall
  | share c now seen snapshot hcall hfree hseen | fail c now seen failure hcall hfree hseen
  | again c now seen hcall hfree hseen =>
      have hsame : g = seen := by simpa [h.waiting c hadmits] using hcall
      exact (hseen (h.generation_eq.trans hsame)).elim
  | lead c now seen hcall =>
      have hc : c ∈ W := hadmits
      obtain rfl : g = seen := by simpa [h.waiting c hc] using hcall
      refine .flying c ⟨hc, h.generation_eq, rfl, ⟨_, call_place_self _ c _⟩, ?_, ?_, ?_⟩
      · intro d hd hne
        exact (call_place_of_ne _ hne _).trans (h.waiting d hd)
      · simp [h.invoked, Mark.invoked?, hc]
      · simp [h.cycles_eq, Mark.cycle?]

/-- While one of the calls refreshes, nothing happens until its refresh ends. -/
theorem Flying.move (h : Flying W g outcomes leader log s) (hs : s.Consistent log)
    (hunusable : ∀ c, s.call c = .waiting s.cache.slot.generation →
      ∃ earlier ∈ times events, s.cache.slot.fresh? earlier = none)
    (hadmits : s.Admits W e) (hmove : s.Move e m t) :
    Flight W g outcomes (events ++ [e]) (log ++ m.toList) t := by
  have hplace : ∀ c ∈ W, s.call c = .waiting g ∨ ∃ previous, s.call c = .leading g previous := by
    intro c hc
    by_cases hleader : c = leader
    · exact .inr (hleader ▸ h.leading)
    · exact .inl (h.waiting c hc hleader)
  cases hmove with
  | idle => exact .flying leader (by simpa using h)
  | start | leave | giveUp => exact hadmits.elim
  | accept snapshot haccepts => simp [Admits, haccepts] at hadmits
  | hit c now snapshot hcall | miss c now hcall =>
      rcases hplace c hadmits with hother | ⟨previous, hother⟩ <;> simp [hother] at hcall
  | share c now seen snapshot hcall hfree | fail c now seen failure hcall hfree
  | again c now seen hcall hfree | lead c now seen hcall hfree =>
      simp [h.holder_eq] at hfree
  | settle c result now draw seen previous hcall =>
      obtain rfl : c = leader := by
        by_contra hne
        simp [h.waiting c hadmits hne] at hcall
      refine .landed c (s.cache.settled result) ⟨hadmits, ?_, rfl, ?_, ?_, ?_, ?_, ?_, ?_⟩
      · cases result <;>
          simp [conclude, Cache.settle, Cache.publish, Cache.reject, h.generation_eq]
      · intro d hd
        by_cases hdc : d = c
        · exact .inr ⟨s.cache.settled result, hdc ▸ call_place_self _ c _⟩
        · exact .inl ((call_place_of_ne _ hdc _).trans (h.waiting d hd hdc))
      · intro _ d hd own hown
        by_cases hdc : d = c
        · subst hdc
          simpa [conclude, eq_comm] using hown
        · simp [conclude, call_place_of_ne _ hdc, h.waiting d hd hdc] at hown
      · exact Slot.answers_settle hs.slot.follows.contextGeneration_le result now draw
      · intro failure hfailure d hd hwaiting
        have hdc : d ≠ c := by
          rintro rfl
          simp [conclude] at hwaiting
        obtain ⟨earlier, hmem, hnone⟩ :=
          hunusable d (h.generation_eq.symm ▸ h.waiting d hd hdc)
        refine ⟨earlier, mem_times_append hmem _, ?_⟩
        cases result with
        | ok context => simp [Cache.settled] at hfailure
        | error failure => exact hnone
      · simp [h.invoked, Mark.invoked?]
      · simp [h.cycles_eq, Mark.cycle?]

theorem Landed.later (h : Landed W g outcomes leader outcome events log s) (e : Event) :
    Landed W g outcomes leader outcome (events ++ [e]) log s where
  mem := h.mem
  generation_eq := h.generation_eq
  holder_eq := h.holder_eq
  call_cases := h.call_cases
  shared := by
    intro hclock
    exact h.shared (hclock.imp_right ClockForward.of_append)
  answers := h.answers
  unusable := by
    intro failure hfailure c hc hwaiting
    obtain ⟨earlier, hmem, hnone⟩ := h.unusable failure hfailure c hc hwaiting
    exact ⟨earlier, mem_times_append hmem [e], hnone⟩
  invoked := h.invoked
  cycles_eq := h.cycles_eq

/-- A call returns, with the outcome of the cycle. -/
theorem Landed.place (h : Landed W g outcomes leader outcome events log s) {c : Nat}
    {own : Outcome}
    (hown : (∃ snapshot, outcome = .ok snapshot) ∨ ClockForward events → own = outcome) :
    Landed W g outcomes leader outcome events (log ++ [.returned c own])
      (s.place c (.done own)) where
  mem := h.mem
  generation_eq := h.generation_eq
  holder_eq := h.holder_eq
  call_cases := by
    intro d hd
    by_cases hdc : d = c
    · exact .inr ⟨own, hdc ▸ call_place_self s c _⟩
    · simpa [Returned, call_place_of_ne s hdc] using h.call_cases d hd
  shared := by
    intro hclock d hd other hother
    by_cases hdc : d = c
    · subst hdc
      have hsame : own = other := by simpa using hother
      exact hsame ▸ hown hclock
    · rw [call_place_of_ne s hdc] at hother
      exact h.shared hclock d hd other hother
  answers := h.answers
  unusable := by
    intro failure hfailure d hd hwaiting
    have hdc : d ≠ c := by
      rintro rfl
      simp at hwaiting
    rw [call_place_of_ne s hdc] at hwaiting
    exact h.unusable failure hfailure d hd hwaiting
  invoked := by simpa [Mark.invoked?] using h.invoked
  cycles_eq := by simpa [Mark.cycle?] using h.cycles_eq

/-- After the cycle, every call that gets the guard shares its outcome. -/
theorem Landed.move (h : Landed W g outcomes leader outcome events log s)
    (hadmits : s.Admits W e) (hmove : s.Move e m t) :
    Landed W g outcomes leader outcome (events ++ [e]) (log ++ m.toList) t := by
  cases hmove with
  | idle => simpa using h.later e
  | start | leave | giveUp => exact hadmits.elim
  | accept snapshot haccepts => simp [Admits, haccepts] at hadmits
  | hit c now snapshot hcall | miss c now hcall
  | settle c result now draw seen previous hcall =>
      rcases h.call_cases c hadmits with hother | ⟨own, hother⟩ <;> simp [hother] at hcall
  | share c now seen snapshot hcall hfree hseen hcontext =>
      apply (h.later _).place
      intro hclock
      rcases h.answers.of_shared hcontext with hsame | ⟨failure, rfl, hfresh⟩
      · exact hsame.symm
      · -- The call found no context before the cycle, so the clock must have been set back.
        have hforward := hclock.resolve_left (by simp)
        have hwaiting := (h.call_cases c hadmits).resolve_right (by simp [Returned, hcall])
        obtain ⟨earlier, hmem, hnone⟩ := h.unusable failure rfl c hadmits hwaiting
        have hnow := Slot.fresh?_eq_none_of_notAfter hnone (hforward.notAfter hmem rfl)
        simp [hnow] at hfresh
  | fail c now seen failure hcall hfree hseen hcontext hfailure =>
      apply (h.later _).place
      intro _
      obtain ⟨last, rfl, hlast⟩ := h.answers.of_not_shared hcontext
      rw [Option.some.inj (hfailure.symm.trans hlast)]
  | again c now seen hcall hfree hseen hcontext hfailure =>
      obtain ⟨last, -, hlast⟩ := h.answers.of_not_shared hcontext
      simp [hlast] at hfailure
  | lead c now seen hcall hfree hseen =>
      have hwaiting := (h.call_cases c hadmits).resolve_right (by simp [Returned, hcall])
      have hsame : g = seen := by simpa [hcall, eq_comm] using hwaiting
      have hgeneration := h.generation_eq
      omega

theorem Flight.move (h : Flight W g outcomes events log s) (hs : s.Consistent log)
    (hunusable : ∀ c, s.call c = .waiting s.cache.slot.generation →
      ∃ earlier ∈ times events, s.cache.slot.fresh? earlier = none)
    (hadmits : s.Admits W e) (hmove : s.Move e m t) :
    Flight W g outcomes (events ++ [e]) (log ++ m.toList) t := by
  cases h with
  | gathering h => exact h.move hadmits hmove
  | flying leader h => exact h.move hs hunusable hadmits hmove
  | landed leader outcome h => exact .landed leader outcome (h.move hadmits hmove)

/-! ## A whole flight -/

/-- Calls that have read the generation of the slot gather or fly already, if no other call
holds the guard. -/
theorem Consistent.flight (h : s.Consistent log) (hgeneration : s.cache.slot.generation = g)
    (hread : ∀ c ∈ W, s.HasRead c g) (hguard : ∀ d, s.holder = some d → d ∈ W) :
    Flight W g (cycles log) events log s := by
  have hwaiting : ∀ c ∈ W, s.holder ≠ some c → s.call c = .waiting g := by
    intro c hc hfree
    rcases hread c hc with hcall | ⟨previous, hcall⟩
    · exact hcall
    · exact (hfree ((h.holder_eq_some_iff c).mpr ⟨g, previous, hcall⟩)).elim
  have hinvoked : ∀ c ∈ W, s.holder ≠ some c → c ∉ invocations log := by
    intro c hc hfree
    obtain ⟨-, hnot, -⟩ : (Call.waiting g).Fits c log := hwaiting c hc hfree ▸ h.fits c
    exact hnot
  cases hholder : s.holder with
  | none =>
      refine .gathering ⟨hgeneration, hholder, ?_, ?_, rfl⟩
      · intro c hc
        exact hwaiting c hc (by simp [hholder])
      · rw [List.filter_eq_nil_iff]
        intro c hmem
        rw [decide_eq_true_eq]
        intro hc
        exact hinvoked c hc (by simp [hholder]) hmem
  | some leader =>
      -- The guard was taken before the last call looked: the flight has left already.
      have hleader := hguard leader hholder
      have hother : ∀ c ≠ leader, s.holder ≠ some c := by
        intro c hne heq
        exact hne (Option.some.inj (heq.symm.trans hholder))
      obtain ⟨seen, previous, hcall⟩ := (h.holder_eq_some_iff leader).mp hholder
      obtain rfl : seen = g := by
        rcases hread leader hleader with hread | ⟨_, hread⟩ <;> simp_all
      have hcount : (invocations log).count leader = 1 := by
        obtain ⟨-, hone⟩ : (Call.leading seen previous).Fits leader log := hcall ▸ h.fits leader
        exact hone
      refine .flying leader ⟨hleader, hgeneration, hholder, ⟨previous, hcall⟩, ?_, ?_, rfl⟩
      · intro c hc hne
        exact hwaiting c hc (hother c hne)
      · calc (invocations log).filter (· ∈ W)
            = (invocations log).filter (· = leader) := by
              apply List.filter_congr
              intro c hmem
              by_cases hc : c = leader
              · simp [hc, hleader]
              · have hnot : c ∉ W := fun hW ↦ hinvoked c hW (hother c hc) hmem
                simp [hc, hnot]
          _ = [leader] := by rw [List.filter_eq, hcount, List.replicate_one]

theorem flight_run (policy : Policy) (before after : List Event)
    (hgeneration : ((initial policy).run before).cache.slot.generation = g)
    (hread : ∀ c ∈ W, ((initial policy).run before).HasRead c g)
    (hguard : ∀ d, ((initial policy).run before).holder = some d → d ∈ W)
    (hquiet : Undisturbed W ((initial policy).run before) after) :
    Flight W g (cycles ((initial policy).log before)) (before ++ after)
      ((initial policy).log (before ++ after)) ((initial policy).run (before ++ after)) := by
  induction after using List.reverseRecOn with
  | nil =>
      rw [List.append_nil]
      exact (consistent_run policy before).flight hgeneration hread hguard
  | append_singleton after e ih =>
      obtain ⟨hsofar, hadmits⟩ := (undisturbed_concat W _ after e).mp hquiet
      rw [← run_append] at hadmits
      rw [← List.append_assoc, run_concat, log_concat]
      exact (ih hsofar).move (consistent_run policy _)
        (exists_fresh?_eq_none policy (before ++ after)) hadmits (move_step _ e)

/-- No call of `W` is stuck.  One of them refreshes, and returns when its refresh ends; or the
guard is free, and each that has not returned returns or begins to refresh once it gets it. -/
def Live (W : Finset Nat) (g : Nat) (s : Calls) : Prop :=
  (∃ leader ∈ W, s.holder = some leader ∧
    ∀ result now draw, (s.settle leader result now draw).Returned leader) ∨
  (s.holder = none ∧ ∀ c ∈ W, ¬ s.Returned c → ∀ now,
    (s.acquire c now).Returned c ∨ ∃ previous, (s.acquire c now).call c = .leading g previous)

theorem acquire_live {c : Nat} (hholder : s.holder = none) (hcall : s.call c = .waiting g)
    (hagain : ∀ now, s.cache.turn g now ≠ .again) (now : Instant) :
    (s.acquire c now).Returned c ∨
      ∃ previous, (s.acquire c now).call c = .leading g previous := by
  cases hturn : s.cache.turn g now with
  | share snapshot => exact .inl ⟨.ok snapshot, by simp [acquire, hcall, hholder, hturn]⟩
  | fail failure => exact .inl ⟨.error failure, by simp [acquire, hcall, hholder, hturn]⟩
  | again => exact (hagain now hturn).elim
  | lead => exact .inr ⟨s.cache.slot.previous, by simp [acquire, hcall, hholder, hturn]⟩

theorem Flight.live (h : Flight W g outcomes events log s) : s.Live W g := by
  cases h with
  | gathering h =>
      refine .inr ⟨h.holder_eq, ?_⟩
      intro c hc _
      exact acquire_live h.holder_eq (h.waiting c hc) (by simp [Cache.turn, h.generation_eq])
  | flying leader h =>
      obtain ⟨previous, hcall⟩ := h.leading
      refine .inl ⟨leader, h.mem, h.holder_eq, ?_⟩
      intro result now draw
      exact ⟨s.cache.settled result, by simp [settle, hcall]⟩
  | landed leader outcome h =>
      refine .inr ⟨h.holder_eq, ?_⟩
      intro c hc hreturned
      apply acquire_live h.holder_eq ((h.call_cases c hc).resolve_right hreturned)
      intro now hagain
      cases hcontext : (s.cache.slot.fresh? now).or s.cache.slot.latest? with
      | some snapshot => simp [Cache.turn, h.generation_eq, hcontext] at hagain
      | none =>
          obtain ⟨failure, -, hfailure⟩ := h.answers.of_not_shared hcontext
          simp [Cache.turn, h.generation_eq, hcontext, hfailure] at hagain

theorem Flight.landed_of_returned (h : Flight W g outcomes events log s) (hW : W.Nonempty)
    (hreturned : ∀ c ∈ W, s.Returned c) :
    ∃ leader outcome, Landed W g outcomes leader outcome events log s := by
  cases h with
  | gathering h =>
      obtain ⟨c, hc⟩ := hW
      obtain ⟨outcome, hdone⟩ := hreturned c hc
      simp [h.waiting c hc] at hdone
  | flying leader h =>
      obtain ⟨previous, hcall⟩ := h.leading
      obtain ⟨outcome, hdone⟩ := hreturned leader h.mem
      simp [hcall] at hdone
  | landed leader outcome h => exact ⟨leader, outcome, h⟩

/-- Calls that have read one generation, and are left alone from then on, are never stuck.
When all have returned, exactly one refresh of theirs was invoked and exactly one cycle has
ended, the next one, and all of them have its outcome: the very same context, or the very
same failure unless the clock was set back. -/
theorem single_flight (policy : Policy) (before after : List Event) (W : Finset Nat) (g : Nat)
    (hW : W.Nonempty)
    (hgeneration : ((initial policy).run before).cache.slot.generation = g)
    (hread : ∀ c ∈ W, ((initial policy).run before).HasRead c g)
    (hguard : ∀ d, ((initial policy).run before).holder = some d → d ∈ W)
    (hquiet : Undisturbed W ((initial policy).run before) after) :
    let s := (initial policy).run (before ++ after)
    let log := (initial policy).log (before ++ after)
    s.Live W g ∧
      ((∀ c ∈ W, s.Returned c) → ∃ leader ∈ W, ∃ outcome,
        (invocations log).filter (· ∈ W) = [leader] ∧
        cycles log = cycles ((initial policy).log before) ++ [outcome] ∧
        (∀ snapshot, outcome = .ok snapshot →
          snapshot.generation = g + 1 ∧ s.cache.peek = some snapshot) ∧
        ((∃ snapshot, outcome = .ok snapshot) ∨ ClockForward (before ++ after) →
          ∀ c ∈ W, s.call c = .done outcome)) := by
  have hflight := flight_run policy before after hgeneration hread hguard hquiet
  refine ⟨hflight.live, ?_⟩
  intro hreturned
  obtain ⟨leader, outcome, hlanded⟩ := hflight.landed_of_returned hW hreturned
  refine ⟨leader, hlanded.mem, outcome, hlanded.invoked, hlanded.cycles_eq, ?_, ?_⟩
  · rintro snapshot rfl
    exact ⟨hlanded.answers.generation_eq.trans hlanded.generation_eq,
      (Slot.snapshot?_of_latest? hlanded.answers).1⟩
  · intro hclock c hc
    obtain ⟨own, hown⟩ := hreturned c hc
    rw [hown, hlanded.shared hclock c hc own hown]

def threeGather : List Event :=
  [.start 0, .start 1, .start 2, .step 0 (.look (moment 0)), .step 1 (.look (moment 0)),
    .step 0 (.acquire (moment 1)), .step 2 (.look (moment 2))]

/-- The refresh ends, and the others wake when its context is a few nanoseconds old. -/
def threeLand : List Event :=
  [.step 0 (.settle (.ok (.ofToken "key")) (moment 3) 0), .step 2 (.acquire (moment 8)),
    .step 1 (.acquire (moment 9))]

/-- A context is shared even if it is due already. -/
theorem due_context_shared :
    let s := (initial (.ofAge 1)).run (threeGather ++ threeLand)
    s.cache.slot.isDue (moment 8) = true ∧
      ∃ outcome, ∀ c ∈ ({0, 1, 2} : Finset Nat), s.call c = .done outcome := by
  refine ⟨by decide, ?_⟩
  have hread : ∀ c ∈ ({0, 1, 2} : Finset Nat),
      ((initial (.ofAge 1)).run threeGather).HasRead c 0 := by
    simp only [Finset.mem_insert, Finset.mem_singleton, forall_eq_or_imp, forall_eq]
    exact ⟨.inr ⟨.blank, rfl⟩, .inl rfl, .inl rfl⟩
  have hguard : ∀ d, ((initial (.ofAge 1)).run threeGather).holder = some d →
      d ∈ ({0, 1, 2} : Finset Nat) := by
    have hholder : ((initial (.ofAge 1)).run threeGather).holder = some 0 := rfl
    intro d hd
    obtain rfl : 0 = d := by simpa [hholder] using hd
    decide
  have hquiet : Undisturbed {0, 1, 2} ((initial (.ofAge 1)).run threeGather) threeLand := by
    simp [threeLand, Undisturbed, Admits]
  have hreturned : ∀ c ∈ ({0, 1, 2} : Finset Nat),
      ((initial (.ofAge 1)).run (threeGather ++ threeLand)).Returned c := by
    simp only [Finset.mem_insert, Finset.mem_singleton, forall_eq_or_imp, forall_eq]
    let outcome : Outcome := .ok ⟨1, ⟨0, .ofToken "key"⟩⟩
    exact ⟨⟨outcome, rfl⟩, ⟨outcome, rfl⟩, ⟨outcome, rfl⟩⟩
  have hclock : ClockForward (threeGather ++ threeLand) := by
    unfold ClockForward
    decide
  obtain ⟨-, hflown⟩ := single_flight (.ofAge 1) threeGather threeLand {0, 1, 2} 0 (by simp)
    rfl hread hguard hquiet
  obtain ⟨leader, -, outcome, -, -, -, hshared⟩ := hflown hreturned
  exact ⟨outcome, hshared (.inr hclock)⟩

/-- Two calls find a context that is due. -/
def dueGather : List Event :=
  [.start 0, .step 0 (.look (moment 0)), .step 0 (.acquire (moment 0)),
    .step 0 (.settle (.ok .blank) (moment 0) 0), .start 1, .start 2,
    .step 1 (.look (moment 5)), .step 2 (.look (moment 5))]

/-- One of them fails to refresh it, and the other wakes after the clock was set back. -/
def setBackLand : List Event :=
  [.step 1 (.acquire (moment 5)),
    .step 1 (.settle (.error ⟨.fetch, "down", none⟩) (moment 6) 0), .step 2 (.acquire (moment 4))]

/-- A call looks while another one refreshes already. -/
def lateGather : List Event :=
  [.start 0, .step 0 (.look (moment 0)), .step 0 (.acquire (moment 0)), .start 1,
    .step 1 (.look (moment 1))]

def lateLand : List Event :=
  [.step 0 (.settle (.ok (.ofToken "key")) (moment 2) 0), .step 1 (.acquire (moment 3))]

/-- The conditions on the clock and on the guard cannot be left out.  On a clock that is set back
the call that waited for a failed refresh returns the old context, which is not due yet.  A call
that waits for a refresh of another call shares its outcome, and no refresh of its own is
invoked. -/
theorem outcome_not_shared :
    let s := (initial (.ofAge 5)).run dueGather
    let t := (initial .reactive).run lateGather
    (s.holder = none ∧ (∀ c ∈ ({1, 2} : Finset Nat), s.HasRead c s.cache.slot.generation) ∧
      Undisturbed {1, 2} s setBackLand ∧
      (s.run setBackLand).call 1 = .done (.error ⟨1, ⟨.fetch, "down", none⟩⟩) ∧
      (s.run setBackLand).call 2 = .done (.ok ⟨1, ⟨0, .blank⟩⟩)) ∧
    t.HasRead 1 t.cache.slot.generation ∧ (∀ e ∈ lateLand, ∃ c own, e = .step c own) ∧
      (t.run lateLand).Returned 1 ∧
      1 ∉ invocations ((initial .reactive).log (lateGather ++ lateLand)) := by
  intro s t
  refine ⟨⟨rfl, ?_, ?_, rfl, rfl⟩, .inl rfl, ?_, ⟨.ok ⟨1, ⟨0, .ofToken "key"⟩⟩, rfl⟩, ?_⟩
  · simp only [Finset.mem_insert, Finset.mem_singleton, forall_eq_or_imp, forall_eq]
    exact ⟨.inl rfl, .inl rfl⟩
  · simp [setBackLand, Undisturbed, Admits]
  · simp [lateLand]
  · decide

end Calls

end TileFetch.Auth
