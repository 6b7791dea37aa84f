import TileFetch.Proofs.Auth.Leader
import TileFetch.Proofs.Auth.Returns

/-!
# Caches that bypass authentication

Once a cycle has published a context that bypasses authentication, the cache never changes
again.  Calls that waited at that moment remember an older generation, so none of them
refreshes when it gets the guard; they return the context, as all later calls do.
-/

namespace TileFetch.Auth

open Time (Instant)

namespace Calls

variable {s t : Calls} {log : List Mark} {e : Event} {m : Option Mark} {snapshot : Snapshot}

/-- The cache bypasses authentication with `snapshot`, and no call refreshes or is about to. -/
structure Final (s : Calls) (snapshot : Snapshot) : Prop where
  phase_eq : s.cache.slot.phase = .bypassed
  snapshot?_eq : s.cache.slot.snapshot? = some snapshot
  holder_eq : s.holder = none
  seen_ne : ∀ c, s.call c ≠ .waiting s.cache.slot.generation

theorem Final.fresh?_eq (h : s.Final snapshot) (now : Instant) :
    s.cache.slot.fresh? now = some snapshot := by
  rw [Slot.fresh?, h.phase_eq]
  exact h.snapshot?_eq

theorem Final.not_accepts (h : s.Final snapshot) (other : Snapshot) :
    s.cache.accepts other = false := by
  simp [Cache.accepts, h.phase_eq]

theorem final_of_phase (policy : Policy) (events : List Event)
    (hphase : ((initial policy).run events).cache.slot.phase = .bypassed)
    (hsnapshot : ((initial policy).run events).cache.slot.snapshot? = some snapshot) :
    ((initial policy).run events).Final snapshot := by
  -- Who refreshes, or has seen the last cycle and waits, once found no context.
  have hfound : ∀ earlier, ((initial policy).run events).cache.slot.fresh? earlier ≠ none := by
    intro earlier
    simp [Slot.fresh?, hphase, hsnapshot]
  refine ⟨hphase, hsnapshot, ?_, ?_⟩
  · by_contra hheld
    obtain ⟨c, hc⟩ := Option.ne_none_iff_exists'.mp hheld
    have hrefreshes := ((consistent_run policy events).holder_eq_some_iff c).mp hc
    obtain ⟨earlier, -, hnone⟩ := exists_fresh?_eq_none_of_refreshes policy events hrefreshes
    exact hfound earlier hnone
  · intro c hcall
    obtain ⟨earlier, -, hnone⟩ := exists_fresh?_eq_none policy events c hcall
    exact hfound earlier hnone

theorem Final.move (h : s.Final snapshot) (hs : s.Consistent log) (hmove : s.Move e m t) :
    t.cache = s.cache ∧ invocations m.toList = [] ∧
      ∀ outcome ∈ returns m.toList, outcome = .ok snapshot := by
  cases hmove with
  | idle | start | miss | leave => exact ⟨rfl, rfl, by simp [Mark.outcome?]⟩
  | hit c now found hcall hfresh =>
      obtain rfl : snapshot = found := Option.some.inj ((h.fresh?_eq now).symm.trans hfresh)
      exact ⟨rfl, rfl, by simp [Mark.outcome?]⟩
  | share c now seen found hcall hfree hseen hcontext =>
      obtain rfl : snapshot = found := by simpa [h.fresh?_eq now] using hcontext
      exact ⟨rfl, rfl, by simp [Mark.outcome?]⟩
  | fail c now seen failure hcall hfree hseen hcontext
  | again c now seen hcall hfree hseen hcontext => simp [h.fresh?_eq now] at hcontext
  | lead c now seen hcall hfree hseen => exact (h.seen_ne c (hseen ▸ hcall)).elim
  | settle c result now draw seen previous hcall | giveUp c seen previous hcall =>
      exact (hs.not_refreshes h.holder_eq c ⟨seen, previous, hcall⟩).elim
  | accept other haccepts => simp [h.not_accepts other] at haccepts

theorem final_run (policy : Policy) (before after : List Event)
    (h : ((initial policy).run before).Final snapshot) :
    ((initial policy).run (before ++ after)).Final snapshot ∧
      ((initial policy).run (before ++ after)).cache = ((initial policy).run before).cache ∧
      invocations (((initial policy).run before).log after) = [] ∧
      ∀ outcome ∈ returns (((initial policy).run before).log after), outcome = .ok snapshot := by
  induction after using List.reverseRecOn with
  | nil => simpa using h
  | append_singleton after e ih =>
      obtain ⟨hfinal, hcache, hinvoked, hreturned⟩ := ih
      have hmove := move_step ((initial policy).run (before ++ after)) e
      obtain ⟨hsame, hnone, hown⟩ := hfinal.move (consistent_run policy _) hmove
      rw [← List.append_assoc, log_concat, ← run_append, run_concat, invocations_append,
        returns_append, hinvoked, hnone]
      refine ⟨?_, hsame.trans hcache, rfl, ?_⟩
      · rw [← run_concat]
        apply final_of_phase <;> rw [run_concat, hsame]
        · exact hfinal.phase_eq
        · exact hfinal.snapshot?_eq
      · intro outcome hmem
        rcases List.mem_append.mp hmem with hmem | hmem
        · exact hreturned outcome hmem
        · exact hown outcome hmem

/-- The step that publishes a context that bypasses authentication makes the cache final. -/
theorem Move.phase_of_published (h : s.Move e m t) (hmem : .ok snapshot ∈ cycles m.toList)
    (hbypass : snapshot.isBypassed = true) :
    t.cache.slot.phase = .bypassed ∧ t.cache.slot.snapshot? = some snapshot := by
  rcases h.slot_cases with ⟨flag, -, hcycles, -⟩ | ⟨c, result, now, draw, hcache, rfl⟩ |
    ⟨other, -, -, rfl⟩
  · simp [hcycles] at hmem
  · cases result with
    | error failure => simp [Mark.cycle?, Cache.settled] at hmem
    | ok context =>
        obtain rfl : snapshot = ⟨s.cache.slot.generation + 1, ⟨s.cache.minted, context⟩⟩ := by
          simpa [Mark.cycle?, Cache.settled] using hmem
        have hcontext : context.bypass = true := hbypass
        rw [hcache]
        simp [Cache.settle, Cache.publish, Slot.snapshot?, hcontext]
  · simp [Mark.cycle?] at hmem

theorem final_of_published (policy : Policy) (events : List Event)
    (hpublished : .ok snapshot ∈ cycles ((initial policy).log events))
    (hbypass : snapshot.isBypassed = true) :
    ((initial policy).run events).Final snapshot := by
  induction events using List.reverseRecOn with
  | nil => simp at hpublished
  | append_singleton events e ih =>
      rw [log_concat, cycles_append, List.mem_append] at hpublished
      rcases hpublished with hearlier | hnow
      · exact (final_run policy events [e] (ih hearlier)).1
      · obtain ⟨hphase, hsnapshot⟩ := (move_step _ e).phase_of_published hnow hbypass
        rw [← run_concat] at hphase hsnapshot
        exact final_of_phase policy _ hphase hsnapshot

theorem Final.returns_next (h : s.Final snapshot) (c : Nat) (now : Instant) :
    (s.call c = .looking → (s.look c now).call c = .done (.ok snapshot)) ∧
      ∀ seen, s.call c = .waiting seen → (s.acquire c now).call c = .done (.ok snapshot) := by
  refine ⟨?_, ?_⟩
  · intro hcall
    simp [look, hcall, h.fresh?_eq now]
  · intro seen hcall
    have hseen : s.cache.slot.generation ≠ seen := by
      rintro rfl
      exact h.seen_ne c hcall
    simp [acquire, hcall, h.holder_eq, Cache.turn, hseen, h.fresh?_eq now]

/-- After a context was published that bypasses authentication, whatever calls and reports
follow or were waiting already: the cache stays as it is, its state is final, no report is
accepted, no refresh is invoked, and every call that returns has that very context, with its
next step. -/
theorem bypass_terminal (policy : Policy) (before after : List Event) (snapshot : Snapshot)
    (hpublished : .ok snapshot ∈ cycles ((initial policy).log before))
    (hbypass : snapshot.isBypassed = true) :
    let s := (initial policy).run before
    let t := (initial policy).run (before ++ after)
    t.cache = s.cache ∧
      (∀ now, t.cache.state now = .bypassed) ∧
      (∀ other, t.cache.accepts other = false) ∧
      invocations (s.log after) = [] ∧
      (∀ c outcome, (∀ o, s.call c ≠ .done o) → t.call c = .done outcome →
        outcome = .ok snapshot) ∧
      ∀ c now, (t.call c = .looking → (t.look c now).call c = .done (.ok snapshot)) ∧
        ∀ seen, t.call c = .waiting seen → (t.acquire c now).call c = .done (.ok snapshot) := by
  intro s t
  obtain ⟨hfinal, hcache, hinvoked, hreturned⟩ :=
    final_run policy before after (final_of_published policy before hpublished hbypass)
  refine ⟨hcache, ?_, hfinal.not_accepts, hinvoked, ?_, hfinal.returns_next⟩
  · intro now
    have hidle := refreshing_run policy (before ++ after)
    rw [hfinal.holder_eq] at hidle
    simp only [t, Cache.state, Slot.state, hidle, hfinal.phase_eq]
    rfl
  · intro c outcome hpending hdone
    rw [show t = s.run after from run_append _ before after] at hdone
    exact hreturned outcome (mem_returns_of_done s after hpending hdone)

/-- A context is rejected; two calls wait when one of them learns that there is nothing to
authenticate. -/
def turnsOutOpen : List Event :=
  [.start 0, .step 0 (.look (moment 0)), .step 0 (.acquire (moment 0)),
    .step 0 (.settle (.ok (.ofToken "key")) (moment 1) 0),
    .invalidate ⟨1, ⟨0, .ofToken "key"⟩⟩, .start 1, .start 2,
    .step 1 (.look (moment 2)), .step 2 (.look (moment 2)), .step 1 (.acquire (moment 3)),
    .step 1 (.settle (.ok .bypassing) (moment 4) 0)]

def lateComer : List Event :=
  [.invalidate ⟨1, ⟨0, .ofToken "key"⟩⟩, .invalidate ⟨2, ⟨1, .bypassing⟩⟩,
    .step 2 (.acquire (moment 5))]

theorem late_comer_returns :
    let s := (initial .reactive).run turnsOutOpen
    let t := (initial .reactive).run (turnsOutOpen ++ lateComer)
    s.call 2 = .waiting 1 ∧ t.cache = s.cache ∧
      t.call 2 = .done (.ok ⟨2, ⟨1, .bypassing⟩⟩) := by
  have hpublished : (.ok ⟨2, ⟨1, .bypassing⟩⟩ : Outcome) ∈
      cycles ((initial .reactive).log turnsOutOpen) := .tail _ (.head _)
  obtain ⟨hcache, -, -, -, hreturned, -⟩ := bypass_terminal .reactive turnsOutOpen lateComer
    ⟨2, ⟨1, .bypassing⟩⟩ hpublished rfl
  have hwaiting : ((initial .reactive).run turnsOutOpen).call 2 = .waiting 1 := rfl
  obtain ⟨outcome, hdone⟩ : ∃ outcome,
      ((initial .reactive).run (turnsOutOpen ++ lateComer)).call 2 = .done outcome := ⟨_, rfl⟩
  refine ⟨hwaiting, hcache, ?_⟩
  rw [hdone, hreturned 2 outcome (by simp [hwaiting]) hdone]

end Calls

end TileFetch.Auth
