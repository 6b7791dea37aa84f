import TileFetch.Proofs.Auth.Accounting

/-!
# The refresh after a report

Once a report has retired a generation, a single refresh replaces its context, under a
reactive policy and as long as no refresh fails or is given up and the new context is not
reported in its turn.  All calls that return a context from then on return the new one: the
stages of such a run are `pending`, in which no call returns a context, and `renewed`.
-/

namespace TileFetch.Auth

open Time (Instant)

/-- No refresh fails or is given up, and no report is accepted against a context that is newer
than generation `g`. -/
structure Quiet (g : Nat) (log : List Mark) : Prop where
  failures_eq : failures log = []
  givenUp_eq : givenUp log = []
  accepted_le : ∀ h ∈ acceptances log, h ≤ g

theorem quiet_append {g : Nat} {log more : List Mark} :
    Quiet g (log ++ more) ↔ Quiet g log ∧ Quiet g more := by
  constructor
  · rintro ⟨hfailures, hgivenUp, haccepted⟩
    rw [failures_append, List.append_eq_nil_iff] at hfailures
    rw [givenUp_append, List.append_eq_nil_iff] at hgivenUp
    rw [acceptances_append] at haccepted
    exact ⟨⟨hfailures.1, hgivenUp.1, fun h hmem ↦ haccepted h (List.mem_append_left _ hmem)⟩,
      ⟨hfailures.2, hgivenUp.2, fun h hmem ↦ haccepted h (List.mem_append_right _ hmem)⟩⟩
  · rintro ⟨hlog, hmore⟩
    refine ⟨?_, ?_, ?_⟩
    · rw [failures_append, hlog.failures_eq, hmore.failures_eq, List.append_nil]
    · rw [givenUp_append, hlog.givenUp_eq, hmore.givenUp_eq, List.append_nil]
    · intro h hmem
      rw [acceptances_append, List.mem_append] at hmem
      exact hmem.elim (hlog.accepted_le h) (hmore.accepted_le h)

namespace Slot

variable {s : Slot}

theorem standing?_ne_none_of_fresh? {now : Instant} {snapshot : Snapshot}
    (h : s.fresh? now = some snapshot) : s.standing? ≠ none := by
  rcases (snapshot?_of_fresh? h).2 with hphase | ⟨hphase, -⟩ <;> simp [standing?, hphase]

theorem standing?_ne_none_of_latest? {snapshot : Snapshot} (h : s.latest? = some snapshot) :
    s.standing? ≠ none := by
  rcases (snapshot?_of_latest? h).2.2 with hphase | hphase <;> simp [standing?, hphase]

end Slot

namespace Calls

variable {s t : Calls} {log part : List Mark} {e : Event} {m : Option Mark} {g : Nat}

/-- Contexts are refreshed on demand only: who refreshes, or waits and has seen the last cycle,
found that there was none or that it was reported. -/
structure OnDemand (s : Calls) : Prop where
  refreshAt_eq_none : s.cache.slot.refreshAt = none
  refreshes : ∀ c, s.Refreshes c → s.cache.slot.standing? = none
  waiting : ∀ c, s.call c = .waiting s.cache.slot.generation → s.cache.slot.standing? = none

theorem onDemand_run {policy : Policy} (hreactive : policy.isReactive = true)
    (events : List Event) : ((initial policy).run events).OnDemand where
  refreshAt_eq_none := refreshAt_run hreactive events
  refreshes _ := standing?_of_refreshes hreactive events
  waiting _ := standing?_of_waiting hreactive events

/-- How far the context of generation `g`, which was reported, has been replaced since then;
`part` is the log since then. -/
inductive Renewal (g : Nat) (part : List Mark) (s : Calls) : Prop where
  | pending (hle : g ≤ s.cache.slot.contextGeneration) (hnone : s.cache.slot.standing? = none)
      (hreturned : published (returns part) = [])
      (hinvoked : (invocations part).length ≤ s.holder.toList.length)
  | renewed (snapshot : Snapshot) (hlt : g < snapshot.generation)
      (hsnapshot : s.cache.slot.snapshot? = some snapshot)
      (hstanding : s.cache.slot.standing? ≠ none)
      (hreturned : ∀ other ∈ published (returns part), other = snapshot)
      (hinvoked : (invocations part).length ≤ 1)

theorem renewal_of_retired (hs : s.Consistent log) (h : s.cache.slot.Retired g) :
    Renewal g [] s := by
  by_cases hnone : s.cache.slot.standing? = none
  · refine .pending ?_ hnone rfl (Nat.zero_le _)
    rcases h with hlt | ⟨heq, -⟩ <;> omega
  · obtain ⟨snapshot, hsnapshot⟩ := hs.slot.exists_of_standing? hnone
    have hlt : g < s.cache.slot.contextGeneration := by
      apply h.resolve_right
      rintro ⟨-, hstale⟩
      simp [Slot.standing?, hstale] at hnone
    rw [(Slot.snapshot?_eq_some_iff.mp hsnapshot).2] at hlt
    exact .renewed snapshot hlt hsnapshot hnone (by simp) (Nat.zero_le _)

/-- While the renewal is pending, the only thing that can happen to the slot is that a refresh
publishes a context. -/
theorem Renewal.move_pending (hs : s.Consistent log) (hquiet : Quiet g m.toList)
    (hmove : s.Move e m t) (hle : g ≤ s.cache.slot.contextGeneration)
    (hnone : s.cache.slot.standing? = none) (hreturned : published (returns part) = [])
    (hinvoked : (invocations part).length ≤ s.holder.toList.length) :
    Renewal g (part ++ m.toList) t := by
  cases hmove with
  | idle => exact .pending hle hnone (by simpa using hreturned) (by simpa using hinvoked)
  | start | miss | again | leave | fail =>
      refine .pending hle hnone ?_ ?_
      · simpa [Mark.outcome?] using hreturned
      · simpa [Mark.invoked?] using hinvoked
  | hit c now snapshot hcall hfresh => exact (Slot.standing?_ne_none_of_fresh? hfresh hnone).elim
  | share c now seen snapshot hcall hfree hseen hcontext =>
      rcases Option.or_eq_some_iff.mp hcontext with hfresh | ⟨-, hlatest⟩
      · exact (Slot.standing?_ne_none_of_fresh? hfresh hnone).elim
      · exact (Slot.standing?_ne_none_of_latest? hlatest hnone).elim
  | lead c now seen hcall hfree =>
      refine .pending hle hnone ?_ ?_
      · simpa [Mark.outcome?] using hreturned
      · rw [hfree] at hinvoked
        simpa [Calls.lead, Mark.invoked?] using hinvoked
  | settle c result now draw seen previous hcall =>
      cases result with
      | error failure =>
          simpa [failures, Mark.cycle?, Cache.settled, failure?] using hquiet.failures_eq
      | ok context =>
          refine .renewed ⟨s.cache.slot.generation + 1, ⟨s.cache.minted, context⟩⟩ ?_ rfl ?_ ?_ ?_
          · exact Nat.lt_succ_of_le (hle.trans hs.slot.follows.contextGeneration_le)
          · cases hbypass : context.bypass <;>
              simp [conclude, Cache.settle, Cache.publish, Slot.standing?, hbypass]
          · simp [hreturned, Mark.outcome?, Cache.settled]
          · rw [hs.holder_eq ⟨seen, previous, hcall⟩] at hinvoked
            simpa [Mark.invoked?] using hinvoked
  | giveUp => simpa [Mark.gaveUp?] using hquiet.givenUp_eq
  | accept snapshot haccepts =>
      have hvalid := (Cache.accepts_iff.mp haccepts).1
      simp [Slot.standing?, hvalid] at hnone

/-- Once the context is renewed, it stays, and no other refresh begins. -/
theorem Renewal.move_renewed (hdemand : s.OnDemand) (hquiet : Quiet g m.toList)
    (hmove : s.Move e m t) {snapshot : Snapshot} (hlt : g < snapshot.generation)
    (hsnapshot : s.cache.slot.snapshot? = some snapshot)
    (hstanding : s.cache.slot.standing? ≠ none)
    (hreturned : ∀ other ∈ published (returns part), other = snapshot)
    (hinvoked : (invocations part).length ≤ 1) : Renewal g (part ++ m.toList) t := by
  -- No moment makes the context due, so every call that looks finds it.
  have hfresh : ∀ now, s.cache.slot.fresh? now = some snapshot := by
    intro now
    rw [Slot.fresh?_of_standing? hdemand.refreshAt_eq_none hstanding, hsnapshot]
  cases hmove with
  | idle =>
      exact .renewed snapshot hlt hsnapshot hstanding (by simpa using hreturned)
        (by simpa using hinvoked)
  | start | miss | leave =>
      refine .renewed snapshot hlt hsnapshot hstanding ?_ ?_
      · simpa [Mark.outcome?] using hreturned
      · simpa [Mark.invoked?] using hinvoked
  | hit c now found hcall hfound =>
      obtain rfl : snapshot = found := Option.some.inj ((hfresh now).symm.trans hfound)
      refine .renewed snapshot hlt hsnapshot hstanding ?_ ?_
      · simpa [Mark.outcome?, or_imp, forall_and] using hreturned
      · simpa [Mark.invoked?] using hinvoked
  | share c now seen found hcall hfree hseen hcontext =>
      obtain rfl : snapshot = found := by simpa [hfresh now] using hcontext
      refine .renewed snapshot hlt hsnapshot hstanding ?_ ?_
      · simpa [Mark.outcome?, or_imp, forall_and] using hreturned
      · simpa [Mark.invoked?] using hinvoked
  | fail c now seen failure hcall hfree hseen hcontext
  | again c now seen hcall hfree hseen hcontext => simp [hfresh now] at hcontext
  | lead c now seen hcall hfree hseen => exact (hstanding (hdemand.waiting c (hseen ▸ hcall))).elim
  | settle c result now draw seen previous hcall | giveUp c seen previous hcall =>
      exact (hstanding (hdemand.refreshes c ⟨seen, previous, hcall⟩)).elim
  | accept other haccepts =>
      -- The report would be against the new context itself.
      have hle : other.generation ≤ g := hquiet.accepted_le _ (by simp [Mark.accepted?])
      have hgeneration := (Cache.accepts_iff.mp haccepts).2
      have hsame := (Slot.snapshot?_eq_some_iff.mp hsnapshot).2
      omega

theorem Renewal.move (h : Renewal g part s) (hs : s.Consistent log) (hdemand : s.OnDemand)
    (hquiet : Quiet g m.toList) (hmove : s.Move e m t) : Renewal g (part ++ m.toList) t := by
  cases h with
  | pending hle hnone hreturned hinvoked =>
      exact .move_pending hs hquiet hmove hle hnone hreturned hinvoked
  | renewed snapshot hlt hsnapshot hstanding hreturned hinvoked =>
      exact .move_renewed hdemand hquiet hmove hlt hsnapshot hstanding hreturned hinvoked

theorem renewal_run {policy : Policy} (hreactive : policy.isReactive = true)
    (before after : List Event)
    (hretired : ((initial policy).run before).cache.slot.Retired g)
    (hquiet : Quiet g (((initial policy).run before).log after)) :
    Renewal g (((initial policy).run before).log after)
      ((initial policy).run (before ++ after)) := by
  induction after using List.reverseRecOn with
  | nil => simpa using renewal_of_retired (consistent_run policy before) hretired
  | append_singleton after e ih =>
      rw [log_concat, ← run_append] at hquiet ⊢
      obtain ⟨hsofar, hnow⟩ := quiet_append.mp hquiet
      rw [← List.append_assoc, run_concat]
      exact (ih hsofar).move (consistent_run policy _) (onDemand_run hreactive _) hnow
        (move_step _ e)

/-- After a generation was retired, at most one refresh is begun, and the calls that return a
context all return the same one, which is newer. -/
theorem Renewal.one_refresh (h : Renewal g part s) :
    (invocations part).length ≤ 1 ∧ ∀ x ∈ published (returns part), g < x.generation ∧
      ∀ y ∈ published (returns part), y = x := by
  cases h with
  | pending hle hnone hreturned hinvoked =>
      refine ⟨hinvoked.trans ?_, by simp [hreturned]⟩
      cases s.holder <;> simp
  | renewed snapshot hlt hsnapshot hstanding hreturned hinvoked =>
      refine ⟨hinvoked, ?_⟩
      intro x hx
      obtain rfl := hreturned x hx
      exact ⟨hlt, hreturned⟩

end Calls

end TileFetch.Auth
