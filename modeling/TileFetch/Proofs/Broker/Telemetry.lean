import TileFetch.Proofs.Broker.Moves

/-!
# What a broker tells, and what its cache counts

Two accounts are kept of the refreshes: the counters of the cache, and what the broker tells
about them from around the provider.  They agree after every step, if the cache has no other
user than the fetches: `Move.agreesWith`.  What is told about the tiles is read off the places
of the fetches, each of which tells at most twice: `Move.counts_tile`.
-/

namespace TileFetch.Auth.Calls

theorem tally_start (s : Calls) (c : Nat) : (s.start c).cache.tally = s.cache.tally := by
  unfold start
  split <;> rfl

theorem tally_drop (s : Calls) (c : Nat) : (s.drop c).cache.tally = s.cache.tally := by
  unfold drop
  split <;> rfl

end TileFetch.Auth.Calls

namespace TileFetch.Broker

/-! ## Counters and records -/

namespace Trace

def isInvalidated : Trace → Bool
  | invalidated _ => true
  | _ => false

def isRefreshFailed : Trace → Bool
  | refreshFailed _ => true
  | _ => false

end Trace

namespace Telemetry

variable (t : Telemetry) {tally : Auth.Tally}

def invalidations : Nat :=
  t.traces.countP Trace.isInvalidated

def refreshFailures : Nat :=
  t.traces.countP Trace.isRefreshFailed

theorem counts_count (flow : Flow) (outcome o : FlowOutcome) :
    (t.count flow outcome).counts flow o = t.counts flow o + if o = outcome then 1 else 0 := by
  by_cases h : o = outcome <;> simp [count, h]

theorem counts_count_of_ne {flow other : Flow} (h : other ≠ flow) (outcome o : FlowOutcome) :
    (t.count flow outcome).counts other o = t.counts other o := by
  simp [count, h]

theorem counts_openFlow (flow : Flow) (o : FlowOutcome) :
    (t.openFlow flow).counts flow o = t.counts flow o + if o = .attempt then 1 else 0 :=
  counts_count ..

/-- What is told about the refreshes is what the cache has counted. -/
structure AgreesWith (t : Telemetry) (tally : Auth.Tally) : Prop where
  attempts : t.counts .preAuth .attempt = tally.attempts
  successes : t.counts .preAuth .success = tally.successes
  failures : t.counts .preAuth .failure = tally.failures
  invalidations : t.invalidations = tally.invalidations
  refreshFailures : t.refreshFailures = tally.failures

variable {t}

theorem AgreesWith.count_tile (h : t.AgreesWith tally) (outcome : FlowOutcome) :
    (t.count .tile outcome).AgreesWith tally := by
  have hflow : Flow.preAuth ≠ Flow.tile := by decide
  have hcounts := t.counts_count_of_ne hflow outcome
  refine ⟨?_, ?_, ?_, h.invalidations, h.refreshFailures⟩
  · rw [hcounts, h.attempts]
  · rw [hcounts, h.successes]
  · rw [hcounts, h.failures]

theorem AgreesWith.openFlow_tile (h : t.AgreesWith tally) :
    (t.openFlow .tile).AgreesWith tally := by
  apply AgreesWith.count_tile
  exact ⟨h.attempts, h.successes, h.failures, h.invalidations, h.refreshFailures⟩

end Telemetry

/-! ## The two accounts of the refreshes -/

theorem Fetches.tell_self (call : Auth.Call) (step : Auth.CallStep) (t : Telemetry) :
    tell call call step t = t := by
  cases call <;> rfl

namespace Telemetry.AgreesWith

variable {t : Telemetry} {auth : Auth.Calls}

theorem tell (h : t.AgreesWith auth.cache.tally) (c : Nat) (step : Auth.CallStep) :
    (Fetches.tell (auth.call c) ((auth.stepCall c step).call c) step t).AgreesWith
      (auth.stepCall c step).cache.tally := by
  have hmove : auth.Move (.step c step) _ (auth.stepCall c step) :=
    auth.move_step (.step c step)
  generalize auth.stepCall c step = next at hmove ⊢
  generalize auth.mark? (.step c step) = mark at hmove
  cases hmove with
  | idle => exact (Fetches.tell_self (auth.call c) step t).symm ▸ h
  | lead _ now seen hcall =>
      simp only [hcall, Auth.Calls.lead, Auth.Calls.call_place_self, Fetches.tell]
      exact ⟨congrArg (· + 1) h.attempts, h.successes, h.failures, h.invalidations,
        h.refreshFailures⟩
  | settle _ result now draw seen previous hcall =>
      simp only [hcall, Auth.Calls.conclude, Auth.Calls.call_place_self, Fetches.tell]
      cases result with
      | ok context =>
          exact ⟨h.attempts, congrArg (· + 1) h.successes, h.failures, h.invalidations,
            h.refreshFailures⟩
      | error failure =>
          refine ⟨h.attempts, h.successes, congrArg (· + 1) h.failures, h.invalidations, ?_⟩
          exact (List.countP_cons_of_pos rfl).trans (congrArg (· + 1) h.refreshFailures)
  | hit _ now snapshot hcall | miss _ now hcall | share _ now seen snapshot hcall
  | fail _ now seen failure hcall | again _ now seen hcall =>
      simpa [Fetches.tell, hcall] using h

theorem invalidate {cache : Auth.Cache} (h : t.AgreesWith cache.tally)
    (snapshot : Auth.Snapshot) :
    (if cache.accepts snapshot then t.record (.invalidated snapshot.generation)
      else t).AgreesWith (cache.invalidate snapshot).tally := by
  unfold Auth.Cache.invalidate
  split
  · refine ⟨h.attempts, h.successes, h.failures, ?_, h.refreshFailures⟩
    exact (List.countP_cons_of_pos rfl).trans (congrArg (· + 1) h.invalidations)
  · exact h

end Telemetry.AgreesWith

namespace Fetches

variable {s t : Fetches} {e : Event} {authEvents : List Auth.Event} {marks : List Mark}

theorem Move.agreesWith (h : s.Move e authEvents marks t)
    (honly : ∀ snapshot, e ≠ .invalidate snapshot)
    (hs : s.telemetry.AgreesWith s.auth.cache.tally) :
    t.telemetry.AgreesWith t.auth.cache.tally := by
  cases h with
  | idle => exact hs
  | start f =>
      have htally := s.auth.tally_start (callOf f none)
      exact htally.symm ▸ hs.openFlow_tile
  | wait f step rejected | ask f step rejected => exact hs.tell (callOf f rejected) step
  | fail f step rejected => exact (hs.tell (callOf f rejected) step).count_tile _
  | finish => exact hs.count_tile _
  | retry f snapshot =>
      have htally := (s.invalidate snapshot).auth.tally_start (callOf f (some snapshot))
      exact htally.symm ▸ hs.invalidate snapshot
  | leave f rejected =>
      have htally := s.auth.tally_drop (callOf f rejected)
      exact htally.symm ▸ hs
  | giveUp => exact hs
  | invalidate snapshot => exact (honly snapshot rfl).elim

theorem agreesWith_run (provider : String) (policy : Auth.Policy) (events : List Event)
    (honly : ∀ snapshot, .invalidate snapshot ∉ events) :
    ((initial provider policy).run events).telemetry.AgreesWith
      ((initial provider policy).run events).auth.cache.tally := by
  induction events using List.reverseRecOn with
  | nil => exact ⟨rfl, rfl, rfl, rfl, rfl⟩
  | append_singleton events e ih =>
      rw [run_concat]
      refine (move_step _ e).agreesWith ?_ (ih fun snapshot hmem ↦ ?_)
      · rintro snapshot rfl
        exact honly snapshot (by simp)
      · exact honly snapshot (List.mem_append_left _ hmem)

end Fetches

/-! ## The flow of tiles -/

namespace Fetch

/-- How often a fetch has told an outcome, once it is here. -/
def tells : Fetch → FlowOutcome → Nat
  | absent, _ => 0
  | done result, o => (if o = .attempt then 1 else 0) + if o = .ofResult result then 1 else 0
  | _, o => if o = .attempt then 1 else 0

def isInFlight : Fetch → Bool
  | seeking _ => true
  | generating _ _ => true
  | _ => false

def isDropped : Fetch → Bool
  | dropped => true
  | _ => false

theorem tells_of_isInFlight {x : Fetch} (h : x.isInFlight = true) (o : FlowOutcome) :
    x.tells o = if o = .attempt then 1 else 0 := by
  cases x <;> simp_all [isInFlight, tells]

theorem tells_attempt (x : Fetch) : x.tells .attempt = x.tells .success + x.tells .failure +
    (if x.isDropped then 1 else 0) + (if x.isInFlight then 1 else 0) := by
  cases x with
  | done result => cases result <;> rfl
  | _ => rfl

theorem isDropped_iff {x : Fetch} : x.isDropped = true ↔ x = dropped := by
  cases x <;> simp [isDropped]

theorem tells_success_iff {x : Fetch} :
    x.tells .success = 1 ↔ ∃ image, x = done (.ok image) := by
  cases x with
  | done result => cases result <;> simp [tells, FlowOutcome.ofResult]
  | _ => simp [tells]

theorem tells_failure_iff {x : Fetch} :
    x.tells .failure = 1 ↔ ∃ fault, x = done (.error fault) := by
  cases x with
  | done result => cases result <;> simp [tells, FlowOutcome.ofResult]
  | _ => simp [tells]

theorem exists_of_tells {x : Fetch} {o : FlowOutcome} (ho : o ≠ .attempt) (h : x.tells o ≠ 0) :
    ∃ result, x = done result ∧ o = .ofResult result := by
  cases x with
  | done result => simpa [tells, ho] using h
  | _ => simp [tells, ho] at h

theorem tells_eq_ite (x : Fetch) (o : FlowOutcome) :
    x.tells o = if x.tells o = 1 then 1 else 0 := by
  cases x with
  | done result => cases result <;> cases o <;> rfl
  | _ => cases o <;> rfl

end Fetch

namespace Fetches

variable {s t : Fetches} {e : Event} {authEvents : List Auth.Event} {marks : List Mark} {f : Nat}

@[simp] theorem telemetry_place (s : Fetches) (f : Nat) (x : Fetch) :
    (s.place f x).telemetry = s.telemetry :=
  rfl

theorem counts_tell (before after : Auth.Call) (step : Auth.CallStep) (t : Telemetry)
    (o : FlowOutcome) : (tell before after step t).counts .tile o = t.counts .tile o := by
  have hflow : Flow.tile ≠ Flow.preAuth := by decide
  have hcount := fun outcome ↦ t.counts_count_of_ne hflow outcome o
  unfold tell
  split
  · exact hcount .attempt
  · split
    · exact hcount .success
    · exact hcount .failure
  · rfl

theorem counts_invalidate (s : Fetches) (snapshot : Auth.Snapshot) :
    (s.invalidate snapshot).telemetry.counts = s.telemetry.counts := by
  unfold invalidate
  split <;> rfl

theorem counts_finish (s : Fetches) (f : Nat) (result : Except Fault Image) (o : FlowOutcome) :
    (s.finish f result).telemetry.counts .tile o =
      s.telemetry.counts .tile o + if o = .ofResult result then 1 else 0 :=
  Telemetry.counts_count ..

@[simp] theorem fetch_finish_self (s : Fetches) (f : Nat) (result : Except Fault Image) :
    (s.finish f result).fetch f = .done result :=
  fetch_place_self ..

theorem Move.counts_tile (h : s.Move e authEvents marks t) (hf : e.fetch? = some f)
    (o : FlowOutcome) : t.telemetry.counts .tile o + (s.fetch f).tells o =
      s.telemetry.counts .tile o + (t.fetch f).tells o := by
  cases h with
  | idle => rfl
  | start g hg =>
      obtain rfl : g = f := Option.some.inj hf
      simp [seek, hg, Fetch.tells, Telemetry.counts_openFlow]
  | wait g step rejected hg =>
      obtain rfl : g = f := Option.some.inj hf
      simp [told, counts_tell]
  | ask g step rejected snapshot hg =>
      obtain rfl : g = f := Option.some.inj hf
      simp [told, counts_tell, hg, Fetch.tells]
  | fail g step rejected failure hg =>
      obtain rfl : g = f := Option.some.inj hf
      have htold : (s.told g rejected step).telemetry.counts .tile o =
          s.telemetry.counts .tile o := counts_tell ..
      rw [counts_finish, htold, fetch_finish_self, hg]
      simp only [Fetch.tells]
      omega
  | finish g rejected snapshot result hg =>
      obtain rfl : g = f := Option.some.inj hf
      rw [counts_finish, fetch_finish_self, hg]
      simp only [Fetch.tells]
      omega
  | retry g snapshot failure hg =>
      obtain rfl : g = f := Option.some.inj hf
      simp [seek, hg, Fetch.tells, counts_invalidate]
  | leave g rejected hg | giveUp g rejected snapshot hg =>
      obtain rfl : g = f := Option.some.inj hf
      simp [hg, Fetch.tells]
  | invalidate => contradiction

theorem Move.counts_tile_of_none (h : s.Move e authEvents marks t) (hf : e.fetch? = none)
    (o : FlowOutcome) : t.telemetry.counts .tile o = s.telemetry.counts .tile o := by
  cases h with
  | idle => rfl
  | invalidate => rfl
  | _ => contradiction

/-- Only a fetch that begins and one that is in flight go on. -/
theorem Move.fetch_cases (h : s.Move e authEvents marks t) (hne : t.fetch f ≠ s.fetch f) :
    e.fetch? = some f ∧ t.fetch f ≠ .absent ∧
      (s.fetch f = .absent ∧ t.fetch f = .seeking none ∨ (s.fetch f).isInFlight = true) := by
  have hfetch : e.fetch? = some f := by
    by_contra hother
    exact hne (h.fetch_eq_of_ne hother)
  refine ⟨hfetch, ?_⟩
  cases h with
  | idle => exact (hne rfl).elim
  | wait => exact (hne rfl).elim
  | invalidate => exact (hne rfl).elim
  | start g hg =>
      obtain rfl : g = f := Option.some.inj hfetch
      simp [seek, hg]
  | ask g step rejected snapshot hg | fail g step rejected failure hg
  | finish g rejected snapshot answer hg | retry g snapshot failure hg | leave g rejected hg
  | giveUp g rejected snapshot hg =>
      obtain rfl : g = f := Option.some.inj hfetch
      simp [seek, hg, Fetch.isInFlight]

theorem Move.absent_of_absent (h : s.Move e authEvents marks t) (hf : t.fetch f = .absent) :
    s.fetch f = .absent := by
  by_contra hne
  obtain ⟨-, hbegun, -⟩ := h.fetch_cases (hf ▸ Ne.symm hne)
  exact hbegun hf

theorem Move.fetch_eq_of_done (h : s.Move e authEvents marks t) {result : Except Fault Image}
    (hdone : s.fetch f = .done result) : t.fetch f = .done result := by
  by_contra hne
  obtain ⟨-, -, ⟨habsent, -⟩ | hflight⟩ := h.fetch_cases (hdone ▸ hne)
  · simp [hdone] at habsent
  · simp [hdone, Fetch.isInFlight] at hflight

theorem Move.sum_tells (h : s.Move e authEvents marks t) {F : Finset Nat}
    (hF : ∀ f ∉ F, t.fetch f = .absent) {o : FlowOutcome}
    (hs : s.telemetry.counts .tile o = ∑ f ∈ F, (s.fetch f).tells o) :
    t.telemetry.counts .tile o = ∑ f ∈ F, (t.fetch f).tells o := by
  cases hfetch : e.fetch? with
  | none =>
      rw [h.counts_tile_of_none hfetch, hs]
      refine Finset.sum_congr rfl fun f _ ↦ ?_
      rw [h.fetch_eq_of_ne (by simp [hfetch])]
  | some f =>
      have hcounts := h.counts_tile hfetch o
      have hothers : ∀ G : Finset Nat, f ∉ G →
          ∑ g ∈ G, (t.fetch g).tells o = ∑ g ∈ G, (s.fetch g).tells o := by
        refine fun G hG ↦ Finset.sum_congr rfl fun g hg ↦ ?_
        rw [h.fetch_eq_of_ne]
        intro heq
        obtain rfl : f = g := Option.some.inj (hfetch.symm.trans heq)
        exact hG hg
      by_cases hf : f ∈ F
      · rw [← Finset.add_sum_erase F _ hf] at hs ⊢
        rw [hothers _ (Finset.notMem_erase f F)]
        omega
      · have hafter := hF f hf
        rw [hafter, h.absent_of_absent hafter] at hcounts
        rw [hothers F hf, ← hs]
        exact Nat.add_right_cancel hcounts

/-- The counters of tiles are read off the places of the fetches. -/
theorem counts_tile_run (provider : String) (policy : Auth.Policy) (events : List Event)
    {F : Finset Nat} (hF : ∀ f ∉ F, ((initial provider policy).run events).fetch f = .absent)
    (o : FlowOutcome) : ((initial provider policy).run events).telemetry.counts .tile o =
      ∑ f ∈ F, (((initial provider policy).run events).fetch f).tells o := by
  induction events using List.reverseRecOn with
  | nil => simp [initial, Fetch.tells]
  | append_singleton events e ih =>
      rw [run_concat] at hF ⊢
      have hmove := move_step ((initial provider policy).run events) e
      exact hmove.sum_tells hF (ih fun f hf ↦ hmove.absent_of_absent (hF f hf))

theorem absent_of_not_mem (provider : String) (policy : Auth.Policy) (events : List Event)
    (h : f ∉ events.filterMap Event.fetch?) :
    ((initial provider policy).run events).fetch f = .absent := by
  induction events using List.reverseRecOn with
  | nil => rfl
  | append_singleton events e ih =>
      simp only [List.filterMap_append, List.mem_append, not_or] at h
      rw [run_concat, (move_step _ e).fetch_eq_of_ne]
      · exact ih h.1
      · intro hfetch
        exact h.2 (by simp [hfetch])

theorem sum_eq_ncard {F : Finset Nat} (hF : ∀ f ∉ F, s.fetch f = .absent) {p : Fetch → Prop}
    [DecidablePred p] (hp : ¬ p .absent) :
    ∑ f ∈ F, (if p (s.fetch f) then 1 else 0) = {f | p (s.fetch f)}.ncard := by
  have hset : {f | p (s.fetch f)} = ↑(F.filter fun f ↦ p (s.fetch f)) := by
    ext f
    simp only [Set.mem_ofPred_eq, Finset.coe_filter]
    constructor
    · intro hf
      refine ⟨?_, hf⟩
      by_contra hmem
      exact hp (hF f hmem ▸ hf)
    · exact And.right
  rw [hset, Set.ncard_coe_finset, Finset.card_filter]

/-! ## The end of a fetch -/

def Ends (s : Fetches) (e : Event) (f : Nat) (result : Except Fault Image) : Prop :=
  (∀ earlier, s.fetch f ≠ .done earlier) ∧ (s.step e).fetch f = .done result

theorem Ends.counts_tile {result : Except Fault Image} (h : s.Ends e f result)
    (o : FlowOutcome) : (s.step e).telemetry.counts .tile o =
      s.telemetry.counts .tile o + if o = .ofResult result then 1 else 0 := by
  have hmove := move_step s e
  obtain ⟨hfetch, -, ⟨-, hseeking⟩ | hflight⟩ := hmove.fetch_cases (h.2 ▸ Ne.symm (h.1 result))
  · simp [h.2] at hseeking
  · have hcounts := hmove.counts_tile hfetch o
    rw [h.2, Fetch.tells_of_isInFlight hflight, Fetch.tells] at hcounts
    omega

/-- Nothing but the end of a fetch is told as a success or as a failure. -/
theorem exists_ends {o : FlowOutcome} (ho : o ≠ .attempt)
    (hne : (s.step e).telemetry.counts .tile o ≠ s.telemetry.counts .tile o) :
    ∃ f result, s.Ends e f result ∧ o = .ofResult result := by
  have hmove := move_step s e
  cases hfetch : e.fetch? with
  | none => exact (hne (hmove.counts_tile_of_none hfetch o)).elim
  | some f =>
      have hcounts := hmove.counts_tile hfetch o
      by_cases hdone : ∃ result, s.fetch f = .done result
      · obtain ⟨result, hresult⟩ := hdone
        rw [hresult, hmove.fetch_eq_of_done hresult] at hcounts
        exact (hne (Nat.add_right_cancel hcounts)).elim
      · have hbefore : (s.fetch f).tells o = 0 := by
          by_contra htold
          obtain ⟨result, hresult, -⟩ := Fetch.exists_of_tells ho htold
          exact hdone ⟨result, hresult⟩
        have hafter : ((s.step e).fetch f).tells o ≠ 0 := by omega
        obtain ⟨result, hresult, rfl⟩ := Fetch.exists_of_tells ho hafter
        exact ⟨f, result, ⟨fun earlier hearlier ↦ hdone ⟨earlier, hearlier⟩, hresult⟩, rfl⟩

/-! ## Both flows -/

/-- What a broker tells about refreshes is what its cache counts, if all reports come from its
fetches.  Every fetch that was begun has returned an image, has failed, was dropped or is in
flight, and what it returns is told once, when it ends. -/
theorem accounts_agree (provider : String) (policy : Auth.Policy) (events : List Event)
    (honly : ∀ snapshot, .invalidate snapshot ∉ events) :
    let s := (initial provider policy).run events
    let told := s.telemetry.counts .tile
    s.telemetry.AgreesWith s.auth.cache.tally ∧
      {f | s.fetch f ≠ .absent}.Finite ∧
      told .attempt = told .success + told .failure + {f | s.fetch f = .dropped}.ncard +
        {f | (s.fetch f).isInFlight}.ncard ∧
      told .success = {f | ∃ image, s.fetch f = .done (.ok image)}.ncard ∧
      told .failure = {f | ∃ fault, s.fetch f = .done (.error fault)}.ncard ∧
      ∀ past e rest, events = past ++ e :: rest →
        let before := (initial provider policy).run past
        let after := before.step e
        (∀ f result, before.Ends e f result → ∀ o, after.telemetry.counts .tile o =
          before.telemetry.counts .tile o + if o = .ofResult result then 1 else 0) ∧
        ∀ o, o ≠ .attempt →
          after.telemetry.counts .tile o ≠ before.telemetry.counts .tile o →
            ∃ f result, before.Ends e f result ∧ o = .ofResult result := by
  intro s told
  -- Only a fetch that an event names can have begun, so all counts are sums over these.
  set F := (events.filterMap Event.fetch?).toFinset
  have hF : ∀ f ∉ F, s.fetch f = .absent := fun f hf ↦
    absent_of_not_mem provider policy events fun hmem ↦ hf (List.mem_toFinset.mpr hmem)
  have htold : ∀ o, told o = ∑ f ∈ F, (s.fetch f).tells o :=
    counts_tile_run provider policy events hF
  have hends : ∀ o, o ≠ .attempt → told o = {f | (s.fetch f).tells o = 1}.ncard := by
    intro o ho
    rw [htold, ← sum_eq_ncard hF (p := (·.tells o = 1)) (by simp [Fetch.tells])]
    exact Finset.sum_congr rfl fun f _ ↦ (s.fetch f).tells_eq_ite o
  refine ⟨agreesWith_run provider policy events honly, ?_, ?_, ?_, ?_, ?_⟩
  · refine F.finite_toSet.subset fun f hf ↦ ?_
    by_contra hmem
    exact hf (hF f hmem)
  · have hdropped := sum_eq_ncard hF (p := (·.isDropped)) (by simp [Fetch.isDropped])
    have hflight := sum_eq_ncard hF (p := (·.isInFlight)) (by simp [Fetch.isInFlight])
    simp only [Fetch.isDropped_iff] at hdropped
    rw [htold, htold, htold, ← hdropped, ← hflight, ← Finset.sum_add_distrib,
      ← Finset.sum_add_distrib, ← Finset.sum_add_distrib]
    refine Finset.sum_congr rfl fun f _ ↦ ?_
    simpa [Fetch.isDropped_iff] using (s.fetch f).tells_attempt
  · rw [hends .success (by decide)]
    simp only [Fetch.tells_success_iff]
  · rw [hends .failure (by decide)]
    simp only [Fetch.tells_failure_iff]
  · rintro past e rest -
    exact ⟨fun f result h ↦ h.counts_tile, fun o ho ↦ exists_ends ho⟩

/-- One fetch is dropped while it refreshes.  The context of the next one is rejected, and its
refresh fails.  A third one is in flight. -/
def threeFates : List Event :=
  [.start 0, .seek 0 (.look (Auth.moment 0)), .seek 0 (.acquire (Auth.moment 0)), .drop 0,
    .start 1, .seek 1 (.look (Auth.moment 1)), .seek 1 (.acquire (Auth.moment 1)),
    .seek 1 (.settle (.ok (.ofToken "key")) (Auth.moment 2) 0),
    .answer 1 (.error ⟨.authExpired, "expired", none⟩),
    .seek 1 (.look (Auth.moment 3)), .seek 1 (.acquire (Auth.moment 3)),
    .seek 1 (.settle (.error ⟨.fetch, "down", none⟩) (Auth.moment 4) 0), .start 2]

theorem three_fates_accounted :
    let s := (initial "tiles" .reactive).run threeFates
    s.telemetry.AgreesWith ⟨3, 1, 1, 1⟩ ∧ s.telemetry.counts .tile .attempt = 3 ∧
      {f | ∃ fault, s.fetch f = .done (.error fault)}.ncard = 1 ∧
      {f | s.fetch f = .dropped}.ncard + {f | (s.fetch f).isInFlight}.ncard = 2 := by
  intro s
  have honly : ∀ snapshot, .invalidate snapshot ∉ threeFates := by simp [threeFates]
  obtain ⟨hagrees, -, hattempts, -, hfailures, -⟩ :=
    accounts_agree "tiles" .reactive threeFates honly
  have htally : s.auth.cache.tally = ⟨3, 1, 1, 1⟩ := rfl
  have hfailure : s.telemetry.counts .tile .failure = 1 := rfl
  have hrest : 3 = 0 + 1 + {f | s.fetch f = .dropped}.ncard +
      {f | (s.fetch f).isInFlight}.ncard := hattempts
  exact ⟨htally ▸ hagrees, rfl, hfailures.symm.trans hfailure, by omega⟩

end Fetches

end TileFetch.Broker
