import TileFetch.Proofs.Serving.Ledger

/-!
# What the turn of a fetch does to others

Of the eleven turns a fetch can take, one takes the guard, two end a cycle and one reports a
context.  The others leave the cache and its guard as they are.
-/

namespace TileFetch.Simulation

open Broker (callOf)
open Time (Instant)

inductive Effect (s t : Broker.Fetches) (f : Nat) : Broker.Event → Option Want → Prop where
  | none (event : Broker.Event) (want : Option Want)
      (hevent : ∀ result now draw, event ≠ .seek f (.settle result now draw))
      (hwant : want.bind Want.previous? = .none) (hcache : t.auth.cache = s.auth.cache)
      (hholder : t.auth.holder = s.auth.holder) : Effect s t f event want
  | lead (rejected : Option Auth.Snapshot) (now : Instant)
      (hcall : s.auth.call (callOf f rejected) = .waiting s.auth.cache.slot.generation)
      (hfree : s.auth.holder = .none) (hcache : t.auth.cache = s.auth.cache.beginRefresh)
      (hholder : t.auth.holder = some (callOf f rejected)) :
      Effect s t f (.seek f (.acquire now)) (some (.context s.auth.cache.slot.previous))
  | settle (rejected : Option Auth.Snapshot) (seen : Nat) (previous : Auth.Context)
      (result : Except Provider.Failure Auth.Context) (now : Instant) (draw : Nat)
      (want : Option Want)
      (hcall : s.auth.call (callOf f rejected) = .leading seen previous)
      (hwant : want.bind Want.previous? = .none)
      (hcache : t.auth.cache = s.auth.cache.settle result now draw)
      (hholder : t.auth.holder = .none) :
      Effect s t f (.seek f (.settle result now draw)) want
  | report (snapshot : Auth.Snapshot) (failure : Provider.Failure)
      (hfetch : s.fetch f = .generating .none snapshot)
      (hcache : t.auth.cache = s.auth.cache.invalidate snapshot)
      (hholder : t.auth.holder = s.auth.holder) :
      Effect s t f (.answer f (.error failure)) .none

namespace Turn

variable {s t : Broker.Fetches} {f : Nat} {e : Broker.Event} {marks : List Broker.Mark}
  {authMarks : List Auth.Mark} {want : Option Want}

theorem effect (h : Turn s f e marks authMarks want t) : Effect s t f e want := by
  cases h with
  | hit rejected now snapshot hfetch hcall hfresh hauth =>
      exact .none _ _ (by simp) rfl (by rw [hauth]; rfl) (by rw [hauth]; rfl)
  | miss rejected now hfetch hcall hfresh hauth =>
      exact .none _ _ (by simp) rfl (by rw [hauth]; rfl) (by rw [hauth]; rfl)
  | blocked => exact .none _ _ (by simp) rfl rfl rfl
  | share rejected now seen snapshot hfetch hcall hfree hseen hcontext hauth =>
      exact .none _ _ (by simp) rfl (by rw [hauth]; rfl) (by rw [hauth]; rfl)
  | fail rejected now seen failure hfetch hcall hfree hseen hcontext hfailure hauth =>
      exact .none _ _ (by simp) rfl (by rw [hauth]; rfl) (by rw [hauth]; rfl)
  | again rejected now seen hfetch hcall hfree hseen hcontext hfailure hauth =>
      exact .none _ _ (by simp) rfl (by rw [hauth]; rfl) (by rw [hauth]; rfl)
  | lead rejected now hfetch hcall hfree hauth =>
      exact .lead rejected now hcall hfree (by rw [hauth]; rfl) (by rw [hauth]; rfl)
  | publish rejected seen previous context now draw snapshot hsnapshot hfetch hcall hauth =>
      exact .settle rejected seen previous _ now draw _ hcall rfl (by rw [hauth]; rfl)
        (by rw [hauth]; rfl)
  | refuse rejected seen previous failure now draw hfetch hcall hauth =>
      exact .settle rejected seen previous _ now draw _ hcall rfl (by rw [hauth]; rfl)
        (by rw [hauth]; rfl)
  | finish rejected snapshot result hfetch hlast hauth =>
      exact .none _ _ (by simp) rfl (by rw [hauth]) (by rw [hauth])
  | retry snapshot failure hfetch hexpired hbypass hauth =>
      exact .report snapshot failure hfetch (by rw [hauth]; rfl) (by rw [hauth]; rfl)

theorem snapshot?_of_generating (h : Turn s f e marks authMarks want t)
    {rejected : Option Auth.Snapshot} {snapshot : Auth.Snapshot}
    (hplace : t.fetch f = .generating rejected snapshot) :
    t.auth.cache.slot.snapshot? = some snapshot := by
  cases h with
  | hit own now found hfetch hcall hfresh hauth hown =>
      obtain ⟨rfl, rfl⟩ : own = rejected ∧ found = snapshot := by simpa [hown] using hplace
      rw [hauth]
      exact (Auth.Slot.snapshot?_of_fresh? hfresh).1
  | share own now seen found hfetch hcall hfree hseen hcontext hauth hown =>
      obtain ⟨rfl, rfl⟩ : own = rejected ∧ found = snapshot := by simpa [hown] using hplace
      rw [hauth]
      rcases Option.or_eq_some_iff.mp hcontext with hfresh | ⟨-, hlatest⟩
      · exact (Auth.Slot.snapshot?_of_fresh? hfresh).1
      · exact (Auth.Slot.snapshot?_of_latest? hlatest).1
  | publish own seen previous context now draw found hfound hfetch hcall hauth hown =>
      obtain ⟨rfl, rfl⟩ : own = rejected ∧ found = snapshot := by simpa [hown] using hplace
      rw [hauth, hfound]
      rfl
  | _ => simp_all

theorem answer_of_ok (h : Turn s f e marks authMarks want t) {image : Image}
    (hplace : t.fetch f = .done (.ok image)) :
    e = .answer f (.ok image) := by
  cases h with
  | finish own found result hfetch hlast hauth hown =>
      cases result with
      | ok own =>
          obtain rfl : own = image := by simpa [hown, Except.mapError] using hplace
          rfl
      | error failure => simp [hown, Except.mapError] at hplace
  | _ => simp_all

/-! ## Turns by the step that is taken -/

variable {rejected : Option Auth.Snapshot} {now : Instant}

theorem of_look (h : Turn s f (.seek f (.look now)) marks authMarks want t)
    (hfetch : s.fetch f = .seeking rejected) :
    (∃ x, s.auth.cache.slot.fresh? now = some x ∧
      t.auth = s.auth.place (callOf f rejected) (.done (.ok x)) ∧
      t.fetch f = .generating rejected x) ∨
    (s.auth.cache.slot.fresh? now = none ∧
      t.auth = s.auth.place (callOf f rejected) (.waiting s.auth.cache.slot.generation) ∧
      t.fetch f = .seeking rejected) := by
  cases h with
  | hit own _ x hown hcall hfresh hauth hplace =>
      obtain rfl : own = rejected := by simpa [hown] using hfetch
      exact .inl ⟨x, hfresh, hauth, hplace⟩
  | miss own _ hown hcall hfresh hauth hplace =>
      obtain rfl : own = rejected := by simpa [hown] using hfetch
      exact .inr ⟨hfresh, hauth, hplace⟩

/-- Who waits and has seen the last cycle refreshes, if the guard is free. -/
theorem of_acquire (h : Turn s f (.seek f (.acquire now)) marks authMarks want t)
    (hfetch : s.fetch f = .seeking rejected)
    (hcall : s.auth.call (callOf f rejected) = .waiting s.auth.cache.slot.generation)
    (hfree : s.auth.holder = none) :
    t.auth = s.auth.lead (callOf f rejected) s.auth.cache.slot.generation ∧
      t.fetch f = .seeking rejected := by
  have hseen : ∀ own seen, s.fetch f = .seeking own →
      s.auth.call (callOf f own) = .waiting seen → s.auth.cache.slot.generation = seen := by
    intro own seen hown hwaits
    obtain rfl : own = rejected := by simpa [hown] using hfetch
    simpa [hcall] using hwaits
  cases h with
  | lead own _ hown hwaits _ hauth hplace =>
      obtain rfl : own = rejected := by simpa [hown] using hfetch
      exact ⟨hauth, hplace⟩
  | blocked own _ seen hown hwaits hheld => exact (hheld hfree).elim
  | share own _ seen x hown hwaits _ hne | fail own _ seen failure hown hwaits _ hne
  | again own _ seen hown hwaits _ hne => exact (hne (hseen own seen hown hwaits)).elim

theorem of_settle {result : Except Provider.Failure Auth.Context} {draw : Nat}
    (h : Turn s f (.seek f (.settle result now draw)) marks authMarks want t)
    (hfetch : s.fetch f = .seeking rejected) :
    t.auth = s.auth.conclude (callOf f rejected) result now draw ∧
      (∀ context, result = .ok context → t.fetch f = .generating rejected
        ⟨s.auth.cache.slot.generation + 1, ⟨s.auth.cache.minted, context⟩⟩) ∧
      ∀ failure, result = .error failure →
        t.fetch f = .done (.error (.refresh s.provider ⟨s.auth.cache.minted, failure⟩)) := by
  cases h with
  | publish own seen previous context _ _ x hx hown hcall hauth hplace =>
      obtain rfl : own = rejected := by simpa [hown] using hfetch
      refine ⟨hauth, ?_, by simp⟩
      rintro _ ⟨⟩
      exact hx ▸ hplace
  | refuse own seen previous failure _ _ hown hcall hauth hplace =>
      obtain rfl : own = rejected := by simpa [hown] using hfetch
      refine ⟨hauth, by simp, ?_⟩
      rintro _ ⟨⟩
      exact hplace

theorem of_answer {result : Except Provider.Failure Image} {x : Auth.Snapshot}
    (h : Turn s f (.answer f result) marks authMarks want t)
    (hfetch : s.fetch f = .generating rejected x) :
    (t.auth = s.auth ∧ t.fetch f = .done (result.mapError (.ofFailure s.provider)) ∧
      ∀ failure, result = .error failure →
        (failure.isAuthExpired && !x.isBypassed && rejected.isNone) = false) ∨
    (rejected = none ∧ (∃ failure, result = .error failure) ∧
      t.auth = { s.auth with cache := s.auth.cache.invalidate x }.place
        (callOf f (some x)) .looking ∧
      t.fetch f = .seeking (some x)) := by
  cases h with
  | finish own y _ hown hlast hauth hplace =>
      obtain ⟨rfl, rfl⟩ : own = rejected ∧ y = x := by simpa [hown] using hfetch
      exact .inl ⟨hauth, hplace, hlast⟩
  | retry y failure hown hexpired hbypass hauth hplace =>
      obtain ⟨rfl, rfl⟩ : none = rejected ∧ y = x := by simpa [hown] using hfetch
      exact .inr ⟨rfl, ⟨failure, rfl⟩, hauth, hplace⟩

end Turn

theorem start_cases (s : Broker.Fetches) (f : Nat) :
    (s.step (.start f)).auth.cache = s.auth.cache ∧
      (s.step (.start f)).auth.holder = s.auth.holder ∧
      ∀ g, (s.step (.start f)).fetch g = s.fetch g ∨
        (s.step (.start f)).fetch g = .seeking none := by
  cases hfetch : s.fetch f with
  | absent =>
      have hstep : s.step (.start f) =
          { s with telemetry := s.telemetry.openFlow .tile }.seek f none := by
        simp [Broker.Fetches.step, Broker.Fetches.start, hfetch]
      have hauth : (s.auth.start (callOf f none)).cache = s.auth.cache ∧
          (s.auth.start (callOf f none)).holder = s.auth.holder := by
        unfold Auth.Calls.start
        split <;> exact ⟨rfl, rfl⟩
      rw [hstep]
      refine ⟨hauth.1, hauth.2, fun g ↦ ?_⟩
      by_cases hg : g = f
      · right
        simp [Broker.Fetches.seek, hg]
      · exact .inl (Broker.Fetches.fetch_place_of_ne _ hg _)
  | _ => simp [Broker.Fetches.step, Broker.Fetches.start, hfetch]

end TileFetch.Simulation
