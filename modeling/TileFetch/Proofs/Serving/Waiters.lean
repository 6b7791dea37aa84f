import TileFetch.Proofs.Auth.SharedFailure
import TileFetch.Proofs.Serving.Ledger

/-!
# Fetches that wait for a refresh

Fetches that wait while another one refreshes share what the cycle comes to.  If it fails they fail
with its failure, one after the other as they get the guard; until another cycle ends nothing else
can become of them, unless they are dropped or the wall clock is set back: `shares_run`.
-/

namespace TileFetch.Simulation

open Broker (callOf)
open Time (Instant)

variable {π : Type} {setup : Setup π} {tile : Nat → TileRequest}

/-- What can become of a fetch that waits for a refresh: it waits on, it is dropped, or it fails. -/
inductive Shares (s : Broker.Fetches) (g : Nat) (rejected : Option Auth.Snapshot) (seen : Nat)
    (fault : Broker.Fault) : Prop where
  | waits (hfetch : s.fetch g = .seeking rejected)
      (hcall : s.auth.call (callOf g rejected) = .waiting seen) : Shares s g rejected seen fault
  | dropped (hfetch : s.fetch g = .dropped) : Shares s g rejected seen fault
  | failed (hfetch : s.fetch g = .done (.error fault)) : Shares s g rejected seen fault

namespace Turn

variable {s t : Broker.Fetches} {g : Nat} {e : Broker.Event} {marks : List Broker.Mark}
  {authMarks : List Auth.Mark} {want : Option Want} {rejected : Option Auth.Snapshot} {seen : Nat}

/-- The turn of a fetch that waits for a cycle which has ended.  It does not refresh; if the cycle
has failed and there is no context, the fetch fails as soon as the guard is free. -/
theorem of_waiting (h : Turn s g e marks authMarks want t) (hfetch : s.fetch g = .seeking rejected)
    (hcall : s.auth.call (callOf g rejected) = .waiting seen)
    (hseen : s.auth.cache.slot.generation ≠ seen) :
    (∀ previous, want ≠ some (.context previous)) ∧ ∃ now, e = .seek g (.acquire now) ∧
      ∀ failure, s.auth.cache.slot.latestFailure? = some failure →
        s.auth.cache.slot.latest? = none → s.auth.cache.slot.fresh? now = none →
        s.auth.holder ≠ none ∧ t = s ∨
          s.auth.holder = none ∧ t.fetch g = .done (.error (.refresh s.provider failure)) := by
  have hcalls : ∀ own, s.fetch g = .seeking own → s.auth.call (callOf g own) = .waiting seen := by
    intro own hown
    obtain rfl : own = rejected := by simpa [hown] using hfetch
    exact hcall
  cases h with
  | blocked own now read hown hwaits hheld =>
      exact ⟨by simp, now, rfl, fun _ _ _ _ ↦ .inl ⟨hheld, rfl⟩⟩
  | fail own now read other hown hwaits hfree hread hcontext hother hauth hplace =>
      refine ⟨by simp, now, rfl, fun failure hfailure _ _ ↦ .inr ⟨hfree, ?_⟩⟩
      obtain rfl := Option.some.inj (hother.symm.trans hfailure)
      exact hplace
  | share own now read snapshot hown hwaits hfree hread hcontext =>
      exact ⟨by simp, now, rfl, fun _ _ hlatest hnone ↦ by simp [hlatest, hnone] at hcontext⟩
  | again own now read hown hwaits hfree hread hcontext hother =>
      exact ⟨by simp, now, rfl, fun _ hfailure _ _ ↦ by simp [hother] at hfailure⟩
  | lead own now hown hwaits => exact (hseen (by simpa [hcalls own hown] using hwaits.symm)).elim
  | hit own now snapshot hown hlooks | miss own now hown hlooks =>
      simp [hcalls own hown] at hlooks
  | publish own read previous context now draw snapshot hsnapshot hown hleads
  | refuse own read previous failure now draw hown hleads => simp [hcalls own hown] at hleads
  | finish own snapshot result hown | retry snapshot failure hown => simp [hown] at hfetch

end Turn

namespace Serving

/-! ## The wall clock -/

def Event.readings : Event → List Instant
  | .turn _ r => [r.now, r.issuedAt]
  | .expire _ r => [r.now, r.issuedAt]
  | _ => []

variable {s t : Serving π} {f g : Nat} {r : Reading} {e : Event} {event : Broker.Event}
  {provider : π} {events : List Broker.Event} {asks : List Ask}

theorem Offer.readings_eq (h : s.Offer setup f r e event provider) :
    e.readings = [r.now, r.issuedAt] := by
  cases h <;> rfl

theorem Offer.times_subset (h : s.Offer setup f r e event provider) :
    Auth.times (s.fetches.authEvents event) ⊆ e.readings := by
  rw [h.readings_eq]
  cases h <;> simp only [Broker.Fetches.authEvents] <;> split <;>
    simp [Auth.times, Auth.Event.time?]

theorem Move.times_subset (h : s.Move setup tile e events asks t) :
    Auth.times (s.fetches.authHistory events) ⊆ e.readings := by
  cases h with
  | idle => simp [Broker.Fetches.authHistory, Auth.times]
  | proceed f r _ event provider hoffer =>
      simpa [Broker.Fetches.authHistory] using hoffer.times_subset
  | start f | drop f =>
      simp only [Broker.Fetches.authHistory, Broker.Fetches.authEvents, List.append_nil]
      split
      · simp [Auth.times_singleton, Auth.Event.time?]
      · exact List.nil_subset _
  | invalidate snapshot =>
      simp [Broker.Fetches.authHistory, Broker.Fetches.authEvents, Auth.times_singleton,
        Auth.Event.time?]

theorem times_run (setup : Setup π) (tile : Nat → TileRequest) (s : Serving π)
    (events : List Event) :
    Auth.times (s.fetches.authHistory (s.history setup tile events)) ⊆
      events.flatMap Event.readings := by
  induction events generalizing s with
  | nil => simp [history, Broker.Fetches.authHistory, Auth.times]
  | cons e events ih =>
      have hmove : s.Move setup tile e _ _ _ := move_step s e
      have hlater := ih (s.step setup tile e)
      rw [history, Broker.Fetches.authHistory_append, Auth.times_append, List.flatMap_cons,
        List.append_subset, ← hmove.fetches_eq]
      exact ⟨List.subset_append_of_subset_left _ hmove.times_subset,
        List.subset_append_of_subset_right _ hlater⟩

/-! ## The cache of a run -/

theorem auth_run (setup : Setup π) (tile : Nat → TileRequest) (s : Serving π)
    (later : List Event) : (s.run setup tile later).fetches.auth =
      s.fetches.auth.run (s.fetches.authHistory (s.history setup tile later)) := by
  rw [fetches_run]
  exact s.fetches.auth_run_of _

theorem generation_le_run (setup : Setup π) (tile : Nat → TileRequest) (s : Serving π)
    (later : List Event) : s.fetches.auth.cache.slot.generation ≤
      (s.run setup tile later).fetches.auth.cache.slot.generation := by
  rw [auth_run]
  exact Auth.Calls.generation_le_run _ _

/-- Until another cycle ends the last failure stays, and the old context stays useless. -/
theorem failure_run (setup : Setup π) (tile : Nat → TileRequest) (s : Serving π)
    {later : List Event} (h : (s.run setup tile later).fetches.auth.cache.slot.generation =
      s.fetches.auth.cache.slot.generation) :
    (s.run setup tile later).fetches.auth.cache.slot.lastFailure =
        s.fetches.auth.cache.slot.lastFailure ∧
      ∀ now, s.fetches.auth.cache.slot.fresh? now = none →
        (s.run setup tile later).fetches.auth.cache.slot.fresh? now = none := by
  rw [auth_run] at h ⊢
  exact Auth.Calls.failure_run h

/-! ## Those who wait -/

/-- What is not for fetch `g` leaves it and its calls for a context as they are. -/
theorem Move.frame (h : s.Move setup tile e events asks t) (hg : e.fetch? ≠ some g) :
    t.fetches.fetch g = s.fetches.fetch g ∧
      ∀ rejected, t.fetches.auth.call (callOf g rejected) =
        s.fetches.auth.call (callOf g rejected) := by
  have hbroker : ∀ event : Broker.Event, event.fetch? ≠ some g →
      (s.fetches.step event).fetch g = s.fetches.fetch g ∧
        ∀ rejected, (s.fetches.step event).auth.call (callOf g rejected) =
          s.fetches.auth.call (callOf g rejected) := by
    intro event hevent
    have hmove := s.fetches.move_step event
    exact ⟨hmove.fetch_eq_of_ne hevent, hmove.call_auth_eq_of_ne hevent⟩
  cases h with
  | idle => exact ⟨rfl, fun _ ↦ rfl⟩
  | start f | drop f => exact hbroker _ hg
  | invalidate snapshot => exact hbroker (.invalidate snapshot) (by simp [Broker.Event.fetch?])
  | proceed f r _ event provider hoffer =>
      rw [fetches_proceed]
      apply hbroker
      rw [hoffer.fetch_eq]
      rwa [hoffer.event_fetch?] at hg

section

variable {past : List Broker.Mark} {rejected : Option Auth.Snapshot} {seen : Nat}
  {failure : Auth.Handle Provider.Failure}

theorem Move.shares_of_waiting (h : s.Move setup tile e events asks t)
    (hbacked : s.Backed setup tile g)
    (hcourse : (s.fetches.fetch g).Course g s.fetches.provider s.fetches.auth past)
    (hseen : s.fetches.auth.cache.slot.generation ≠ seen)
    (hfailure : s.fetches.auth.cache.slot.latestFailure? = some failure)
    (hlatest : s.fetches.auth.cache.slot.latest? = none)
    (hnone : ∀ now ∈ e.readings, s.fetches.auth.cache.slot.fresh? now = none)
    (hfetch : s.fetches.fetch g = .seeking rejected)
    (hcall : s.fetches.auth.call (callOf g rejected) = .waiting seen) :
    Shares t.fetches g rejected seen (.refresh s.fetches.provider failure) := by
  by_cases he : e.fetch? = some g
  · cases h with
    | idle => exact .waits hfetch hcall
    | invalidate => simp [Event.fetch?] at he
    | start f =>
        obtain rfl : f = g := Option.some.inj he
        have hstart : s.fetches.step (.start f) = s.fetches := by
          simp [Broker.Fetches.step, Broker.Fetches.start, hfetch]
        exact .waits (by rw [hstart]; exact hfetch) (by rw [hstart]; exact hcall)
    | drop f =>
        obtain rfl : f = g := Option.some.inj he
        exact .dropped (by simp [await, Broker.Fetches.step, Broker.Fetches.drop, hfetch])
    | proceed f r _ event provider hoffer =>
        obtain rfl : f = g := Option.some.inj (hoffer.event_fetch?.symm.trans he)
        obtain ⟨-, now, hevent, hfails⟩ :=
          (hoffer.takesTurn hbacked hcourse).of_waiting hfetch hcall hseen
        have hnow : now = r.now := by
          subst hevent
          cases hoffer
          rfl
        subst hnow
        have hread := hnone r.now (by simp [hoffer.readings_eq])
        rw [fetches_proceed]
        rcases hfails failure hfailure hlatest hread with ⟨-, hsame⟩ | ⟨-, hdone⟩
        · exact .waits (by rw [hsame]; exact hfetch) (by rw [hsame]; exact hcall)
        · exact .failed hdone
  · obtain ⟨hsame, hcalls⟩ := h.frame he
    exact .waits (hsame.trans hfetch) ((hcalls rejected).trans hcall)

theorem dropped_run (s : Broker.Fetches) (events : List Broker.Event)
    (hdropped : s.fetch g = .dropped) : (s.run events).fetch g = .dropped := by
  induction events generalizing s with
  | nil => exact hdropped
  | cons e events ih =>
      apply ih
      by_contra hne
      obtain ⟨-, -, ⟨habsent, -⟩ | hflight⟩ :=
        (s.move_step e).fetch_cases (hdropped ▸ hne : (s.step e).fetch g ≠ s.fetch g)
      · simp [hdropped] at habsent
      · simp [hdropped, Broker.Fetch.isInFlight] at hflight

theorem Move.shares (h : s.Move setup tile e events asks t) (hbacked : s.Backed setup tile g)
    (hcourse : (s.fetches.fetch g).Course g s.fetches.provider s.fetches.auth past)
    (hseen : s.fetches.auth.cache.slot.generation ≠ seen)
    (hfailure : s.fetches.auth.cache.slot.latestFailure? = some failure)
    (hlatest : s.fetches.auth.cache.slot.latest? = none)
    (hnone : ∀ now ∈ e.readings, s.fetches.auth.cache.slot.fresh? now = none)
    (hs : Shares s.fetches g rejected seen (.refresh s.fetches.provider failure)) :
    Shares t.fetches g rejected seen (.refresh s.fetches.provider failure) := by
  cases hs with
  | waits hfetch hcall =>
      exact h.shares_of_waiting hbacked hcourse hseen hfailure hlatest hnone hfetch hcall
  | dropped hfetch => exact .dropped (h.fetches_eq ▸ dropped_run _ _ hfetch)
  | failed hfetch => exact .failed (h.fetches_eq ▸ done_run _ _ hfetch)

end

/-- Fetch `g` has waited for a cycle that has just failed, when `seen` cycles had ended before. -/
structure SharesFailure (setup : Setup π) (tile : Nat → TileRequest) (s : Serving π) (g : Nat)
    (rejected : Option Auth.Snapshot) (seen : Nat) (failure : Auth.Handle Provider.Failure) :
    Prop where
  /-- Until another cycle ends, it waits on, or is dropped, or fails with the failure of the cycle,
  as long as the old context cannot be used again. -/
  shares : ∀ later, (s.run setup tile later).fetches.auth.cache.slot.generation =
      s.fetches.auth.cache.slot.generation →
    (∀ now ∈ later.flatMap Event.readings, s.fetches.auth.cache.slot.fresh? now = none) →
    Shares (s.run setup tile later).fetches g rejected seen (.refresh setup.service.name failure)
  fails : ∀ later r,
    let t := s.run setup tile later
    t.fetches.auth.cache.slot.generation = s.fetches.auth.cache.slot.generation →
    s.fetches.auth.cache.slot.fresh? r.now = none → t.fetches.fetch g = .seeking rejected →
    t.fetches.auth.call (callOf g rejected) = .waiting seen → t.fetches.auth.holder = none →
    (t.step setup tile (.turn g r)).fetches.fetch g =
      .done (.error (.refresh setup.service.name failure))
  /-- Also if other cycles have ended, it does not refresh when it gets the guard. -/
  refreshes : ∀ later r previous,
    let t := s.run setup tile later
    t.fetches.fetch g = .seeking rejected →
    t.fetches.auth.call (callOf g rejected) = .waiting seen →
    wanted? (t.step setup tile (.turn g r)).fetches g ≠ some (.context previous)

/-! ## Runs -/

section

variable {policy : Auth.Policy} {start : π} {past : List Event}
  (hs : s = (initial setup policy start).run setup tile past)

include hs

theorem consistent_auth : ∃ log, s.fetches.auth.Consistent log := by
  rw [hs, fetches_run_initial]
  exact ⟨_, Broker.Fetches.consistent_auth _ _ _⟩

theorem name_eq : s.fetches.provider = setup.service.name := by
  rw [hs, fetches_run_initial]
  exact Broker.Fetches.provider_run _ _

theorem run_eq (later : List Event) :
    s.run setup tile later = (initial setup policy start).run setup tile (past ++ later) := by
  rw [run_append, ← hs]

theorem exists_fresh?_eq_none {c : Nat} (h : s.fetches.auth.Refreshes c) :
    ∃ earlier ∈ past.flatMap Event.readings,
      s.fetches.auth.cache.slot.fresh? earlier = none := by
  rw [hs, auth_run] at h ⊢
  obtain ⟨earlier, hmem, hnone⟩ := Auth.Calls.exists_fresh?_eq_none_of_refreshes policy _ h
  exact ⟨earlier, times_run setup tile _ past hmem, hnone⟩

variable {g : Nat} {rejected : Option Auth.Snapshot} {seen : Nat}
  {failure : Auth.Handle Provider.Failure}

/-- Until another cycle ends, those who waited for the one that has failed share its failure. -/
theorem shares_run (hfailure : s.fetches.auth.cache.slot.latestFailure? = some failure)
    (hseen : s.fetches.auth.cache.slot.generation ≠ seen)
    (hfetch : s.fetches.fetch g = .seeking rejected)
    (hcall : s.fetches.auth.call (callOf g rejected) = .waiting seen) (later : List Event)
    (hgeneration : (s.run setup tile later).fetches.auth.cache.slot.generation =
      s.fetches.auth.cache.slot.generation)
    (hnone : ∀ now ∈ later.flatMap Event.readings,
      s.fetches.auth.cache.slot.fresh? now = none) :
    Shares (s.run setup tile later).fetches g rejected seen
      (.refresh setup.service.name failure) := by
  induction later using List.reverseRecOn with
  | nil => exact .waits hfetch hcall
  | append_singleton later e ih =>
      have ht := run_eq hs later
      have hmove : (s.run setup tile later).Move setup tile e _ _ _ := move_step _ e
      rw [List.flatMap_append, List.forall_mem_append, List.flatMap_singleton] at hnone
      rw [run_concat] at hgeneration ⊢
      -- No cycle ends on the way either, as their number only grows.
      have hsame : (s.run setup tile later).fetches.auth.cache.slot.generation =
          s.fetches.auth.cache.slot.generation :=
        le_antisymm (hgeneration ▸ generation_le_run setup tile _ [e])
          (generation_le_run setup tile s later)
      obtain ⟨hlast, hkept⟩ := failure_run setup tile s hsame
      have hfailed : (s.run setup tile later).fetches.auth.cache.slot.latestFailure? =
          some failure := by
        rw [Auth.Slot.latestFailure?_eq_some_iff] at hfailure ⊢
        rw [hlast, hsame, hfailure]
      obtain ⟨log, hconsistent⟩ := consistent_auth ht
      obtain ⟨marks, hcourse⟩ := course_run setup tile policy start (past ++ later) g
      rw [← ht] at hcourse
      have hbefore := ih hsame hnone.1
      rw [← name_eq ht] at hbefore ⊢
      exact hmove.shares (ht ▸ backed_run setup tile policy start _ g) hcourse
        (hsame.trans_ne hseen) hfailed (hconsistent.latest?_eq_none (by simp [hfailed]))
        (fun now hnow ↦ hkept now (hnone.2 now hnow)) hbefore

/-- The next of them that gets the guard fails. -/
theorem fetch_turn_of_waiting
    (hfailure : s.fetches.auth.cache.slot.latestFailure? = some failure)
    (hseen : s.fetches.auth.cache.slot.generation ≠ seen)
    (hfetch : s.fetches.fetch g = .seeking rejected)
    (hcall : s.fetches.auth.call (callOf g rejected) = .waiting seen)
    (hfree : s.fetches.auth.holder = none) {r : Reading}
    (hnone : s.fetches.auth.cache.slot.fresh? r.now = none) :
    (s.step setup tile (.turn g r)).fetches.fetch g =
      .done (.error (.refresh setup.service.name failure)) := by
  have hbacked : s.Backed setup tile g := hs ▸ backed_run setup tile policy start _ g
  have hwanted : wanted? s.fetches g = none := by simp [wanted?, hfetch, hcall]
  have hoffer : s.Offer setup g r (.turn g r) _ _ :=
    .acquire rejected seen (hbacked.pending_none hwanted) hfetch hcall
  obtain ⟨log, hconsistent⟩ := consistent_auth hs
  obtain ⟨-, now, hnow, hfails⟩ :=
    (Turn.acquire_free hfetch hcall hfree r.now).of_waiting hfetch hcall hseen
  obtain rfl : r.now = now := by simpa using hnow
  obtain ⟨hheld, -⟩ | ⟨-, hdone⟩ :=
    hfails failure hfailure (hconsistent.latest?_eq_none (by simp [hfailure])) hnone
  · exact (hheld hfree).elim
  · rw [hoffer.fetches_step, hdone, name_eq hs]

/-- Whatever happens, who waited for a cycle that has ended does not refresh in its place. -/
theorem wanted?_turn_of_waiting (hseen : s.fetches.auth.cache.slot.generation ≠ seen)
    (hfetch : s.fetches.fetch g = .seeking rejected)
    (hcall : s.fetches.auth.call (callOf g rejected) = .waiting seen) (r : Reading)
    (previous : Auth.Context) :
    wanted? (s.step setup tile (.turn g r)).fetches g ≠ some (.context previous) := by
  have hbacked : s.Backed setup tile g := hs ▸ backed_run setup tile policy start _ g
  have hwanted : wanted? s.fetches g = none := by simp [wanted?, hfetch, hcall]
  have hoffer : s.Offer setup g r (.turn g r) _ _ :=
    .acquire rejected seen (hbacked.pending_none hwanted) hfetch hcall
  obtain ⟨marks, hcourse⟩ := course_run setup tile policy start past g
  rw [← hs] at hcourse
  rw [hoffer.fetches_step]
  exact ((hoffer.takesTurn hbacked hcourse).of_waiting hfetch hcall hseen).1 previous

theorem sharesFailure (hfailure : s.fetches.auth.cache.slot.latestFailure? = some failure)
    (hseen : seen < s.fetches.auth.cache.slot.generation)
    (hfetch : s.fetches.fetch g = .seeking rejected)
    (hcall : s.fetches.auth.call (callOf g rejected) = .waiting seen) :
    SharesFailure setup tile s g rejected seen failure where
  shares later := shares_run hs hfailure hseen.ne' hfetch hcall later
  fails := by
    intro later r t hgeneration hnone hfetch hcall hfree
    obtain ⟨hlast, hkept⟩ := failure_run setup tile s hgeneration
    apply fetch_turn_of_waiting (run_eq hs later) _ (hgeneration ▸ hseen.ne') hfetch hcall hfree
      (hkept r.now hnone)
    rw [Auth.Slot.latestFailure?_eq_some_iff] at hfailure ⊢
    rw [hlast, hgeneration, hfailure]
  refreshes := by
    intro later r previous t hfetch hcall
    have hle := generation_le_run setup tile s later
    exact wanted?_turn_of_waiting (run_eq hs later) (hseen.trans_le hle).ne' hfetch hcall r previous

end

end Serving

end TileFetch.Simulation
