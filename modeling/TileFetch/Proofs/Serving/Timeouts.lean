import TileFetch.Proofs.Serving.Deadlines
import TileFetch.Proofs.Serving.Effects
import TileFetch.Proofs.Serving.Waiters
import TileFetch.Simulation.Counting

/-!
# What timeouts decide

A call of the provider that is answered in time comes to what the provider says; one that is not
is given up at its deadline, and comes to a failure that says so.
-/

namespace TileFetch.Simulation

open Broker (callOf)
open Time (Instant)

variable {π : Type} {setup : Setup π} {tile : Nat → TileRequest}

namespace Serving

variable {s : Serving π} {f : Nat} {r : Reading} {e : Event} {event : Broker.Event} {provider : π}

/-! ## Calls that end -/

/-- A refresh of fetch `f` ends with `result`: the cache is told, and the fetch asks for its tile or
fails. -/
structure EndsRefresh (setup : Setup π) (s t : Serving π) (f : Nat)
    (rejected : Option Auth.Snapshot) (result : Except Provider.Failure Auth.Context)
    (r : Reading) : Prop where
  fetch_eq : s.fetches.fetch f = .seeking rejected
  auth_eq : t.fetches.auth =
    s.fetches.auth.conclude (callOf f rejected) result r.issuedAt r.draw
  publishes : ∀ context, result = .ok context → t.fetches.fetch f = .generating rejected
    ⟨s.fetches.auth.cache.slot.generation + 1, ⟨s.fetches.auth.cache.minted, context⟩⟩
  fails : ∀ failure, result = .error failure → t.fetches.fetch f =
    .done (.error (.refresh setup.service.name ⟨s.fetches.auth.cache.minted, failure⟩))

/-- A refresh of fetch `f` is given up with `error`: a cycle has failed, and its failure is that of
the fetch and of those that wait for the cycle. -/
structure FailsCycle (setup : Setup π) (tile : Nat → TileRequest) (readings : List Instant)
    (s t : Serving π) (f : Nat) (error : Auth.Handle Provider.Failure) : Prop where
  kind_eq : error.value.kind = .timeout
  fetch_eq : t.fetches.fetch f = .done (.error (.refresh setup.service.name error))
  slot_eq : t.fetches.auth.cache.slot =
    { s.fetches.auth.cache.slot with
      generation := s.fetches.auth.cache.slot.generation + 1
      lastFailure := some (s.fetches.auth.cache.slot.generation + 1, error)
      refreshing := false }
  tally_eq : t.fetches.auth.cache.tally =
    { s.fetches.auth.cache.tally with failures := s.fetches.auth.cache.tally.failures + 1 }
  holder_eq : t.fetches.auth.holder = none
  pending_eq : t.pending f = .none
  provider_eq : t.provider = s.provider
  shared : ∀ g rejected seen, s.fetches.fetch g = .seeking rejected →
    s.fetches.auth.call (callOf g rejected) = .waiting seen →
    SharesFailure setup tile t g rejected seen error
  /-- The old context cannot be used again, unless the wall clock is set back. -/
  useless : ∀ now, (∀ earlier ∈ readings, earlier.notAfter now = true) →
    t.fetches.auth.cache.slot.fresh? now = none

/-- The call of fetch `f` for its tile ends with `failure`, and so does the fetch; the context stays
as it was, and nothing is asked for again. -/
structure EndsFetch (setup : Setup π) (tile : Nat → TileRequest) (s t : Serving π) (f : Nat)
    (failure : Provider.Failure) : Prop where
  kind_eq : failure.kind = .timeout
  fetch_eq : t.fetches.fetch f = .done (.error (.fetch setup.service.name failure))
  auth_eq : t.fetches.auth = s.fetches.auth
  pending_eq : t.pending f = .none
  provider_eq : t.provider = s.provider
  asks : ∀ later, ∀ a ∈ t.askLog setup tile later, a.fetch ≠ f

theorem Offer.endsRefresh {result : Except Provider.Failure Auth.Context}
    (h : s.Offer setup f r e (.seek f (.settle result r.issuedAt r.draw)) provider)
    (hs : s.Backed setup tile f) (hname : s.fetches.provider = setup.service.name)
    {call : Begun π Auth.Context} (hpending : s.pending f = .context call) :
    ∃ rejected read previous,
      s.fetches.auth.call (callOf f rejected) = .leading read previous ∧
      EndsRefresh setup s (s.step setup tile e) f rejected result r := by
  obtain ⟨previous, -, -, -, rejected, read, hfetch, hcall, -⟩ := hs.of_context hpending
  obtain ⟨hauth, hpublishes, hfails⟩ :=
    Turn.of_settle (Turn.settle hfetch hcall result r.issuedAt r.draw) hfetch
  rw [← h.fetches_step] at hauth hpublishes hfails
  rw [hname] at hfails
  exact ⟨rejected, read, previous, hcall, hfetch, hauth, hpublishes, hfails⟩

/-- A fetch that has ended waits for nothing, and has not asked again. -/
theorem Offer.idle_of_done (h : s.Offer setup f r e event provider)
    {result : Except Broker.Fault Image}
    (hdone : (s.step setup tile e).fetches.fetch f = .done result) :
    (s.step setup tile e).pending f = .none ∧ (s.step setup tile e).provider = provider := by
  rw [h.fetches_step] at hdone
  have hwanted : wanted? (s.fetches.step event) f = none := by rw [wanted?, hdone]
  rw [h.step_eq, proceed_of_none (s := { s with provider }) hwanted]
  exact ⟨by simp [await], rfl⟩

theorem step_expire_of_tile (hs : s.Backed setup tile f) {call : Begun π Image}
    (hpending : s.pending f = .tile call) (hlate : call.mayExceed setup.timeout = true)
    (r : Reading) :
    let failure : Provider.Failure := .ofTimeout "generate_tile" setup.timeout
    let t := s.step setup tile (.expire f r)
    t.fetches.auth = s.fetches.auth ∧
      t.fetches.fetch f = .done (.error (.fetch s.fetches.provider failure)) ∧
      t.pending f = .none ∧ t.provider = s.provider := by
  intro failure t
  obtain ⟨-, -, rejected, snapshot, hfetch, -⟩ := hs.of_tile hpending
  have hoffer : s.Offer setup f r (.expire f r) _ _ := .lateTile call hpending hlate
  have hanswer : s.fetches.answer f (.error failure) =
      s.fetches.finish f (.error (.fetch s.fetches.provider failure)) := by
    simp [Broker.Fetches.answer, hfetch, failure, Provider.Failure.ofTimeout,
      Provider.Failure.isAuthExpired, Broker.Fault.ofFailure]
  have hfetches : t.fetches = s.fetches.finish f (.error (.fetch s.fetches.provider failure)) :=
    hoffer.fetches_step.trans hanswer
  have hdone : t.fetches.fetch f = .done (.error (.fetch s.fetches.provider failure)) := by
    rw [hfetches]
    simp [Broker.Fetches.finish]
  refine ⟨?_, hdone, hoffer.idle_of_done hdone⟩
  rw [hfetches]
  rfl

section

variable {policy : Auth.Policy} {start : π} {past : List Event}
  (hs : s = (initial setup policy start).run setup tile past)

include hs

theorem failsCycle {call : Begun π Auth.Context} (hpending : s.pending f = .context call)
    (hlate : call.mayExceed setup.timeout = true) (r : Reading) :
    FailsCycle setup tile (past.flatMap Event.readings) s (s.step setup tile (.expire f r)) f
      ⟨s.fetches.auth.cache.minted, .ofTimeout "pre_auth" setup.timeout⟩ := by
  have hbacked : s.Backed setup tile f := hs ▸ backed_run setup tile policy start past f
  have hoffer : s.Offer setup f r (.expire f r) _ _ := .lateContext call hpending hlate
  obtain ⟨rejected, read, previous, hcall, hfetch, hauth, -, hfails⟩ :=
    hoffer.endsRefresh hbacked (name_eq hs) hpending
  have hdone := hfails _ rfl
  obtain ⟨hnone, hprovider⟩ := hoffer.idle_of_done hdone
  have ht : s.step setup tile (.expire f r) = _ := run_eq hs [.expire f r]
  have hmove : s.Move setup tile (.expire f r) _ _ _ := move_step s (.expire f r)
  constructor
  case kind_eq => rfl
  case fetch_eq => exact hdone
  case slot_eq | tally_eq | holder_eq => rw [hauth]; rfl
  case pending_eq => exact hnone
  case provider_eq => exact hprovider
  case shared =>
    intro g own seen hown hwaits
    have hother : f ≠ g := by
      rintro rfl
      obtain rfl : own = rejected := by simpa [hown] using hfetch
      simp [hcall] at hwaits
    obtain ⟨hsame, hcalls⟩ := hmove.frame (by simpa [Event.fetch?] using hother)
    obtain ⟨log, hconsistent⟩ := consistent_auth hs
    have hread := hconsistent.seen_le hwaits
    apply sharesFailure ht _ _ (hsame.trans hown) ((hcalls own).trans hwaits)
    · rw [hauth, Auth.Slot.latestFailure?_eq_some_iff]
      rfl
    · rw [hauth]
      exact Nat.lt_succ_of_le hread
  case useless =>
    intro now hclock
    obtain ⟨earlier, hmem, hnone⟩ := exists_fresh?_eq_none hs ⟨read, previous, hcall⟩
    refine Auth.Slot.fresh?_eq_none_of_notAfter ?_ (hclock earlier hmem)
    rw [hauth]
    exact hnone

theorem endsFetch {call : Begun π Image} (hpending : s.pending f = .tile call)
    (hlate : call.mayExceed setup.timeout = true) (r : Reading) :
    EndsFetch setup tile s (s.step setup tile (.expire f r)) f
      (.ofTimeout "generate_tile" setup.timeout) := by
  have hbacked : s.Backed setup tile f := hs ▸ backed_run setup tile policy start past f
  obtain ⟨hauth, hdone, hnone, hprovider⟩ := step_expire_of_tile hbacked hpending hlate r
  have ht : s.step setup tile (.expire f r) = _ := run_eq hs [.expire f r]
  constructor
  case kind_eq => rfl
  case fetch_eq => rw [hdone, name_eq hs]
  case auth_eq => exact hauth
  case pending_eq => exact hnone
  case provider_eq => exact hprovider
  case asks =>
    intro later
    rw [ht] at hdone ⊢
    exact fetch_ne_of_done setup tile policy start _ later hdone

end

end Serving

namespace Clocked

open Serving (Event)

variable {s t : Clocked π} {events : List Event} {f : Nat} {r : Reading}

/-! ## Calls on the clock -/

structure DecidesRefresh (setup : Setup π) (tile : Nat → TileRequest) (readings : List Instant)
    (t : Clocked π) (f : Nat) (call : Begun π Auth.Context) : Prop where
  ends : t.EndsOnTime setup f call.delay
  answered : ∀ r, t.Permits setup (.turn f r) → ∃ rejected,
    t.toServing.EndsRefresh setup (t.happen setup tile (.turn f r)).toServing f rejected
      (call.finish r.now t.provider).2 r
  givenUp : ∀ r, t.Permits setup (.expire f r) →
    t.toServing.FailsCycle setup tile readings (t.happen setup tile (.expire f r)).toServing f
      ⟨t.fetches.auth.cache.minted, .ofTimeout "pre_auth" setup.timeout⟩

structure DecidesTile (setup : Setup π) (tile : Nat → TileRequest) (t : Clocked π) (f : Nat)
    (call : Begun π Image) : Prop where
  ends : t.EndsOnTime setup f call.delay
  answered : ∀ r, t.Permits setup (.turn f r) →
    (t.happen setup tile (.turn f r)).fetches =
      t.fetches.answer f (call.finish r.now t.provider).2
  givenUp : ∀ r, t.Permits setup (.expire f r) →
    t.toServing.EndsFetch setup tile (t.happen setup tile (.expire f r)).toServing f
      (.ofTimeout "generate_tile" setup.timeout)

/-- Calls of the provider are answered if they are in time, and given up if they are not.  Whatever
the provider does and however the fetches take turns, a call that is under way began when its fetch
last took one.  The clock goes on until the answer is there, or the call has taken as long as calls
may take; then, and not before, the call ends, with what the provider says in the one case and with
a failure of its own in the other.  A refresh that is given up is a failed cycle for all that wait
for it, a fetch that gives up its tile has ended. -/
theorem timeouts_decide (setup : Setup π) (tile : Nat → TileRequest) (policy : Auth.Policy)
    (start : π) (past : List Event) {events : List Event} {t : Clocked π}
    (hidle : ∀ f, ((Serving.initial setup policy start).run setup tile past).pending f = .none)
    (h : (ofServing ((Serving.initial setup policy start).run setup tile past)).Runs setup tile
      events t) :
    (∀ f, t.pending f ≠ .none →
      (ofServing ((Serving.initial setup policy start).run setup tile past)).Began setup tile
        events t f) ∧
    (∀ f call, t.pending f = .context call →
      t.DecidesRefresh setup tile ((past ++ events).flatMap Event.readings) f call) ∧
    (∀ f call, t.pending f = .tile call → t.DecidesTile setup tile f call) ∧
    ((∀ f progress, (t.pending f).progress? setup (t.since f) t.clock = some progress →
      progress = .waiting) → t.Passes setup (t.clock + 1)) := by
  have ht : t.toServing = (Serving.initial setup policy start).run setup tile (past ++ events) := by
    rw [Serving.run_append]
    exact h.serving_eq
  have hontime := (onTime_ofServing hidle).run h
  have hbacked : ∀ f, t.toServing.Backed setup tile f := by
    rw [ht]
    exact Serving.backed_run setup tile policy start _
  refine ⟨fun f ↦ began_run hidle h, ?_, ?_, passes_succ t⟩
  · intro f call hpending
    refine ⟨hontime.of_context hpending, fun r hpermits ↦ ?_, fun r hpermits ↦ ?_⟩
    · obtain ⟨rejected, -, -, -, hends⟩ := (hpermits.offer_context hpending).endsRefresh
        (hbacked f) (Serving.name_eq ht) hpending
      exact ⟨rejected, hends⟩
    · exact Serving.failsCycle ht hpending (hpermits.mayExceed_context hpending) r
  · intro f call hpending
    refine ⟨hontime.of_tile hpending, fun r hpermits ↦ ?_, fun r hpermits ↦ ?_⟩
    · exact (hpermits.offer_tile hpending).fetches_step
    · exact Serving.endsFetch ht hpending (hpermits.mayExceed_tile hpending) r

/-- An authentication takes half a second, and calls may take twenty milliseconds. -/
def slow : Setup Counts where
  service := .counting { delay := 500 } id fun _ counts ↦ counts
  env := ⟨{ Client.Settings.default with timeout := 20 * 1000000 }, .default⟩

def slowTile (_ : Nat) : TileRequest :=
  ⟨⟨"roads", rfl⟩, 1, 2, 3⟩

def readingAt (n : UInt8) : Reading :=
  ⟨Auth.moment n, Auth.moment n, Auth.moment n, 0⟩

def refreshing : Clocked Counts :=
  [.start 0, .turn 0 (readingAt 0), .turn 0 (readingAt 1)].foldl (happen slow slowTile)
    (ofServing (.initial slow .reactive {}))

/-- Later another fetch waits for it, until the refresh has taken as long as calls may take. -/
def overdue : Clocked Counts :=
  { [.start 1, .turn 1 (readingAt 2)].foldl (happen slow slowTile) { refreshing with clock := 5 }
    with clock := 20 }

theorem runs_overdue : (ofServing (.initial slow .reactive {})).Runs slow slowTile
    [.start 0, .turn 0 (readingAt 0), .turn 0 (readingAt 1), .start 1, .turn 1 (readingAt 2)]
    overdue := by
  have hled : (ofServing (.initial slow .reactive {})).Runs slow slowTile _ refreshing :=
    ((Runs.refl.happen (.start 0) trivial).happen (.turn 0 (readingAt 0)) (.inl rfl)).happen
      (.turn 0 (readingAt 1)) (.inl rfl)
  have hlater : refreshing.Passes slow 5 := ⟨by decide, fun
    | 0 => by decide
    | _ + 1 => List.forall_mem_nil _⟩
  have hwaits := ((hled.pass 5 hlater).happen (.start 1) trivial).happen (.turn 1 (readingAt 2))
    (.inl rfl)
  exact hwaits.pass 20 ⟨by decide, fun
    | 0 => by decide
    | 1 => List.forall_mem_nil _
    | _ + 2 => List.forall_mem_nil _⟩

/-- Then both fetches fail with one failure. -/
theorem slow_refresh_fails_both :
    let error : Auth.Handle Provider.Failure := ⟨0, .ofTimeout "pre_auth" 20⟩
    let t := overdue.happen slow slowTile (.expire 0 (readingAt 3))
    overdue.Permits slow (.expire 0 (readingAt 3)) ∧
      ¬ overdue.Permits slow (.turn 0 (readingAt 3)) ∧
      t.fetches.fetch 0 = .done (.error (.refresh "counting" error)) ∧
      (t.happen slow slowTile (.turn 1 (readingAt 4))).fetches.fetch 1 =
        .done (.error (.refresh "counting" error)) := by
  intro error t
  obtain ⟨-, hrefresh, -, -⟩ :=
    timeouts_decide slow slowTile .reactive {} [] (fun _ ↦ rfl) runs_overdue
  have hdecides := hrefresh 0 _ rfl
  have hlong : ∀ d ≤ 20, some 500 ≠ some d := by decide
  have hlate := (hdecides.ends.givenUp_iff (readingAt 3)).mpr ⟨hlong, rfl⟩
  have hfails := hdecides.givenUp (readingAt 3) hlate
  refine ⟨hlate, ?_, hfails.fetch_eq, ?_⟩
  · rw [hdecides.ends.answered_iff]
    rintro ⟨d, hd, hdelay, -⟩
    exact hlong d hd hdelay
  · exact (hfails.shared 1 none 0 rfl rfl).fails [] (readingAt 4) rfl rfl rfl rfl rfl

end Clocked

end TileFetch.Simulation
