import TileFetch.Proofs.Serving.Deadlines
import TileFetch.Proofs.Serving.Seeking

/-!
# Tasks serve fetches

The tasks of a simulation run their fetches until these wait.  Whatever a task does in its turn, its
fetch takes steps of `Serving`, with the times that the wall clock shows, and each of them when the
virtual clock permits it.
-/

namespace TileFetch.Simulation

open Relation (ReflTransGen)
open Time (Instant)

variable {π : Type}

/-! ## The fetch behind a task -/

namespace Serving

variable (setup : Setup π) (tile : Nat → TileRequest)

def Reachable (policy : Auth.Policy) (start : π) (s : Serving π) : Prop :=
  ∃ events, s = (initial setup policy start).run setup tile events

structure Mirrors (s : Serving π) (w : BrokerWorld π) : Prop where
  machine_eq : w.machine = s.fetches
  provider_eq : w.provider = s.provider

variable {setup tile} {policy : Auth.Policy} {start : π} {s : Serving π} {f : Nat}
  {w : BrokerWorld π}

theorem Reachable.step (h : s.Reachable setup tile policy start) (e : Event) :
    (s.step setup tile e).Reachable setup tile policy start := by
  obtain ⟨events, rfl⟩ := h
  exact ⟨events ++ [e], (run_concat setup tile _ events e).symm⟩

theorem Reachable.backed (h : s.Reachable setup tile policy start) (f : Nat) :
    s.Backed setup tile f := by
  obtain ⟨events, rfl⟩ := h
  exact backed_run setup tile policy start events f

theorem Reachable.takesTurn (h : s.Reachable setup tile policy start) {r : Reading} {e : Event}
    {event : Broker.Event} {provider : π} (hoffer : s.Offer setup f r e event provider) :
    TakesTurn s.fetches f event := by
  have hbacked := h.backed f
  obtain ⟨events, rfl⟩ := h
  obtain ⟨past, hpast⟩ := course_run setup tile policy start events f
  exact hoffer.takesTurn hbacked hpast

theorem Backed.wanted?_eq_none (h : s.Backed setup tile f) (hpending : s.pending f = .none) :
    wanted? s.fetches f = none := by
  simpa [Backed, hpending] using h

theorem Mirrors.fetch_eq (h : s.Mirrors w) (f : Nat) : w.machine.fetch f = s.fetches.fetch f := by
  rw [h.machine_eq]

theorem answered (hs : s.Reachable setup tile policy start) {r : Reading} {e : Event}
    {event : Broker.Event} {provider : π} (hoffer : s.Offer setup f r e event provider)
    (hlook : ∀ now, event ≠ .seek f (.look now))
    (hacquire : ∀ now, event ≠ .seek f (.acquire now)) :
    remaining ((s.fetches.step event).fetch f) + 2 ≤ remaining (s.fetches.fetch f) ∧
      ∀ previous, wanted? (s.fetches.step event) f ≠ some (.context previous) :=
  (hs.takesTurn hoffer).remaining_lt hlook hacquire

end Serving

namespace Clocked

open Serving (Event)

variable (setup : Setup π) (tile : Nat → TileRequest)

/-- Steps of fetch `f` lead from one state to the other while the clock stands still. -/
def Onward (f : Nat) : Clocked π → Clocked π → Prop :=
  ReflTransGen fun s t ↦ ∃ e : Event, e.fetch? = some f ∧ s.Permits setup e ∧
    t = s.happen setup tile e

/-- The task that is where fetch `f` is, when no task has its turn. -/
inductive Shows (s : Clocked π) (f : Nat) : FetchTask π → Prop where
  | begin (habsent : s.fetches.fetch f = .absent) : Shows s f (.begin (tile f))
  | seek (hpending : s.pending f = .none) : Shows s f (.seek (tile f))
  | refresh (call : Begun π Auth.Context) (hpending : s.pending f = .context call) :
      Shows s f (.refresh (tile f) (setup.limit (s.since f) call))
  | generate (call : Begun π Image) (hpending : s.pending f = .tile call) :
      Shows s f (.generate (tile f) (setup.limit (s.since f) call))
  | probe (hpending : s.pending f = .none) : Shows s f .probe

/-- In its turn, fetch `f` has brought the broker and the provider here, and has not asked yet for
what it wants now. -/
inductive Poised (s : Clocked π) (f : Nat) (b : Broker.Fetches) (provider : π) : Prop where
  | waits (hmachine : b = s.fetches) (hprovider : provider = s.provider)
      (hpending : s.pending f = .none) : Poised s f b provider
  | moved (r : Reading) (e : Instant → Event) (event : Broker.Event)
      (hoffer : ∀ asked, s.toServing.Offer setup f { r with asked } (e asked) event provider)
      (hpermits : ∀ asked, s.Permits setup (e asked)) (hmachine : b = s.fetches.step event) :
      Poised s f b provider

variable {setup tile} {policy : Auth.Policy} {start : π} {s t : Clocked π} {f g : Nat}
  {w : BrokerWorld π} {events : List Event}

theorem Onward.single {e : Event} (he : e.fetch? = some f) (hpermits : s.Permits setup e) :
    Onward setup tile f s (s.happen setup tile e) :=
  ReflTransGen.single ⟨e, he, hpermits, rfl⟩

theorem Onward.reachable (hsteps : Onward setup tile f s t)
    (h : s.toServing.Reachable setup tile policy start) :
    t.toServing.Reachable setup tile policy start := by
  induction hsteps with
  | refl => exact h
  | tail _ hstep ih =>
      obtain ⟨e, -, -, rfl⟩ := hstep
      exact ih.step e

theorem Onward.clock_eq (h : Onward setup tile f s t) : t.clock = s.clock := by
  induction h with
  | refl => rfl
  | tail _ hstep ih =>
      obtain ⟨e, -, -, rfl⟩ := hstep
      exact ih

theorem Onward.runs (h : Onward setup tile f s t) : ∃ events, s.Runs setup tile events t := by
  induction h with
  | refl => exact ⟨[], .refl⟩
  | tail _ hstep ih =>
      obtain ⟨e, -, hpermits, rfl⟩ := hstep
      obtain ⟨events, hruns⟩ := ih
      exact ⟨_, hruns.happen e hpermits⟩

theorem Onward.frame (h : Onward setup tile f s t) (hg : g ≠ f) :
    t.fetches.fetch g = s.fetches.fetch g ∧ t.pending g = s.pending g ∧ t.since g = s.since g := by
  induction h with
  | refl => exact ⟨rfl, rfl, rfl⟩
  | tail _ hstep ih =>
      obtain ⟨e, he, -, rfl⟩ := hstep
      obtain ⟨hfetch, hpending⟩ := Serving.step_frame _ he hg
      have hother : e.fetch? ≠ some g := by
        rw [he]
        simpa using Ne.symm hg
      obtain ⟨hsince, -⟩ := pending_happen setup tile _ (caller?_ne hother)
      exact ⟨hfetch.trans ih.1, hpending.trans ih.2.1, hsince.trans ih.2.2⟩

theorem Shows.of_eq {state : FetchTask π} (h : Shows setup tile s g state)
    (hfetch : t.fetches.fetch g = s.fetches.fetch g) (hpending : t.pending g = s.pending g)
    (hsince : t.since g = s.since g) : Shows setup tile t g state := by
  cases h with
  | begin habsent => exact .begin (hfetch.trans habsent)
  | seek hnone => exact .seek (hpending.trans hnone)
  | refresh call hcall =>
      rw [← hsince]
      exact .refresh call (hpending.trans hcall)
  | generate call hcall =>
      rw [← hsince]
      exact .generate call (hpending.trans hcall)
  | probe hnone => exact .probe (hpending.trans hnone)

/-! ## The turn of a task -/

theorem caller?_of_offer {r : Reading} {e : Event} {event : Broker.Event} {provider : π}
    (h : s.toServing.Offer setup f r e event provider) : e.caller? = some f := by
  cases h <;> rfl

namespace Poised

variable {b c : Broker.Fetches} {provider : π}

theorem proceeds (tile : Nat → TileRequest) {r : Reading} {e : Instant → Event}
    {event : Broker.Event}
    (hoffer : ∀ asked, s.toServing.Offer setup f { r with asked } (e asked) event provider)
    (hpermits : ∀ asked, s.Permits setup (e asked)) (asked : Instant) :
    let t := s.happen setup tile (e asked)
    Onward setup tile f s t ∧ t.since f = s.clock ∧
      t.toServing = { s.toServing with provider }.proceed setup tile f event asked :=
  ⟨.single (hoffer asked).event_fetch? (hpermits asked),
    if_pos (caller?_of_offer (hoffer asked)), (hoffer asked).step_eq⟩

theorem mirrored (tile : Nat → TileRequest) (h : Poised setup s f b provider)
    (hwanted : wanted? b f = none) :
    ∃ t, Onward setup tile f s t ∧ b = t.fetches ∧ provider = t.provider ∧
      t.pending f = .none := by
  cases h with
  | waits hmachine hprovider hpending => exact ⟨s, .refl, hmachine, hprovider, hpending⟩
  | moved r e event hoffer hpermits hmachine =>
      subst hmachine
      obtain ⟨hsteps, -, hstate⟩ := proceeds tile hoffer hpermits r.asked
      rw [Serving.proceed_of_none (s := { s.toServing with provider }) hwanted] at hstate
      refine ⟨_, hsteps, ?_⟩
      rw [hstate]
      exact ⟨rfl, rfl, by simp [Serving.await]⟩

theorem seekStep (tile : Nat → TileRequest) (h : Poised setup s f b provider)
    (hstep : SeekStep f b c) :
    ∃ t, Onward setup tile f s t ∧ Poised setup t f c provider := by
  obtain ⟨t, hsteps, rfl, rfl, hpending⟩ := h.mirrored tile hstep.wanted?_eq
  refine ⟨t, hsteps, ?_⟩
  cases hstep with
  | look rejected now hfetch hcall =>
      exact .moved ⟨now, now, now, 0⟩ _ _ (fun _ ↦ .look rejected hpending hfetch hcall)
        (fun _ ↦ .of_idle hpending _) rfl
  | acquire rejected seen now hfetch hcall =>
      exact .moved ⟨now, now, now, 0⟩ _ _ (fun _ ↦ .acquire rejected seen hpending hfetch hcall)
        (fun _ ↦ .of_idle hpending _) rfl

theorem seeks (tile : Nat → TileRequest) (h : Poised setup s f b provider)
    (hseeks : ReflTransGen (SeekStep f) b c) :
    ∃ t, Onward setup tile f s t ∧ Poised setup t f c provider := by
  induction hseeks with
  | refl => exact ⟨s, .refl, h⟩
  | tail _ hstep ih =>
      obtain ⟨t, hsteps, hpoised⟩ := ih
      obtain ⟨u, hmore, hnext⟩ := hpoised.seekStep tile hstep
      exact ⟨u, hsteps.trans hmore, hnext⟩

theorem begin_tile (h : Poised setup s f w.machine w.provider)
    (hs : s.toServing.Backed setup tile f) {rejected : Option Auth.Snapshot}
    {snapshot : Auth.Snapshot} (hfetch : w.machine.fetch f = .generating rejected snapshot) :
    let begun := setup.beginGenerate s.clock snapshot.context.value (tile f) w
    ∃ t, Onward setup tile f s t ∧ t.Mirrors begun.2 ∧
      Shows setup tile t f (.generate (tile f) begun.1) := by
  have hwanted := wanted?_eq_tile_iff.mpr ⟨rejected, snapshot, hfetch, rfl⟩
  cases h with
  | waits hmachine _ hpending =>
      rw [hmachine, hs.wanted?_eq_none hpending] at hwanted
      simp at hwanted
  | moved r e event hoffer hpermits hmachine =>
      obtain ⟨hsteps, hsince, hstate⟩ := proceeds tile hoffer hpermits w.wall
      rw [hmachine] at hwanted
      rw [Serving.proceed_of_tile (s := { s.toServing with provider := w.provider }) hwanted]
        at hstate
      refine ⟨_, hsteps, ?_, ?_⟩
      · rw [hstate]
        exact ⟨hmachine, rfl⟩
      · rw [Setup.beginGenerate, ← hsince]
        apply Shows.generate
        rw [hstate]
        simp [Serving.await]
        rfl

theorem begin_context (h : Poised setup s f w.machine w.provider)
    (hs : s.toServing.Reachable setup tile policy start) {previous : Auth.Context}
    (hwanted : wanted? w.machine f = some (.context previous)) :
    let begun := setup.beginRefresh s.clock previous false w
    ∃ t, Onward setup tile f s t ∧ t.Mirrors begun.2 ∧
      Shows setup tile t f (.refresh (tile f) begun.1) := by
  cases h with
  | waits hmachine _ hpending =>
      rw [hmachine, (hs.backed f).wanted?_eq_none hpending] at hwanted
      simp at hwanted
  | moved r e event hoffer hpermits hmachine =>
      rw [hmachine] at hwanted
      have hturn := hs.takesTurn (hoffer w.wall)
      rw [TakesTurn, hwanted] at hturn
      obtain ⟨hsteps, hsince, hstate⟩ := proceeds tile hoffer hpermits w.wall
      rw [Serving.proceed_of_context (s := { s.toServing with provider := w.provider }) hwanted]
        at hstate
      simp only [hturn.holder_of_context, Option.isSome_none] at hstate
      refine ⟨_, hsteps, ?_, ?_⟩
      · rw [hstate]
        exact ⟨hmachine, rfl⟩
      · rw [Setup.beginRefresh, ← hsince]
        apply Shows.refresh
        rw [hstate]
        simp [Serving.await]
        rfl

end Poised

/-! ### Answers -/

section Outcomes

variable {α : Type} {call : Waiting π α} {operation : String} {clock : Nat} {v : BrokerWorld π}

theorem outcome?_eq_none (h : setup.outcome? operation clock call w = (none, v)) : v = w := by
  unfold Setup.outcome? at h
  cases hprogress : call.progress clock <;> simp [hprogress] at h
  exact h.symm

theorem outcome?_eq_some {result : Except Provider.Failure α}
    (h : setup.outcome? operation clock call w = (some result, v)) :
    v.machine = w.machine ∧
      (call.progress clock = .answered ∧ call.finish w.wall w.provider = (v.provider, result) ∨
        call.progress clock = .late ∧ result = .error (.ofTimeout operation setup.timeout) ∧
          v.provider = w.provider) := by
  unfold Setup.outcome? at h
  cases hprogress : call.progress clock with
  | waiting => simp [hprogress] at h
  | answered =>
      simp only [hprogress, Prod.mk.injEq, Option.some.injEq] at h
      obtain ⟨rfl, rfl⟩ := h
      exact ⟨rfl, .inl ⟨rfl, rfl⟩⟩
  | late =>
      simp only [hprogress, Prod.mk.injEq, Option.some.injEq] at h
      obtain ⟨rfl, rfl⟩ := h
      exact ⟨rfl, .inr ⟨rfl, rfl, rfl⟩⟩

end Outcomes

/-- The call that fetch `f` waits for may be answered or given up as soon as it has an outcome. -/
theorem permits_of_outcome {α : Type} {call : Begun π α} {operation : String} {v : BrokerWorld π}
    {result : Except Provider.Failure α}
    (hprogress : (s.pending f).progress? setup (s.since f) s.clock =
      some ((setup.limit (s.since f) call).progress s.clock))
    (h : setup.outcome? operation s.clock (setup.limit (s.since f) call) w = (some result, v)) :
    v.machine = w.machine ∧
      ((∀ r, s.Permits setup (.turn f r)) ∧
          call.finish w.wall w.provider = (v.provider, result) ∨
        (∀ r, s.Permits setup (.expire f r)) ∧
          result = .error (.ofTimeout operation setup.timeout) ∧ v.provider = w.provider) := by
  obtain ⟨hmachine, ⟨hanswered, hfinish⟩ | ⟨hlate, hresult, hprovider⟩⟩ := outcome?_eq_some h
  · exact ⟨hmachine, .inl ⟨fun r ↦ .inr (by rw [hprogress, hanswered]), hfinish⟩⟩
  · refine ⟨hmachine, .inr ⟨fun r ↦ ?_, hresult, hprovider⟩⟩
    rw [Permits, hprogress, hlate]

/-- The outcome of a refresh is one that fetch `f` may take now. -/
theorem offer_of_refresh (hmirrors : s.Mirrors w) {call : Begun π Auth.Context}
    (hpending : s.pending f = .context call) {v : BrokerWorld π}
    {result : Except Provider.Failure Auth.Context}
    (h : setup.outcome? "pre_auth" s.clock (setup.limit (s.since f) call) w = (some result, v)) :
    v.machine = s.fetches ∧ ∃ e : Instant → Event, ∀ asked, s.Permits setup (e asked) ∧
      s.toServing.Offer setup f ⟨w.wall, v.wall, asked, 0⟩ (e asked)
        (.seek f (.settle result v.wall 0)) v.provider := by
  obtain ⟨hmachine, ⟨hpermits, hfinish⟩ | ⟨hpermits, rfl, hprovider⟩⟩ :=
    permits_of_outcome (by rw [hpending, Pending.progress?]) h
  · refine ⟨hmachine.trans hmirrors.machine_eq, fun asked ↦ .turn f ⟨w.wall, v.wall, asked, 0⟩,
      fun asked ↦ ⟨hpermits _, ?_⟩⟩
    have hoffer := (hpermits ⟨w.wall, v.wall, asked, 0⟩).offer_context hpending
    rwa [← hmirrors.provider_eq, hfinish] at hoffer
  · refine ⟨hmachine.trans hmirrors.machine_eq, fun asked ↦ .expire f ⟨w.wall, v.wall, asked, 0⟩,
      fun asked ↦ ⟨hpermits _, ?_⟩⟩
    rw [hprovider, hmirrors.provider_eq]
    exact .lateContext call hpending
      ((hpermits ⟨w.wall, v.wall, asked, 0⟩).mayExceed_context hpending)

theorem offer_of_generate (hmirrors : s.Mirrors w) {call : Begun π Image}
    (hpending : s.pending f = .tile call) {v : BrokerWorld π}
    {result : Except Provider.Failure Image}
    (h : setup.outcome? "generate_tile" s.clock (setup.limit (s.since f) call) w =
      (some result, v)) :
    v.machine = s.fetches ∧ ∃ e : Instant → Event, ∀ asked, s.Permits setup (e asked) ∧
      s.toServing.Offer setup f ⟨w.wall, v.wall, asked, 0⟩ (e asked) (.answer f result)
        v.provider := by
  obtain ⟨hmachine, ⟨hpermits, hfinish⟩ | ⟨hpermits, rfl, hprovider⟩⟩ :=
    permits_of_outcome (by rw [hpending, Pending.progress?]) h
  · refine ⟨hmachine.trans hmirrors.machine_eq, fun asked ↦ .turn f ⟨w.wall, v.wall, asked, 0⟩,
      fun asked ↦ ⟨hpermits _, ?_⟩⟩
    have hoffer := (hpermits ⟨w.wall, v.wall, asked, 0⟩).offer_tile hpending
    rwa [← hmirrors.provider_eq, hfinish] at hoffer
  · refine ⟨hmachine.trans hmirrors.machine_eq, fun asked ↦ .expire f ⟨w.wall, v.wall, asked, 0⟩,
      fun asked ↦ ⟨hpermits _, ?_⟩⟩
    rw [hprovider, hmirrors.provider_eq]
    exact .lateTile call hpending ((hpermits ⟨w.wall, v.wall, asked, 0⟩).mayExceed_tile hpending)

/-! ### Whole turns -/

def stepsLeft (b : Broker.Fetches) (f : Nat) : FetchTask π → Nat
  | .probe => 1
  | .begin _ => 11
  | .seek _ => remaining (b.fetch f) + 2
  | .refresh _ _ => remaining (b.fetch f) + 1
  | .generate _ _ => remaining (b.fetch f) + 1

/-- What a task has come to shows where its fetch is, and the task waits for the alarms of the call
that its fetch waits for. -/
inductive ShowsEnd (setup : Setup π) (tile : Nat → TileRequest) (s : Clocked π) (f : Nat) :
    Poll (FetchTask π) FetchTaskResult → Prop where
  | pending (state : FetchTask π) (alarms : List Alarm) (h : Shows setup tile s f state)
      (halarms : (s.pending f).alarms setup (s.since f) ⊆ alarms) :
      ShowsEnd setup tile s f (.pending state alarms)
  | fetch (result : Except Broker.Fault Image) (h : s.fetches.fetch f = .done result) :
      ShowsEnd setup tile s f (.ready (.fetch result))
  | probe (view : View) (hpending : s.pending f = .none) :
      ShowsEnd setup tile s f (.ready (.probe view))

def TurnServes (setup : Setup π) (tile : Nat → TileRequest) (s : Clocked π) (f : Nat)
    (r : BrokerWorld π × Poll (FetchTask π) FetchTaskResult) : Prop :=
  ∃ t, Onward setup tile f s t ∧ t.Mirrors r.1 ∧ ShowsEnd setup tile t f r.2

theorem TurnServes.of_onward {r : BrokerWorld π × Poll (FetchTask π) FetchTaskResult}
    (hsteps : Onward setup tile f s t) (h : TurnServes setup tile t f r) :
    TurnServes setup tile s f r := by
  obtain ⟨u, hmore, hmirrors, hend⟩ := h
  exact ⟨u, hsteps.trans hmore, hmirrors, hend⟩

inductive GoesOn (setup : Setup π) (tile : Nat → TileRequest) (s : Clocked π) (f : Nat)
    (w : BrokerWorld π) : FetchTask π → Prop where
  | shown (state : FetchTask π) (hmirrors : s.Mirrors w) (h : Shows setup tile s f state) :
      GoesOn setup tile s f w state
  | poised (h : Poised setup s f w.machine w.provider)
      (hnot : ∀ previous, wanted? w.machine f ≠ some (.context previous)) :
      GoesOn setup tile s f w (.seek (tile f))

/-- A turn of at most `fuel` steps, from any place where one can go on, is one of the fetch. -/
def AdvanceServes (setup : Setup π) (tile : Nat → TileRequest) (policy : Auth.Policy) (start : π)
    (f task fuel : Nat) : Prop :=
  ∀ (s : Clocked π) (w : BrokerWorld π) (state : FetchTask π),
    s.toServing.Reachable setup tile policy start → GoesOn setup tile s f w state →
    stepsLeft w.machine f state ≤ fuel →
    TurnServes setup tile s f (setup.advance f task s.clock fuel w state)

namespace AdvanceServes

variable {task fuel : Nat}

theorem onward (ih : AdvanceServes setup tile policy start f task fuel)
    (hs : s.toServing.Reachable setup tile policy start) (hsteps : Onward setup tile f s t)
    {state : FetchTask π} (h : GoesOn setup tile t f w state)
    (hfuel : stepsLeft w.machine f state ≤ fuel) :
    TurnServes setup tile s f (setup.advance f task s.clock fuel w state) := by
  apply TurnServes.of_onward hsteps
  rw [← hsteps.clock_eq]
  exact ih t w state (hsteps.reachable hs) h hfuel

theorem begin (ih : AdvanceServes setup tile policy start f task fuel)
    (hs : s.toServing.Reachable setup tile policy start) (hmirrors : s.Mirrors w)
    (habsent : s.fetches.fetch f = .absent) (hfuel : 10 ≤ fuel) :
    TurnServes setup tile s f (setup.advance f task s.clock (fuel + 1) w (.begin (tile f))) := by
  have hwanted : wanted? s.fetches f = none := by simp [wanted?, habsent]
  have hpending := (hs.backed f).pending_none hwanted
  have hstart : Onward setup tile f s (s.happen setup tile (.start f)) := .single rfl trivial
  have hfetch : (w.machine.step (.start f)).fetch f = .seeking none := by
    simp [Broker.Fetches.step, Broker.Fetches.start, hmirrors.fetch_eq, habsent,
      Broker.Fetches.seek]
  simp only [Setup.advance]
  apply ih.onward hs hstart
  · refine .shown _ ⟨?_, hmirrors.provider_eq⟩ (.seek hpending)
    exact congrArg (Broker.Fetches.step · (.start f)) hmirrors.machine_eq
  · simp only [stepsLeft, hfetch, remaining]
    exact hfuel

/-- A turn goes on when the call that its fetch waited for has come to something. -/
theorem answered (ih : AdvanceServes setup tile policy start f task fuel)
    (hs : s.toServing.Reachable setup tile policy start) {now issuedAt : Instant} {draw : Nat}
    {e : Instant → Event} {event : Broker.Event}
    (hoffer : ∀ asked, s.Permits setup (e asked) ∧
      s.toServing.Offer setup f ⟨now, issuedAt, asked, draw⟩ (e asked) event w.provider)
    (hlook : ∀ now, event ≠ .seek f (.look now))
    (hacquire : ∀ now, event ≠ .seek f (.acquire now))
    (hmachine : w.machine = s.fetches.step event)
    (hfuel : remaining (s.fetches.fetch f) ≤ fuel) :
    TurnServes setup tile s f (setup.advance f task s.clock fuel w (.seek (tile f))) := by
  obtain ⟨hnearer, hnot⟩ := Serving.answered hs (hoffer w.wall).2 hlook hacquire
  apply ih _ _ _ hs
  · apply GoesOn.poised
    · exact .moved ⟨now, issuedAt, issuedAt, draw⟩ e event (fun asked ↦ (hoffer asked).2)
        (fun asked ↦ (hoffer asked).1) hmachine
    · rwa [hmachine]
  · simp only [stepsLeft, hmachine]
    omega

theorem refresh (ih : AdvanceServes setup tile policy start f task fuel)
    (hs : s.toServing.Reachable setup tile policy start) (hmirrors : s.Mirrors w)
    {call : Begun π Auth.Context} (hpending : s.pending f = .context call)
    (hfuel : remaining (w.machine.fetch f) ≤ fuel) :
    TurnServes setup tile s f (setup.advance f task s.clock (fuel + 1) w
      (.refresh (tile f) (setup.limit (s.since f) call))) := by
  rw [hmirrors.fetch_eq] at hfuel
  simp only [Setup.advance]
  generalize hout : setup.outcome? _ s.clock (setup.limit (s.since f) call) w = out
  obtain ⟨outcome, v⟩ := out
  cases outcome with
  | none =>
      obtain rfl := outcome?_eq_none hout
      refine ⟨s, .refl, hmirrors, .pending _ _ (.refresh call hpending) ?_⟩
      rw [hpending]
      exact List.Subset.refl _
  | some result =>
      obtain ⟨hmachine, e, hoffer⟩ := offer_of_refresh hmirrors hpending hout
      refine ih.answered (w := Setup.settle f result v) hs hoffer (by simp) (by simp) ?_ hfuel
      rw [← hmachine]
      rfl

theorem generate (ih : AdvanceServes setup tile policy start f task fuel)
    (hs : s.toServing.Reachable setup tile policy start) (hmirrors : s.Mirrors w)
    {call : Begun π Image} (hpending : s.pending f = .tile call)
    (hfuel : remaining (w.machine.fetch f) ≤ fuel) :
    TurnServes setup tile s f (setup.advance f task s.clock (fuel + 1) w
      (.generate (tile f) (setup.limit (s.since f) call))) := by
  rw [hmirrors.fetch_eq] at hfuel
  simp only [Setup.advance]
  generalize hout : setup.outcome? _ s.clock (setup.limit (s.since f) call) w = out
  obtain ⟨outcome, v⟩ := out
  cases outcome with
  | none =>
      obtain rfl := outcome?_eq_none hout
      refine ⟨s, .refl, hmirrors, .pending _ _ (.generate call hpending) ?_⟩
      rw [hpending]
      exact List.Subset.refl _
  | some result =>
      obtain ⟨hmachine, e, hoffer⟩ := offer_of_generate hmirrors hpending hout
      exact ih.answered hs hoffer (by simp) (by simp) (by rw [hmachine]) hfuel

theorem seek (ih : AdvanceServes setup tile policy start f task fuel)
    (hs : s.toServing.Reachable setup tile policy start)
    (h : Poised setup s f w.machine w.provider)
    (hnot : ∀ previous, wanted? w.machine f ≠ some (.context previous))
    (hfuel : remaining (w.machine.fetch f) + 1 ≤ fuel) :
    TurnServes setup tile s f (setup.advance f task s.clock (fuel + 1) w (.seek (tile f))) := by
  obtain ⟨hseeks, hprovider⟩ := seeks_advance f task stepLimit w
  obtain ⟨t, hsteps, hpoised⟩ := h.seeks tile hseeks
  have hremaining := remaining_seeks hseeks
  -- Nobody led when the turn began if the fetch leads at its end: refreshes do not overlap.
  have hfree : ∀ previous, wanted? (fetchSeeking.advance f task stepLimit w).machine f =
      some (.context previous) → w.machine.auth.holder = none :=
    fun previous ↦ holder_of_seeks hseeks hnot
  simp only [Setup.advance]
  generalize fetchSeeking.advance f task stepLimit w = v at *
  rw [← hprovider] at hpoised
  rw [← hsteps.clock_eq]
  apply TurnServes.of_onward hsteps
  have ht := hsteps.reachable hs
  cases hwanted : wanted? v.machine f with
  | none =>
      obtain ⟨u, hmore, hmachine, hsame, hpending⟩ := hpoised.mirrored tile hwanted
      refine ⟨u, hmore, ?_⟩
      cases hfetch : v.machine.fetch f with
      | generating rejected snapshot => simp [wanted?, hfetch] at hwanted
      | done result => exact ⟨⟨hmachine, hsame⟩, .fetch result (by rw [← hmachine, hfetch])⟩
      | absent | dropped | seeking =>
          cases hposition : fetchSeeking.position v.machine f with
          | leading previous => simp [position_eq_leading_iff.mp hposition] at hwanted
          | _ =>
              refine ⟨⟨hmachine, hsame⟩, .pending _ _ (.seek hpending) ?_⟩
              simp [hpending, Pending.alarms]
  | some want =>
      cases want with
      | tile context =>
          obtain ⟨rejected, snapshot, hfetch, rfl⟩ := wanted?_eq_tile_iff.mp hwanted
          obtain ⟨u, hmore, hmirrors, hshows⟩ := hpoised.begin_tile (ht.backed f) hfetch
          simp only [hfetch]
          apply ih.onward ht hmore (.shown _ hmirrors hshows)
          have hkeeps : (setup.beginGenerate t.clock snapshot.context.value (tile f) v).2.machine =
              v.machine := rfl
          rw [stepsLeft, hkeeps]
          omega
      | context previous =>
          obtain ⟨rejected, seen, hfetch, -⟩ := wanted?_eq_context_iff.mp hwanted
          have hposition := position_eq_leading_iff.mpr hwanted
          have hwasFree : fetchSeeking.isFree w.machine = true := by
            simp [fetchSeeking, hfree previous hwanted]
          obtain ⟨u, hmore, hmirrors, hshows⟩ := hpoised.begin_context ht hwanted
          simp only [hfetch, hposition, hwasFree, Bool.not_true]
          apply ih.onward ht hmore (.shown _ hmirrors hshows)
          have hkeeps : (setup.beginRefresh t.clock previous false v).2.machine = v.machine := rfl
          rw [stepsLeft, hkeeps]
          omega

end AdvanceServes

theorem advance_serves (policy : Auth.Policy) (start : π) (f task fuel : Nat) :
    AdvanceServes setup tile policy start f task fuel := by
  induction fuel with
  | zero =>
      intro s w state hs h hfuel
      cases state <;> simp [stepsLeft] at hfuel
  | succ fuel ih =>
      intro s w state hs h hfuel
      cases h with
      | poised h hnot => exact ih.seek hs h hnot (Nat.le_of_succ_le_succ hfuel)
      | shown _ hmirrors h =>
          cases h with
          | begin habsent => exact ih.begin hs hmirrors habsent (Nat.le_of_succ_le_succ hfuel)
          | refresh call hpending =>
              exact ih.refresh hs hmirrors hpending (Nat.le_of_succ_le_succ hfuel)
          | generate call hpending =>
              exact ih.generate hs hmirrors hpending (Nat.le_of_succ_le_succ hfuel)
          | probe hpending =>
              exact ⟨s, .refl, ⟨hmirrors.machine_eq, hmirrors.provider_eq⟩, .probe _ hpending⟩
          | seek hpending =>
              have hwanted := (hs.backed f).wanted?_eq_none hpending
              apply ih.seek hs (.waits hmirrors.machine_eq hmirrors.provider_eq hpending)
              · rw [hmirrors.machine_eq, hwanted]
                simp
              · exact Nat.le_of_succ_le_succ hfuel

end Clocked

end TileFetch.Simulation
