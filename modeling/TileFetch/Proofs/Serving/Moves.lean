import TileFetch.Proofs.Broker.Outcome
import TileFetch.Simulation.Serving

/-!
# What a step of served fetches can do

A step of served fetches makes the broker take a step, or nothing changes.  So the broker of a run
is a broker after a run of its own, and what is proved about brokers holds.  A fetch has a call of
the provider under way exactly if it is in a place where it wants something of it, and the call
was begun for what it wants.
-/

namespace TileFetch.Simulation

variable {π : Type}

structure Ask where
  fetch : Nat
  want : Want
  asked : Time.Instant

namespace Serving

variable (setup : Setup π) (tile : Nat → TileRequest)

/-! ## Histories -/

def brokerEvents (s : Serving π) : Event → List Broker.Event
  | .start f => [.start f]
  | .turn f r => (s.next? f r).toList.map Prod.fst
  | .expire f r => (s.late? setup.timeout f r).toList
  | .drop f => [.drop f]
  | .invalidate snapshot => [.invalidate snapshot]

def asksAfter (s : Serving π) (f : Nat) (asked : Time.Instant) (e : Broker.Event) : List Ask :=
  (wanted? (s.fetches.step e) f).toList.map (⟨f, ·, asked⟩)

def asks (s : Serving π) (e : Event) : List Ask :=
  match e with
  | .turn f r => (s.brokerEvents setup e).flatMap (s.asksAfter f r.asked)
  | .expire f r => (s.brokerEvents setup e).flatMap (s.asksAfter f r.asked)
  | _ => []

def history (s : Serving π) : List Event → List Broker.Event
  | [] => []
  | e :: events => s.brokerEvents setup e ++ (s.step setup tile e).history events

def askLog (s : Serving π) : List Event → List Ask
  | [] => []
  | e :: events => s.asks setup e ++ (s.step setup tile e).askLog events

@[simp] theorem run_nil (s : Serving π) : s.run setup tile [] = s := rfl

@[simp] theorem run_cons (s : Serving π) (e : Event) (events : List Event) :
    s.run setup tile (e :: events) = (s.step setup tile e).run setup tile events := rfl

theorem run_append (s : Serving π) (before after : List Event) :
    s.run setup tile (before ++ after) = (s.run setup tile before).run setup tile after :=
  List.foldl_append

theorem run_concat (s : Serving π) (events : List Event) (e : Event) :
    s.run setup tile (events ++ [e]) = (s.run setup tile events).step setup tile e :=
  List.foldl_append

theorem history_append (s : Serving π) (before after : List Event) :
    s.history setup tile (before ++ after) =
      s.history setup tile before ++ (s.run setup tile before).history setup tile after := by
  induction before generalizing s with
  | nil => rfl
  | cons e before ih => simp [history, ih, List.append_assoc]

theorem history_concat (s : Serving π) (events : List Event) (e : Event) :
    s.history setup tile (events ++ [e]) =
      s.history setup tile events ++ (s.run setup tile events).brokerEvents setup e := by
  rw [history_append]
  simp [history]

theorem askLog_append (s : Serving π) (before after : List Event) :
    s.askLog setup tile (before ++ after) =
      s.askLog setup tile before ++ (s.run setup tile before).askLog setup tile after := by
  induction before generalizing s with
  | nil => rfl
  | cons e before ih => simp [askLog, ih, List.append_assoc]

theorem askLog_concat (s : Serving π) (events : List Event) (e : Event) :
    s.askLog setup tile (events ++ [e]) =
      s.askLog setup tile events ++ (s.run setup tile events).asks setup e := by
  rw [askLog_append]
  simp [askLog]

/-! ## Steps -/

def Event.fetch? : Event → Option Nat
  | .start f => some f
  | .turn f _ => some f
  | .expire f _ => some f
  | .drop f => some f
  | .invalidate _ => none

/-- What makes the broker take a step for fetch `f`: its turn, or that it has waited too long. -/
inductive Offer (s : Serving π) (f : Nat) (r : Reading) : Event → Broker.Event → π → Prop where
  | look (rejected : Option Auth.Snapshot) (hnone : s.pending f = .none)
      (hfetch : s.fetches.fetch f = .seeking rejected)
      (hcall : s.fetches.auth.call (Broker.callOf f rejected) = .looking) :
      Offer s f r (.turn f r) (.seek f (.look r.now)) s.provider
  | acquire (rejected : Option Auth.Snapshot) (seen : Nat) (hnone : s.pending f = .none)
      (hfetch : s.fetches.fetch f = .seeking rejected)
      (hcall : s.fetches.auth.call (Broker.callOf f rejected) = .waiting seen) :
      Offer s f r (.turn f r) (.seek f (.acquire r.now)) s.provider
  | context (call : Begun π Auth.Context) (hcall : s.pending f = .context call)
      (hdelay : call.delay ≠ none) :
      Offer s f r (.turn f r)
        (.seek f (.settle (call.finish r.now s.provider).2 r.issuedAt r.draw))
        (call.finish r.now s.provider).1
  | tile (call : Begun π Image) (hcall : s.pending f = .tile call) (hdelay : call.delay ≠ none) :
      Offer s f r (.turn f r) (.answer f (call.finish r.now s.provider).2)
        (call.finish r.now s.provider).1
  | lateContext (call : Begun π Auth.Context) (hcall : s.pending f = .context call)
      (hlate : call.mayExceed setup.timeout = true) :
      Offer s f r (.expire f r)
        (.seek f (.settle (.error (.ofTimeout "pre_auth" setup.timeout)) r.issuedAt r.draw))
        s.provider
  | lateTile (call : Begun π Image) (hcall : s.pending f = .tile call)
      (hlate : call.mayExceed setup.timeout = true) :
      Offer s f r (.expire f r)
        (.answer f (.error (.ofTimeout "generate_tile" setup.timeout))) s.provider

/-- The ways in which a step changes something, each with the steps of the broker and with what
is asked for. -/
inductive Move (s : Serving π) : Event → List Broker.Event → List Ask → Serving π → Prop where
  | idle (e : Event) : Move s e [] [] s
  | start (f : Nat) :
      Move s (.start f) [.start f] [] { s with fetches := s.fetches.step (.start f) }
  | proceed (f : Nat) (r : Reading) (e : Event) (event : Broker.Event) (provider : π)
      (h : s.Offer setup f r e event provider) :
      Move s e [event] (s.asksAfter f r.asked event)
        ({ s with provider }.proceed setup tile f event r.asked)
  | drop (f : Nat) :
      Move s (.drop f) [.drop f] []
        ({ s with fetches := s.fetches.step (.drop f) }.await f .none)
  | invalidate (snapshot : Auth.Snapshot) :
      Move s (.invalidate snapshot) [.invalidate snapshot] []
        { s with fetches := s.fetches.step (.invalidate snapshot) }

variable {setup tile}

theorem offer_turn {s : Serving π} {f : Nat} {r : Reading} {event : Broker.Event} {provider : π}
    (h : s.next? f r = some (event, provider)) :
    s.Offer setup f r (.turn f r) event provider := by
  unfold next? at h
  cases hpending : s.pending f with
  | context call =>
      obtain ⟨delay, hdelay, hnext⟩ : ∃ delay, call.delay = some delay ∧
          (Broker.Event.seek f (.settle (call.finish r.now s.provider).2 r.issuedAt r.draw),
            (call.finish r.now s.provider).1) = (event, provider) := by
        simpa [hpending] using h
      obtain ⟨rfl, rfl⟩ := Prod.mk.inj hnext
      exact .context call hpending (by simp [hdelay])
  | tile call =>
      obtain ⟨delay, hdelay, hnext⟩ : ∃ delay, call.delay = some delay ∧
          (Broker.Event.answer f (call.finish r.now s.provider).2,
            (call.finish r.now s.provider).1) = (event, provider) := by
        simpa [hpending] using h
      obtain ⟨rfl, rfl⟩ := Prod.mk.inj hnext
      exact .tile call hpending (by simp [hdelay])
  | none =>
      rw [hpending] at h
      cases hfetch : s.fetches.fetch f with
      | seeking rejected =>
          cases hcall : s.fetches.auth.call (Broker.callOf f rejected) with
          | looking =>
              obtain ⟨rfl, rfl⟩ : _ ∧ s.provider = provider := by simpa [hfetch, hcall] using h
              exact .look rejected hpending hfetch hcall
          | waiting seen =>
              obtain ⟨rfl, rfl⟩ : _ ∧ s.provider = provider := by simpa [hfetch, hcall] using h
              exact .acquire rejected seen hpending hfetch hcall
          | _ => simp [hfetch, hcall] at h
      | _ => simp [hfetch] at h

theorem offer_expire {s : Serving π} {f : Nat} {r : Reading} {event : Broker.Event}
    (h : s.late? setup.timeout f r = some event) :
    s.Offer setup f r (.expire f r) event s.provider := by
  unfold late? at h
  cases hpending : s.pending f with
  | context call =>
      obtain ⟨hlate, rfl⟩ : call.mayExceed setup.timeout = true ∧ _ = event := by
        simpa [hpending] using h
      exact .lateContext call hpending hlate
  | tile call =>
      obtain ⟨hlate, rfl⟩ : call.mayExceed setup.timeout = true ∧ _ = event := by
        simpa [hpending] using h
      exact .lateTile call hpending hlate
  | none => simp [hpending] at h

theorem move_step (s : Serving π) (e : Event) :
    s.Move setup tile e (s.brokerEvents setup e) (s.asks setup e) (s.step setup tile e) := by
  cases e with
  | start f => exact .start f
  | drop f => exact .drop f
  | invalidate snapshot => exact .invalidate snapshot
  | turn f r =>
      cases hnext : s.next? f r with
      | none =>
          simp only [step, asks, brokerEvents, hnext]
          exact .idle _
      | some next =>
          obtain ⟨event, provider⟩ := next
          have hmove : s.Move setup tile _ _ _ _ :=
            .proceed f r _ event provider (offer_turn hnext)
          simpa [step, asks, brokerEvents, hnext] using hmove
  | expire f r =>
      cases hlate : s.late? setup.timeout f r with
      | none =>
          simp only [step, asks, brokerEvents, hlate]
          exact .idle _
      | some event =>
          have hmove : s.Move setup tile _ _ _ _ :=
            .proceed f r _ event s.provider (offer_expire hlate)
          simpa [step, asks, brokerEvents, hlate] using hmove

/-! ## The broker of served fetches -/

variable {s t : Serving π} {f g : Nat} {r : Reading} {e : Event} {event : Broker.Event}
  {events : List Broker.Event} {asks : List Ask} {provider : π}

theorem proceed_of_none {asked : Time.Instant} (h : wanted? (s.fetches.step event) f = none) :
    s.proceed setup tile f event asked =
      { s with fetches := s.fetches.step event }.await f .none := by
  simp only [proceed, h]

theorem proceed_of_context {asked : Time.Instant} {previous : Auth.Context}
    (h : wanted? (s.fetches.step event) f = some (.context previous)) :
    let begun := setup.service.preAuth previous s.fetches.auth.holder.isSome asked s.provider
    s.proceed setup tile f event asked =
      { s with fetches := s.fetches.step event, provider := begun.2 }.await f
        (.context begun.1) := by
  simp only [proceed, h]

theorem proceed_of_tile {asked : Time.Instant} {context : Auth.Context}
    (h : wanted? (s.fetches.step event) f = some (.tile context)) :
    let begun := setup.service.generate context (tile f) asked s.provider
    s.proceed setup tile f event asked =
      { s with fetches := s.fetches.step event, provider := begun.2 }.await f (.tile begun.1) := by
  simp only [proceed, h]

theorem fetches_proceed (s : Serving π) (f : Nat) (event : Broker.Event) (asked : Time.Instant) :
    (s.proceed setup tile f event asked).fetches = s.fetches.step event := by
  cases hwanted : wanted? (s.fetches.step event) f with
  | none => rw [proceed_of_none hwanted, await]
  | some want =>
      cases want with
      | context previous => rw [proceed_of_context hwanted, await]
      | tile context => rw [proceed_of_tile hwanted, await]

theorem Move.fetches_eq (h : s.Move setup tile e events asks t) :
    t.fetches = s.fetches.run events := by
  cases h with
  | proceed => exact fetches_proceed _ _ _ _
  | _ => rfl

theorem fetches_run (s : Serving π) (events : List Event) :
    (s.run setup tile events).fetches = s.fetches.run (s.history setup tile events) := by
  induction events using List.reverseRecOn with
  | nil => rfl
  | append_singleton events e ih =>
      rw [run_concat, history_concat, Broker.Fetches.run_append, ← ih]
      exact (move_step _ e).fetches_eq

@[simp] theorem fetches_initial (setup : Setup π) (policy : Auth.Policy) (provider : π) :
    (initial setup policy provider).fetches = .initial setup.service.name policy :=
  rfl

/-- The broker of a run is a broker after the steps that it took. -/
theorem fetches_run_initial (setup : Setup π) (tile : Nat → TileRequest) (policy : Auth.Policy)
    (provider : π) (events : List Event) :
    ((initial setup policy provider).run setup tile events).fetches =
      (Broker.Fetches.initial setup.service.name policy).run
        ((initial setup policy provider).history setup tile events) :=
  fetches_run _ events

theorem Offer.fetch_eq (h : s.Offer setup f r e event provider) : event.fetch? = some f := by
  cases h <;> rfl

theorem Offer.event_fetch? (h : s.Offer setup f r e event provider) : e.fetch? = some f := by
  cases h <;> rfl

theorem Offer.step_eq (h : s.Offer setup f r e event provider) :
    s.step setup tile e = { s with provider }.proceed setup tile f event r.asked := by
  cases h with
  | look rejected hnone hfetch hcall | acquire rejected seen hnone hfetch hcall =>
      simp [step, next?, hnone, hfetch, hcall]
  | context call hcall hdelay | tile call hcall hdelay =>
      obtain ⟨delay, hdelay⟩ := Option.ne_none_iff_exists'.mp hdelay
      simp [step, next?, hcall, hdelay]
  | lateContext call hcall hlate | lateTile call hcall hlate =>
      simp [step, late?, hcall, hlate]

theorem Offer.fetches_step (h : s.Offer setup f r e event provider) :
    (s.step setup tile e).fetches = s.fetches.step event := by
  rw [h.step_eq]
  exact fetches_proceed _ _ _ _

/-! ## Calls that are under way -/

/-- A fetch has a call of the provider under way exactly if it wants something of it, and the call
is one for that. -/
def Backed (setup : Setup π) (tile : Nat → TileRequest) (s : Serving π) (f : Nat) : Prop :=
  match s.pending f with
  | .none => wanted? s.fetches f = none
  | .context call => ∃ previous overlap asked state,
      wanted? s.fetches f = some (.context previous) ∧
        call = (setup.service.preAuth previous overlap asked state).1
  | .tile call => ∃ context asked state, wanted? s.fetches f = some (.tile context) ∧
      call = (setup.service.generate context (tile f) asked state).1

theorem Backed.of_eq (h : s.Backed setup tile f) (hpending : t.pending f = s.pending f)
    (hwanted : wanted? t.fetches f = wanted? s.fetches f) : t.Backed setup tile f := by
  unfold Backed at h ⊢
  rw [hpending]
  split at h <;> simpa only [hwanted] using h

theorem pending_proceed_of_ne (s : Serving π) (event : Broker.Event) (asked : Time.Instant)
    (h : g ≠ f) : (s.proceed setup tile f event asked).pending g = s.pending g := by
  cases hwanted : wanted? (s.fetches.step event) f with
  | none => simp [proceed_of_none hwanted, await, h]
  | some want =>
      cases want with
      | context previous => simp [proceed_of_context hwanted, await, h]
      | tile context => simp [proceed_of_tile hwanted, await, h]

theorem step_frame (s : Serving π) {e : Event} (he : e.fetch? = some f) (hg : g ≠ f) :
    (s.step setup tile e).fetches.fetch g = s.fetches.fetch g ∧
      (s.step setup tile e).pending g = s.pending g := by
  have hbroker : ∀ event : Broker.Event, event.fetch? = some f →
      (s.fetches.step event).fetch g = s.fetches.fetch g := by
    intro event hevent
    apply (Broker.Fetches.move_step s.fetches event).fetch_eq_of_ne
    rw [hevent]
    simpa using Ne.symm hg
  have hmove : Move setup tile s e _ _ _ := move_step s e
  generalize brokerEvents _ _ e = brokerSteps, Serving.step _ _ _ e = t, asks _ _ e = asks
    at hmove ⊢
  cases hmove with
  | idle => exact ⟨rfl, rfl⟩
  | start f' =>
      obtain rfl : f' = f := by simpa [Event.fetch?] using he
      exact ⟨hbroker _ rfl, rfl⟩
  | drop f' =>
      obtain rfl : f' = f := by simpa [Event.fetch?] using he
      exact ⟨hbroker _ rfl, by simp [await, hg]⟩
  | invalidate snapshot => simp [Event.fetch?] at he
  | proceed f' r _ event provider hoffer =>
      obtain rfl : f' = f := by simpa [hoffer.event_fetch?] using he
      constructor
      · rw [fetches_proceed]
        exact hbroker event hoffer.fetch_eq
      · rw [pending_proceed_of_ne _ _ _ hg]

theorem pending_proceed_self (s : Serving π) (f : Nat) (event : Broker.Event)
    (asked : Time.Instant) : (s.proceed setup tile f event asked).pending f =
      match wanted? (s.fetches.step event) f with
      | some (.context previous) => .context
          (setup.service.preAuth previous s.fetches.auth.holder.isSome asked s.provider).1
      | some (.tile context) =>
          .tile (setup.service.generate context (tile f) asked s.provider).1
      | none => .none := by
  cases hwanted : wanted? (s.fetches.step event) f with
  | none => simp [proceed_of_none hwanted, await]
  | some want =>
      cases want with
      | context previous => simp [proceed_of_context hwanted, await]
      | tile context => simp [proceed_of_tile hwanted, await]

theorem backed_proceed (s : Serving π) (f : Nat) (event : Broker.Event) (asked : Time.Instant) :
    (s.proceed setup tile f event asked).Backed setup tile f := by
  rw [Backed, pending_proceed_self, fetches_proceed]
  cases hwanted : wanted? (s.fetches.step event) f with
  | none => rfl
  | some want =>
      cases want with
      | context previous => exact ⟨previous, _, asked, _, rfl, rfl⟩
      | tile context => exact ⟨context, asked, _, rfl, rfl⟩

theorem wanted?_eq_of_ne {s t : Broker.Fetches} {e : Broker.Event} {authEvents : List Auth.Event}
    {marks : List Broker.Mark} (h : s.Move e authEvents marks t) (hf : e.fetch? ≠ some f) :
    wanted? t f = wanted? s f := by
  unfold wanted?
  simp only [h.fetch_eq_of_ne hf, h.call_auth_eq_of_ne hf]

theorem wanted?_start {s : Broker.Fetches} {past : List Broker.Mark}
    (h : (s.fetch f).Course f s.provider s.auth past) :
    wanted? (s.start f) f = wanted? s f := by
  cases hfetch : s.fetch f with
  | absent =>
      rw [hfetch] at h
      have hcall := h.2 none
      simp [Broker.Fetches.start, hfetch, Broker.Fetches.seek, wanted?, Auth.Calls.start, hcall]
  | _ => simp [Broker.Fetches.start, hfetch]

theorem wanted?_drop (s : Broker.Fetches) (f : Nat) : wanted? (s.drop f) f = none := by
  cases hfetch : s.fetch f <;> simp [Broker.Fetches.drop, hfetch, wanted?]

theorem Move.backed (h : s.Move setup tile e events asks t)
    (hs : ∀ f, s.Backed setup tile f)
    (hcourse : ∀ f, ∃ past, (s.fetches.fetch f).Course f s.fetches.provider s.fetches.auth past)
    (g : Nat) : t.Backed setup tile g := by
  cases h with
  | idle => exact hs g
  | start f =>
      refine (hs g).of_eq rfl ?_
      by_cases hg : g = f
      · subst hg
        obtain ⟨past, hpast⟩ := hcourse g
        exact wanted?_start hpast
      · apply wanted?_eq_of_ne (Broker.Fetches.move_step _ _)
        simpa [Broker.Event.fetch?] using Ne.symm hg
  | proceed f r _ event provider hoffer =>
      by_cases hg : g = f
      · subst hg
        exact backed_proceed _ _ _ _
      · refine (hs g).of_eq (pending_proceed_of_ne { s with provider } _ _ hg) ?_
        rw [fetches_proceed]
        apply wanted?_eq_of_ne (Broker.Fetches.move_step _ _)
        rw [hoffer.fetch_eq]
        simpa using Ne.symm hg
  | drop f =>
      by_cases hg : g = f
      · subst hg
        simp only [Backed, await, if_true]
        exact wanted?_drop s.fetches g
      · apply (hs g).of_eq
        · simp [await, hg]
        · apply wanted?_eq_of_ne (Broker.Fetches.move_step _ _)
          simpa [Broker.Event.fetch?] using Ne.symm hg
  | invalidate snapshot =>
      refine (hs g).of_eq rfl ?_
      apply wanted?_eq_of_ne (Broker.Fetches.move_step _ (.invalidate snapshot))
      simp [Broker.Event.fetch?]

theorem course_run (setup : Setup π) (tile : Nat → TileRequest) (policy : Auth.Policy)
    (provider : π) (events : List Event) (f : Nat) :
    let s := (initial setup policy provider).run setup tile events
    ∃ past, (s.fetches.fetch f).Course f s.fetches.provider s.fetches.auth past := by
  intro s
  have hrun := fetches_run_initial setup tile policy provider events
  have hcourse := Broker.Fetches.course_run setup.service.name policy
    ((initial setup policy provider).history setup tile events) f
  rw [hrun, Broker.Fetches.provider_run]
  exact ⟨_, hcourse⟩

theorem backed_run (setup : Setup π) (tile : Nat → TileRequest) (policy : Auth.Policy)
    (provider : π) (events : List Event) (f : Nat) :
    ((initial setup policy provider).run setup tile events).Backed setup tile f := by
  induction events using List.reverseRecOn generalizing f with
  | nil => rfl
  | append_singleton events e ih =>
      rw [run_concat]
      exact (move_step _ e).backed ih (course_run setup tile policy provider events) f

end Serving

end TileFetch.Simulation
