import TileFetch.Proofs.Broker.History

/-!
# What a step of a broker can do

`move_step` says once what a step changes, with its marks and the steps of the cache that it
takes.
-/

namespace TileFetch.Broker

namespace Fetches

@[simp] theorem auth_place (s : Fetches) (f : Nat) (x : Fetch) : (s.place f x).auth = s.auth :=
  rfl

@[simp] theorem fetch_place_self (s : Fetches) (f : Nat) (x : Fetch) :
    (s.place f x).fetch f = x := by
  simp [place]

theorem fetch_place_of_ne (s : Fetches) {f g : Nat} (h : g ≠ f) (x : Fetch) :
    (s.place f x).fetch g = s.fetch g := by
  simp [place, h]

/-- A broker after a step of the call of fetch `f`, before the fetch itself goes on. -/
def told (s : Fetches) (f : Nat) (rejected : Option Auth.Snapshot) (step : Auth.CallStep) :
    Fetches :=
  let c := callOf f rejected
  let auth := s.auth.stepCall c step
  { s with auth, telemetry := tell (s.auth.call c) (auth.call c) step s.telemetry }

/-- The ways in which a step changes something, each with the steps of the cache and the
marks; `idle` is for the steps that change nothing. -/
inductive Move (s : Fetches) : Event → List Auth.Event → List Mark → Fetches → Prop where
  | idle (e : Event) : Move s e [] [] s
  | start (f : Nat) (h : s.fetch f = .absent) :
      Move s (.start f) [.start (callOf f none)] []
        ({ s with telemetry := s.telemetry.openFlow .tile }.seek f none)
  | wait (f : Nat) (step : Auth.CallStep) (rejected : Option Auth.Snapshot)
      (h : s.fetch f = .seeking rejected)
      (hcall : ∀ outcome, (s.auth.stepCall (callOf f rejected) step).call (callOf f rejected) ≠
        .done outcome) :
      Move s (.seek f step) [.step (callOf f rejected) step] [] (s.told f rejected step)
  | ask (f : Nat) (step : Auth.CallStep) (rejected : Option Auth.Snapshot)
      (snapshot : Auth.Snapshot) (h : s.fetch f = .seeking rejected)
      (hcall : (s.auth.stepCall (callOf f rejected) step).call (callOf f rejected) =
        .done (.ok snapshot)) :
      Move s (.seek f step) [.step (callOf f rejected) step] [.asked f snapshot]
        ((s.told f rejected step).place f (.generating rejected snapshot))
  | fail (f : Nat) (step : Auth.CallStep) (rejected : Option Auth.Snapshot)
      (failure : Auth.Handle Provider.Failure) (h : s.fetch f = .seeking rejected)
      (hcall : (s.auth.stepCall (callOf f rejected) step).call (callOf f rejected) =
        .done (.error failure)) :
      Move s (.seek f step) [.step (callOf f rejected) step] []
        ((s.told f rejected step).finish f (.error (.refresh s.provider failure)))
  | finish (f : Nat) (rejected : Option Auth.Snapshot) (snapshot : Auth.Snapshot)
      (result : Except Provider.Failure Image) (h : s.fetch f = .generating rejected snapshot)
      (hlast : ∀ failure, result = .error failure →
        (failure.isAuthExpired && !snapshot.isBypassed && rejected.isNone) = false) :
      Move s (.answer f result) [] [.answered f snapshot result]
        (s.finish f (result.mapError (.ofFailure s.provider)))
  | retry (f : Nat) (snapshot : Auth.Snapshot) (failure : Provider.Failure)
      (h : s.fetch f = .generating none snapshot) (hexpired : failure.isAuthExpired = true)
      (hbypass : snapshot.isBypassed = false) :
      Move s (.answer f (.error failure))
        [.invalidate snapshot, .start (callOf f (some snapshot))]
        [.answered f snapshot (.error failure),
          .reported f snapshot (s.auth.cache.accepts snapshot)]
        ((s.invalidate snapshot).seek f (some snapshot))
  | leave (f : Nat) (rejected : Option Auth.Snapshot) (h : s.fetch f = .seeking rejected) :
      Move s (.drop f) [.drop (callOf f rejected)] []
        ({ s with auth := s.auth.drop (callOf f rejected) }.place f .dropped)
  | giveUp (f : Nat) (rejected : Option Auth.Snapshot) (snapshot : Auth.Snapshot)
      (h : s.fetch f = .generating rejected snapshot) :
      Move s (.drop f) [] [] (s.place f .dropped)
  | invalidate (snapshot : Auth.Snapshot) :
      Move s (.invalidate snapshot) [.invalidate snapshot] []
        { s with auth := { s.auth with cache := s.auth.cache.invalidate snapshot } }

theorem move_start (s : Fetches) (f : Nat) :
    s.Move (.start f) (s.authEvents (.start f)) (s.marks (.start f)) (s.start f) := by
  cases h : s.fetch f with
  | absent =>
      have hauth : s.authEvents (.start f) = [.start (callOf f none)] := by simp [authEvents, h]
      have hstart : s.start f =
          { s with telemetry := s.telemetry.openFlow .tile }.seek f none := by
        simp [start, h]
      rw [hauth, hstart]
      exact .start f h
  | _ =>
      have hauth : s.authEvents (.start f) = [] := by simp [authEvents, h]
      have hstart : s.start f = s := by simp [start, h]
      rw [hauth, hstart]
      exact .idle _

theorem move_seek (s : Fetches) (f : Nat) (step : Auth.CallStep) :
    s.Move (.seek f step) (s.authEvents (.seek f step)) (s.marks (.seek f step))
      (s.stepSeek f step) := by
  cases h : s.fetch f with
  | seeking rejected =>
      have hauth : s.authEvents (.seek f step) = [.step (callOf f rejected) step] := by
        simp [authEvents, h]
      rw [hauth]
      cases hcall : (s.auth.stepCall (callOf f rejected) step).call (callOf f rejected) with
      | done outcome =>
          cases outcome with
          | ok snapshot =>
              have hseek : s.stepSeek f step =
                  (s.told f rejected step).place f (.generating rejected snapshot) := by
                simp [stepSeek, h, hcall, told]
              have hmarks : s.marks (.seek f step) = [.asked f snapshot] := by
                simp [marks, h, hseek]
              rw [hmarks, hseek]
              exact .ask f step rejected snapshot h hcall
          | error failure =>
              have hseek : s.stepSeek f step =
                  (s.told f rejected step).finish f (.error (.refresh s.provider failure)) := by
                simp [stepSeek, h, hcall, told]
              have hmarks : s.marks (.seek f step) = [] := by
                simp [marks, h, hseek, Fetches.finish]
              rw [hmarks, hseek]
              exact .fail f step rejected failure h hcall
      | _ =>
          have hseek : s.stepSeek f step = s.told f rejected step := by
            simp [stepSeek, h, hcall, told]
          have hmarks : s.marks (.seek f step) = [] := by simp [marks, h, hseek, told]
          rw [hmarks, hseek]
          exact .wait f step rejected h (by simp [hcall])
  | _ =>
      have hauth : s.authEvents (.seek f step) = [] := by simp [authEvents, h]
      have hmarks : s.marks (.seek f step) = [] := by simp [marks, h]
      have hseek : s.stepSeek f step = s := by simp [stepSeek, h]
      rw [hauth, hmarks, hseek]
      exact .idle _

theorem move_answer (s : Fetches) (f : Nat) (result : Except Provider.Failure Image) :
    s.Move (.answer f result) (s.authEvents (.answer f result)) (s.marks (.answer f result))
      (s.answer f result) := by
  cases h : s.fetch f with
  | generating rejected snapshot =>
      by_cases hretry : ∃ failure, result = .error failure ∧
          (failure.isAuthExpired && !snapshot.isBypassed && rejected.isNone) = true
      · obtain ⟨failure, rfl, hagain⟩ := hretry
        have hanswer : s.answer f (.error failure) =
            (s.invalidate snapshot).seek f (some snapshot) := by
          simp [answer, h, hagain]
        obtain ⟨⟨hexpired, hbypass⟩, rfl⟩ : (failure.isAuthExpired = true ∧
            snapshot.isBypassed = false) ∧ rejected = none := by
          simpa using hagain
        have hauth : s.authEvents (.answer f (.error failure)) =
            [.invalidate snapshot, .start (callOf f (some snapshot))] := by
          simp [authEvents, h, hanswer, seek]
        have hmarks : s.marks (.answer f (.error failure)) =
            [.answered f snapshot (.error failure),
              .reported f snapshot (s.auth.cache.accepts snapshot)] := by
          simp [marks, h, hanswer, seek]
        rw [hauth, hmarks, hanswer]
        exact .retry f snapshot failure h hexpired hbypass
      · have hlast : ∀ failure, result = .error failure →
            (failure.isAuthExpired && !snapshot.isBypassed && rejected.isNone) = false := by
          intro failure hfailure
          rw [Bool.eq_false_iff]
          intro hagain
          exact hretry ⟨failure, hfailure, hagain⟩
        have hanswer : s.answer f result =
            s.finish f (result.mapError (.ofFailure s.provider)) := by
          cases result with
          | ok image => simp [answer, h, Except.mapError]
          | error failure => simp [answer, h, hlast failure rfl, Except.mapError]
        have hauth : s.authEvents (.answer f result) = [] := by
          simp [authEvents, h, hanswer, Fetches.finish]
        have hmarks : s.marks (.answer f result) = [.answered f snapshot result] := by
          simp [marks, h, hanswer, Fetches.finish]
        rw [hauth, hmarks, hanswer]
        exact .finish f rejected snapshot result h hlast
  | _ =>
      have hauth : s.authEvents (.answer f result) = [] := by simp [authEvents, h]
      have hmarks : s.marks (.answer f result) = [] := by simp [marks, h]
      have hanswer : s.answer f result = s := by simp [answer, h]
      rw [hauth, hmarks, hanswer]
      exact .idle _

theorem move_drop (s : Fetches) (f : Nat) :
    s.Move (.drop f) (s.authEvents (.drop f)) (s.marks (.drop f)) (s.drop f) := by
  cases h : s.fetch f with
  | seeking rejected =>
      have hauth : s.authEvents (.drop f) = [.drop (callOf f rejected)] := by
        simp [authEvents, h]
      have hdrop : s.drop f =
          { s with auth := s.auth.drop (callOf f rejected) }.place f .dropped := by
        simp [drop, h]
      rw [hauth, hdrop]
      exact .leave f rejected h
  | generating rejected snapshot =>
      have hauth : s.authEvents (.drop f) = [] := by simp [authEvents, h]
      have hdrop : s.drop f = s.place f .dropped := by simp [drop, h]
      rw [hauth, hdrop]
      exact .giveUp f rejected snapshot h
  | _ =>
      have hauth : s.authEvents (.drop f) = [] := by simp [authEvents, h]
      have hdrop : s.drop f = s := by simp [drop, h]
      rw [hauth, hdrop]
      exact .idle _

theorem move_step (s : Fetches) (e : Event) :
    s.Move e (s.authEvents e) (s.marks e) (s.step e) := by
  cases e with
  | start f => exact s.move_start f
  | seek f step => exact s.move_seek f step
  | answer f result => exact s.move_answer f result
  | drop f => exact s.move_drop f
  | invalidate snapshot => exact .invalidate snapshot

/-! ## Consequences -/

variable {s t : Fetches} {e : Event} {authEvents : List Auth.Event} {marks : List Mark}

theorem Move.auth_eq (h : s.Move e authEvents marks t) : t.auth = s.auth.run authEvents := by
  cases h <;> rfl

theorem Move.fetch_eq_of_ne (h : s.Move e authEvents marks t) {f : Nat}
    (hf : e.fetch? ≠ some f) : t.fetch f = s.fetch f := by
  cases h with
  | idle => rfl
  | wait => rfl
  | invalidate => rfl
  | _ =>
      apply fetch_place_of_ne
      rintro rfl
      exact hf rfl

theorem Move.fetch_mark (h : s.Move e authEvents marks t) :
    ∀ m ∈ marks, some m.fetch = e.fetch? := by
  cases h <;> simp [Mark.fetch, Event.fetch?]

theorem callOf_ne {f g : Nat} (h : g ≠ f) (r r' : Option Auth.Snapshot) :
    callOf g r ≠ callOf f r' := by
  unfold callOf
  split <;> split <;> omega

theorem Move.call_auth_eq_of_ne (h : s.Move e authEvents marks t) {f : Nat}
    (hf : e.fetch? ≠ some f) (rejected : Option Auth.Snapshot) :
    t.auth.call (callOf f rejected) = s.auth.call (callOf f rejected) := by
  have hother : ∀ e' ∈ authEvents, e'.call? ≠ some (callOf f rejected) := by
    cases h <;> simp_all [Auth.Event.call?, Event.fetch?, callOf_ne]
  rw [h.auth_eq]
  exact Auth.Calls.call_run_of_ne s.auth authEvents hother

/-! ## The cache of a broker -/

theorem auth_run_of (s : Fetches) (events : List Event) :
    (s.run events).auth = s.auth.run (s.authHistory events) := by
  induction events using List.reverseRecOn with
  | nil => rfl
  | append_singleton events e ih =>
      rw [run_concat, authHistory_concat, Auth.Calls.run_append, ← ih]
      exact (move_step _ e).auth_eq

theorem auth_run (provider : String) (policy : Auth.Policy) (events : List Event) :
    ((initial provider policy).run events).auth =
      (Auth.Calls.initial policy).run ((initial provider policy).authHistory events) :=
  (initial provider policy).auth_run_of events

theorem consistent_auth (provider : String) (policy : Auth.Policy) (events : List Event) :
    ((initial provider policy).run events).auth.Consistent
      ((Auth.Calls.initial policy).log ((initial provider policy).authHistory events)) := by
  rw [auth_run]
  exact Auth.Calls.consistent_run policy _

/-- A step of the broker is some steps of its cache, and these keep what is retired. -/
theorem precedes_step (provider : String) (policy : Auth.Policy) (events : List Event)
    (e : Event) :
    ((initial provider policy).run events).auth.cache.slot.Precedes
      (((initial provider policy).run events).step e).auth.cache.slot := by
  have hslot := Auth.Calls.precedes_run policy
    ((initial provider policy).authHistory events)
    (((initial provider policy).run events).authEvents e)
  rwa [← authHistory_concat, ← auth_run, ← auth_run, run_concat] at hslot

def authLog (s : Fetches) (events : List Event) : List Auth.Mark :=
  s.auth.log (s.authHistory events)

theorem authLog_append (s : Fetches) (before after : List Event) :
    s.authLog (before ++ after) = s.authLog before ++ (s.run before).authLog after := by
  unfold authLog
  rw [authHistory_append, Auth.Calls.log_append, auth_run_of]

theorem authLog_singleton (s : Fetches) (e : Event) :
    s.authLog [e] = s.auth.log (s.authEvents e) := by
  simp [authLog, authHistory]

end Fetches

end TileFetch.Broker
