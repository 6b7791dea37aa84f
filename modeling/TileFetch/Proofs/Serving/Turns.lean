import TileFetch.Proofs.Serving.Moves

/-!
# The turn of a fetch

When a fetch that is served takes a step, one of eleven things happens to it.  `Turn` lists them,
each with the marks of the broker and of its cache, with what the fetch wants from the provider
then, and with what becomes of the calls for contexts and of the fetch.
-/

namespace TileFetch.Simulation

open Broker (callOf)
open Time (Instant)

inductive Turn (s : Broker.Fetches) (f : Nat) : Broker.Event → List Broker.Mark →
    List Auth.Mark → Option Want → Broker.Fetches → Prop where
  | hit {t : Broker.Fetches} (rejected : Option Auth.Snapshot) (now : Instant)
      (snapshot : Auth.Snapshot) (hfetch : s.fetch f = .seeking rejected)
      (hcall : s.auth.call (callOf f rejected) = .looking)
      (hfresh : s.auth.cache.slot.fresh? now = some snapshot)
      (hauth : t.auth = s.auth.place (callOf f rejected) (.done (.ok snapshot)))
      (hplace : t.fetch f = .generating rejected snapshot) :
      Turn s f (.seek f (.look now)) [.asked f snapshot]
        [.returned (callOf f rejected) (.ok snapshot)] (some (.tile snapshot.context.value)) t
  | miss {t : Broker.Fetches} (rejected : Option Auth.Snapshot) (now : Instant)
      (hfetch : s.fetch f = .seeking rejected)
      (hcall : s.auth.call (callOf f rejected) = .looking)
      (hfresh : s.auth.cache.slot.fresh? now = none)
      (hauth : t.auth =
        s.auth.place (callOf f rejected) (.waiting s.auth.cache.slot.generation))
      (hplace : t.fetch f = .seeking rejected) :
      Turn s f (.seek f (.look now)) []
        [.missed (callOf f rejected) s.auth.cache.slot.generation] none t
  | blocked (rejected : Option Auth.Snapshot) (now : Instant) (seen : Nat)
      (hfetch : s.fetch f = .seeking rejected)
      (hcall : s.auth.call (callOf f rejected) = .waiting seen) (hheld : s.auth.holder ≠ none) :
      Turn s f (.seek f (.acquire now)) [] [] none s
  | share {t : Broker.Fetches} (rejected : Option Auth.Snapshot) (now : Instant) (seen : Nat)
      (snapshot : Auth.Snapshot) (hfetch : s.fetch f = .seeking rejected)
      (hcall : s.auth.call (callOf f rejected) = .waiting seen) (hfree : s.auth.holder = none)
      (hseen : s.auth.cache.slot.generation ≠ seen)
      (hcontext : (s.auth.cache.slot.fresh? now).or s.auth.cache.slot.latest? = some snapshot)
      (hauth : t.auth = s.auth.place (callOf f rejected) (.done (.ok snapshot)))
      (hplace : t.fetch f = .generating rejected snapshot) :
      Turn s f (.seek f (.acquire now)) [.asked f snapshot]
        [.returned (callOf f rejected) (.ok snapshot)] (some (.tile snapshot.context.value)) t
  | fail {t : Broker.Fetches} (rejected : Option Auth.Snapshot) (now : Instant) (seen : Nat)
      (failure : Auth.Handle Provider.Failure) (hfetch : s.fetch f = .seeking rejected)
      (hcall : s.auth.call (callOf f rejected) = .waiting seen) (hfree : s.auth.holder = none)
      (hseen : s.auth.cache.slot.generation ≠ seen)
      (hcontext : (s.auth.cache.slot.fresh? now).or s.auth.cache.slot.latest? = none)
      (hfailure : s.auth.cache.slot.latestFailure? = some failure)
      (hauth : t.auth = s.auth.place (callOf f rejected) (.done (.error failure)))
      (hplace : t.fetch f = .done (.error (.refresh s.provider failure))) :
      Turn s f (.seek f (.acquire now)) [] [.returned (callOf f rejected) (.error failure)] none t
  | again {t : Broker.Fetches} (rejected : Option Auth.Snapshot) (now : Instant) (seen : Nat)
      (hfetch : s.fetch f = .seeking rejected)
      (hcall : s.auth.call (callOf f rejected) = .waiting seen) (hfree : s.auth.holder = none)
      (hseen : s.auth.cache.slot.generation ≠ seen)
      (hcontext : (s.auth.cache.slot.fresh? now).or s.auth.cache.slot.latest? = none)
      (hfailure : s.auth.cache.slot.latestFailure? = none)
      (hauth : t.auth = s.auth.place (callOf f rejected) .looking)
      (hplace : t.fetch f = .seeking rejected) :
      Turn s f (.seek f (.acquire now)) [] [.retried (callOf f rejected)] none t
  | lead {t : Broker.Fetches} (rejected : Option Auth.Snapshot) (now : Instant)
      (hfetch : s.fetch f = .seeking rejected)
      (hcall : s.auth.call (callOf f rejected) = .waiting s.auth.cache.slot.generation)
      (hfree : s.auth.holder = none)
      (hauth : t.auth = s.auth.lead (callOf f rejected) s.auth.cache.slot.generation)
      (hplace : t.fetch f = .seeking rejected) :
      Turn s f (.seek f (.acquire now)) []
        [.invoked (callOf f rejected) s.auth.cache.slot.previous]
        (some (.context s.auth.cache.slot.previous)) t
  | publish {t : Broker.Fetches} (rejected : Option Auth.Snapshot) (seen : Nat)
      (previous context : Auth.Context) (now : Instant) (draw : Nat) (snapshot : Auth.Snapshot)
      (hsnapshot : snapshot = ⟨s.auth.cache.slot.generation + 1, ⟨s.auth.cache.minted, context⟩⟩)
      (hfetch : s.fetch f = .seeking rejected)
      (hcall : s.auth.call (callOf f rejected) = .leading seen previous)
      (hauth : t.auth = s.auth.conclude (callOf f rejected) (.ok context) now draw)
      (hplace : t.fetch f = .generating rejected snapshot) :
      Turn s f (.seek f (.settle (.ok context) now draw)) [.asked f snapshot]
        [.ended (callOf f rejected) (.ok snapshot)] (some (.tile context)) t
  | refuse {t : Broker.Fetches} (rejected : Option Auth.Snapshot) (seen : Nat)
      (previous : Auth.Context) (failure : Provider.Failure) (now : Instant) (draw : Nat)
      (hfetch : s.fetch f = .seeking rejected)
      (hcall : s.auth.call (callOf f rejected) = .leading seen previous)
      (hauth : t.auth = s.auth.conclude (callOf f rejected) (.error failure) now draw)
      (hplace : t.fetch f = .done (.error (.refresh s.provider ⟨s.auth.cache.minted, failure⟩))) :
      Turn s f (.seek f (.settle (.error failure) now draw)) []
        [.ended (callOf f rejected) (.error ⟨s.auth.cache.minted, failure⟩)] none t
  | finish {t : Broker.Fetches} (rejected : Option Auth.Snapshot) (snapshot : Auth.Snapshot)
      (result : Except Provider.Failure Image) (hfetch : s.fetch f = .generating rejected snapshot)
      (hlast : ∀ failure, result = .error failure →
        (failure.isAuthExpired && !snapshot.isBypassed && rejected.isNone) = false)
      (hauth : t.auth = s.auth)
      (hplace : t.fetch f = .done (result.mapError (.ofFailure s.provider))) :
      Turn s f (.answer f result) [.answered f snapshot result] [] none t
  | retry {t : Broker.Fetches} (snapshot : Auth.Snapshot) (failure : Provider.Failure)
      (hfetch : s.fetch f = .generating none snapshot) (hexpired : failure.isAuthExpired = true)
      (hbypass : snapshot.isBypassed = false)
      (hauth : t.auth = { s.auth with cache := s.auth.cache.invalidate snapshot }.place
        (callOf f (some snapshot)) .looking)
      (hplace : t.fetch f = .seeking (some snapshot)) :
      Turn s f (.answer f (.error failure))
        [.answered f snapshot (.error failure),
          .reported f snapshot (s.auth.cache.accepts snapshot)]
        ((s.auth.mark? (.invalidate snapshot)).toList ++ [.began (callOf f (some snapshot))])
        none t

def TakesTurn (s : Broker.Fetches) (f : Nat) (e : Broker.Event) : Prop :=
  Turn s f e (s.marks e) (s.authLog [e]) (wanted? (s.step e) f) (s.step e)

namespace Turn

variable {s : Broker.Fetches} {f : Nat} {rejected : Option Auth.Snapshot} {step : Auth.CallStep}
  {a : Auth.Calls}

/-! ## What follows the step of a call -/

theorem authLog_seek (hfetch : s.fetch f = .seeking rejected)
    (ha : s.auth.stepCall (callOf f rejected) step = a) :
    s.authLog [.seek f step] = (Auth.Mark.ofMove? (callOf f rejected)
      (s.auth.call (callOf f rejected)) (a.call (callOf f rejected))).toList := by
  rw [Broker.Fetches.authLog_singleton]
  simp [Broker.Fetches.authEvents, hfetch, Auth.Calls.log, Auth.Calls.mark?, ha]

theorem seek_of_ok (hfetch : s.fetch f = .seeking rejected)
    (ha : s.auth.stepCall (callOf f rejected) step = a) {snapshot : Auth.Snapshot}
    (hdone : a.call (callOf f rejected) = .done (.ok snapshot)) :
    (s.stepSeek f step).auth = a ∧ (s.stepSeek f step).fetch f = .generating rejected snapshot ∧
      s.marks (.seek f step) = [.asked f snapshot] ∧
      wanted? (s.stepSeek f step) f = some (.tile snapshot.context.value) := by
  simp [Broker.Fetches.stepSeek, Broker.Fetches.marks, wanted?, hfetch, ha, hdone]

theorem seek_of_error (hfetch : s.fetch f = .seeking rejected)
    (ha : s.auth.stepCall (callOf f rejected) step = a) {failure : Auth.Handle Provider.Failure}
    (hdone : a.call (callOf f rejected) = .done (.error failure)) :
    (s.stepSeek f step).auth = a ∧
      (s.stepSeek f step).fetch f = .done (.error (.refresh s.provider failure)) ∧
      s.marks (.seek f step) = [] ∧ wanted? (s.stepSeek f step) f = none := by
  simp [Broker.Fetches.stepSeek, Broker.Fetches.marks, wanted?, hfetch, ha, hdone,
    Broker.Fetches.finish]

theorem seek_of_ne_done (hfetch : s.fetch f = .seeking rejected)
    (ha : s.auth.stepCall (callOf f rejected) step = a)
    (hnot : ∀ outcome, a.call (callOf f rejected) ≠ .done outcome) :
    (s.stepSeek f step).auth = a ∧ (s.stepSeek f step).fetch f = .seeking rejected ∧
      s.marks (.seek f step) = [] ∧
      wanted? (s.stepSeek f step) f = match a.call (callOf f rejected) with
        | .leading _ previous => some (.context previous)
        | _ => none := by
  cases hcall : a.call (callOf f rejected) with
  | done outcome => exact (hnot outcome hcall).elim
  | _ => simp [Broker.Fetches.stepSeek, Broker.Fetches.marks, wanted?, hfetch, ha, hcall]

/-! ## Turns -/

theorem look (hfetch : s.fetch f = .seeking rejected)
    (hcall : s.auth.call (callOf f rejected) = .looking) (now : Instant) :
    TakesTurn s f (.seek f (.look now)) := by
  cases hfresh : s.auth.cache.slot.fresh? now with
  | some snapshot =>
      have ha : s.auth.stepCall (callOf f rejected) (.look now) =
          s.auth.place (callOf f rejected) (.done (.ok snapshot)) := by
        simp [Auth.Calls.stepCall, Auth.Calls.look, hcall, hfresh]
      obtain ⟨hauth, hplace, hmarks, hwanted⟩ :=
        seek_of_ok hfetch ha (Auth.Calls.call_place_self _ _ _)
      rw [TakesTurn, hmarks, authLog_seek hfetch ha, hcall, Auth.Calls.call_place_self]
      rw [Broker.Fetches.step, hwanted]
      exact .hit rejected now snapshot hfetch hcall hfresh hauth hplace
  | none =>
      have ha : s.auth.stepCall (callOf f rejected) (.look now) =
          s.auth.place (callOf f rejected) (.waiting s.auth.cache.slot.generation) := by
        simp [Auth.Calls.stepCall, Auth.Calls.look, hcall, hfresh]
      obtain ⟨hauth, hplace, hmarks, hwanted⟩ := seek_of_ne_done hfetch ha (by simp)
      rw [TakesTurn, hmarks, authLog_seek hfetch ha, hcall, Auth.Calls.call_place_self]
      rw [Auth.Calls.call_place_self] at hwanted
      rw [Broker.Fetches.step, hwanted]
      exact .miss rejected now hfetch hcall hfresh hauth hplace

theorem acquire_blocked {seen : Nat} (hfetch : s.fetch f = .seeking rejected)
    (hcall : s.auth.call (callOf f rejected) = .waiting seen) (hheld : s.auth.holder ≠ none)
    (now : Instant) : TakesTurn s f (.seek f (.acquire now)) := by
  obtain ⟨d, hd⟩ := Option.ne_none_iff_exists'.mp hheld
  have ha : s.auth.stepCall (callOf f rejected) (.acquire now) = s.auth := by
    simp [Auth.Calls.stepCall, Auth.Calls.acquire, hcall, hd]
  have hstep : s.step (.seek f (.acquire now)) = s := by
    simp [Broker.Fetches.step, Broker.Fetches.stepSeek, hfetch, ha, hcall, Broker.Fetches.tell]
  obtain ⟨-, -, hmarks, -⟩ := seek_of_ne_done hfetch ha (by simp [hcall])
  have hwanted : wanted? s f = none := by simp [wanted?, hfetch, hcall]
  rw [TakesTurn, hmarks, authLog_seek hfetch ha, hcall, hstep, hwanted]
  exact .blocked rejected now seen hfetch hcall hheld

theorem acquire_free {seen : Nat} (hfetch : s.fetch f = .seeking rejected)
    (hcall : s.auth.call (callOf f rejected) = .waiting seen) (hfree : s.auth.holder = none)
    (now : Instant) : TakesTurn s f (.seek f (.acquire now)) := by
  by_cases hseen : s.auth.cache.slot.generation = seen
  · subst hseen
    have ha : s.auth.stepCall (callOf f rejected) (.acquire now) =
        s.auth.lead (callOf f rejected) s.auth.cache.slot.generation := by
      simp [Auth.Calls.stepCall, Auth.Calls.acquire, hcall, hfree, Auth.Cache.turn,
        Auth.Calls.lead]
    have hleads : (s.auth.lead (callOf f rejected) s.auth.cache.slot.generation).call
        (callOf f rejected) =
          .leading s.auth.cache.slot.generation s.auth.cache.slot.previous :=
      Auth.Calls.call_place_self _ _ _
    obtain ⟨hauth, hplace, hmarks, hwanted⟩ := seek_of_ne_done hfetch ha (by simp [hleads])
    rw [TakesTurn, hmarks, authLog_seek hfetch ha, hcall, hleads]
    rw [hleads] at hwanted
    rw [Broker.Fetches.step, hwanted]
    exact .lead rejected now hfetch hcall hfree hauth hplace
  · cases hcontext : (s.auth.cache.slot.fresh? now).or s.auth.cache.slot.latest? with
    | some snapshot =>
        have ha : s.auth.stepCall (callOf f rejected) (.acquire now) =
            s.auth.place (callOf f rejected) (.done (.ok snapshot)) := by
          simp [Auth.Calls.stepCall, Auth.Calls.acquire, hcall, hfree, Auth.Cache.turn, hseen,
            hcontext]
        obtain ⟨hauth, hplace, hmarks, hwanted⟩ :=
          seek_of_ok hfetch ha (Auth.Calls.call_place_self _ _ _)
        rw [TakesTurn, hmarks, authLog_seek hfetch ha, hcall, Auth.Calls.call_place_self]
        rw [Broker.Fetches.step, hwanted]
        exact .share rejected now seen snapshot hfetch hcall hfree hseen hcontext hauth hplace
    | none =>
        cases hfailure : s.auth.cache.slot.latestFailure? with
        | some failure =>
            have ha : s.auth.stepCall (callOf f rejected) (.acquire now) =
                s.auth.place (callOf f rejected) (.done (.error failure)) := by
              simp [Auth.Calls.stepCall, Auth.Calls.acquire, hcall, hfree, Auth.Cache.turn, hseen,
                hcontext, hfailure]
            obtain ⟨hauth, hplace, hmarks, hwanted⟩ :=
              seek_of_error hfetch ha (Auth.Calls.call_place_self _ _ _)
            rw [TakesTurn, hmarks, authLog_seek hfetch ha, hcall, Auth.Calls.call_place_self]
            rw [Broker.Fetches.step, hwanted]
            exact .fail rejected now seen failure hfetch hcall hfree hseen hcontext hfailure hauth
              hplace
        | none =>
            have ha : s.auth.stepCall (callOf f rejected) (.acquire now) =
                s.auth.place (callOf f rejected) .looking := by
              simp [Auth.Calls.stepCall, Auth.Calls.acquire, hcall, hfree, Auth.Cache.turn, hseen,
                hcontext, hfailure]
            obtain ⟨hauth, hplace, hmarks, hwanted⟩ := seek_of_ne_done hfetch ha (by simp)
            rw [TakesTurn, hmarks, authLog_seek hfetch ha, hcall, Auth.Calls.call_place_self]
            rw [Auth.Calls.call_place_self] at hwanted
            rw [Broker.Fetches.step, hwanted]
            exact .again rejected now seen hfetch hcall hfree hseen hcontext hfailure hauth hplace

theorem settle {seen : Nat} {previous : Auth.Context} (hfetch : s.fetch f = .seeking rejected)
    (hcall : s.auth.call (callOf f rejected) = .leading seen previous)
    (result : Except Provider.Failure Auth.Context) (now : Instant) (draw : Nat) :
    TakesTurn s f (.seek f (.settle result now draw)) := by
  have ha : s.auth.stepCall (callOf f rejected) (.settle result now draw) =
      s.auth.conclude (callOf f rejected) result now draw := by
    simp [Auth.Calls.stepCall, Auth.Calls.settle, hcall, Auth.Calls.conclude]
  have hdone : (s.auth.conclude (callOf f rejected) result now draw).call (callOf f rejected) =
      .done (s.auth.cache.settled result) :=
    Auth.Calls.call_place_self _ _ _
  rw [TakesTurn, authLog_seek hfetch ha, hcall, hdone]
  cases result with
  | ok context =>
      obtain ⟨hauth, hplace, hmarks, hwanted⟩ := seek_of_ok hfetch ha hdone
      rw [hmarks, Broker.Fetches.step, hwanted]
      exact .publish rejected seen previous context now draw _ rfl hfetch hcall hauth hplace
  | error failure =>
      obtain ⟨hauth, hplace, hmarks, hwanted⟩ := seek_of_error hfetch ha hdone
      rw [hmarks, Broker.Fetches.step, hwanted]
      exact .refuse rejected seen previous failure now draw hfetch hcall hauth hplace

theorem answer_again {snapshot : Auth.Snapshot} {failure : Provider.Failure}
    (hfetch : s.fetch f = .generating none snapshot)
    (habsent : s.auth.call (callOf f (some snapshot)) = .absent)
    (hexpired : failure.isAuthExpired = true) (hbypass : snapshot.isBypassed = false) :
    TakesTurn s f (.answer f (.error failure)) := by
  have hstep : s.step (.answer f (.error failure)) =
      (s.invalidate snapshot).seek f (some snapshot) := by
    simp [Broker.Fetches.step, Broker.Fetches.answer, hfetch, hexpired, hbypass]
  have hanswer : s.answer f (.error failure) = (s.invalidate snapshot).seek f (some snapshot) :=
    hstep
  have hmarks : s.marks (.answer f (.error failure)) =
      [.answered f snapshot (.error failure),
        .reported f snapshot (s.auth.cache.accepts snapshot)] := by
    simp [Broker.Fetches.marks, hfetch, hanswer, Broker.Fetches.seek]
  have hlog : s.authLog [.answer f (.error failure)] =
      (s.auth.mark? (.invalidate snapshot)).toList ++ [.began (callOf f (some snapshot))] := by
    rw [Broker.Fetches.authLog_singleton]
    simp [Broker.Fetches.authEvents, hfetch, hanswer, Broker.Fetches.seek, Auth.Calls.log,
      Auth.Calls.step, Auth.Calls.start, habsent, Auth.Mark.ofMove?, Auth.Calls.mark?]
  have hwanted : wanted? ((s.invalidate snapshot).seek f (some snapshot)) f = none := by
    simp [wanted?, Broker.Fetches.seek, Broker.Fetches.invalidate, Auth.Calls.start, habsent]
  rw [TakesTurn, hmarks, hlog, hstep, hwanted]
  apply Turn.retry snapshot failure hfetch hexpired hbypass
  · simp [Broker.Fetches.seek, Broker.Fetches.invalidate, Auth.Calls.start, habsent]
  · simp [Broker.Fetches.seek]

theorem answer_finally {snapshot : Auth.Snapshot} {result : Except Provider.Failure Image}
    (hfetch : s.fetch f = .generating rejected snapshot)
    (hlast : ∀ failure, result = .error failure →
      (failure.isAuthExpired && !snapshot.isBypassed && rejected.isNone) = false) :
    TakesTurn s f (.answer f result) := by
  have hanswer : s.answer f result = s.finish f (result.mapError (.ofFailure s.provider)) := by
    cases result with
    | ok image => simp [Broker.Fetches.answer, hfetch, Except.mapError]
    | error failure => simp [Broker.Fetches.answer, hfetch, hlast failure rfl, Except.mapError]
  have hmarks : s.marks (.answer f result) = [.answered f snapshot result] := by
    simp [Broker.Fetches.marks, hfetch, hanswer, Broker.Fetches.finish]
  have hlog : s.authLog [.answer f result] = [] := by
    rw [Broker.Fetches.authLog_singleton]
    simp [Broker.Fetches.authEvents, hfetch, hanswer, Broker.Fetches.finish]
  have hwanted : wanted? (s.answer f result) f = none := by
    simp [wanted?, hanswer, Broker.Fetches.finish]
  rw [TakesTurn, hmarks, hlog, Broker.Fetches.step, hwanted]
  apply Turn.finish rejected snapshot result hfetch hlast
  · simp [hanswer, Broker.Fetches.finish]
  · simp [hanswer, Broker.Fetches.finish]

theorem answer {snapshot : Auth.Snapshot} (hfetch : s.fetch f = .generating rejected snapshot)
    (habsent : rejected = none → s.auth.call (callOf f (some snapshot)) = .absent)
    (result : Except Provider.Failure Image) : TakesTurn s f (.answer f result) := by
  by_cases hretry : ∃ failure, result = .error failure ∧
      (failure.isAuthExpired && !snapshot.isBypassed && rejected.isNone) = true
  · obtain ⟨failure, rfl, hagain⟩ := hretry
    obtain ⟨⟨hexpired, hbypass⟩, rfl⟩ : (failure.isAuthExpired = true ∧
        snapshot.isBypassed = false) ∧ rejected = none := by
      simpa using hagain
    exact answer_again hfetch (habsent rfl) hexpired hbypass
  · apply answer_finally hfetch
    intro failure hfailure
    rw [Bool.eq_false_iff]
    intro hagain
    exact hretry ⟨failure, hfailure, hagain⟩

end Turn

/-! ## The turns of served fetches -/

theorem wanted?_eq_context_iff {s : Broker.Fetches} {f : Nat} {previous : Auth.Context} :
    wanted? s f = some (.context previous) ↔ ∃ rejected seen,
      s.fetch f = .seeking rejected ∧
        s.auth.call (callOf f rejected) = .leading seen previous := by
  cases hfetch : s.fetch f with
  | seeking rejected =>
      cases hcall : s.auth.call (callOf f rejected) <;> simp [wanted?, hfetch, hcall]
  | _ => simp [wanted?, hfetch]

theorem wanted?_eq_tile_iff {s : Broker.Fetches} {f : Nat} {context : Auth.Context} :
    wanted? s f = some (.tile context) ↔ ∃ rejected snapshot,
      s.fetch f = .generating rejected snapshot ∧ snapshot.context.value = context := by
  cases hfetch : s.fetch f with
  | seeking rejected =>
      cases hcall : s.auth.call (callOf f rejected) <;> simp [wanted?, hfetch, hcall]
  | _ => simp [wanted?, hfetch]

namespace Serving

variable {π : Type} {setup : Setup π} {tile : Nat → TileRequest} {s : Serving π} {f : Nat}
  {r : Reading} {e : Event} {event : Broker.Event} {provider : π} {past : List Broker.Mark}

theorem Backed.of_context (h : s.Backed setup tile f) {call : Begun π Auth.Context}
    (hpending : s.pending f = .context call) : ∃ previous overlap asked state rejected seen,
      s.fetches.fetch f = .seeking rejected ∧
        s.fetches.auth.call (callOf f rejected) = .leading seen previous ∧
        call = (setup.service.preAuth previous overlap asked state).1 := by
  unfold Backed at h
  rw [hpending] at h
  obtain ⟨previous, overlap, asked, state, hwanted, hbegun⟩ := h
  obtain ⟨rejected, seen, hfetch, hcall⟩ := wanted?_eq_context_iff.mp hwanted
  exact ⟨previous, overlap, asked, state, rejected, seen, hfetch, hcall, hbegun⟩

theorem Backed.of_tile (h : s.Backed setup tile f) {call : Begun π Image}
    (hpending : s.pending f = .tile call) : ∃ asked state rejected snapshot,
      s.fetches.fetch f = .generating rejected snapshot ∧
        call = (setup.service.generate snapshot.context.value (tile f) asked state).1 := by
  unfold Backed at h
  rw [hpending] at h
  obtain ⟨context, asked, state, hwanted, hbegun⟩ := h
  obtain ⟨rejected, snapshot, hfetch, rfl⟩ := wanted?_eq_tile_iff.mp hwanted
  exact ⟨asked, state, rejected, snapshot, hfetch, hbegun⟩

theorem Backed.pending_none (h : s.Backed setup tile f) (hwanted : wanted? s.fetches f = none) :
    s.pending f = .none := by
  cases hpending : s.pending f <;> simp [Backed, hpending, hwanted] at h ⊢

theorem Backed.pending_context (h : s.Backed setup tile f) {previous : Auth.Context}
    (hwanted : wanted? s.fetches f = some (.context previous)) :
    ∃ call, s.pending f = .context call := by
  cases hpending : s.pending f <;> simp [Backed, hpending, hwanted] at h ⊢

theorem Backed.pending_tile (h : s.Backed setup tile f) {context : Auth.Context}
    (hwanted : wanted? s.fetches f = some (.tile context)) :
    ∃ call, s.pending f = .tile call := by
  cases hpending : s.pending f <;> simp [Backed, hpending, hwanted] at h ⊢

/-- A fetch that waits for its tile the first time has not called for a second context. -/
theorem absent_of_generating
    (h : (s.fetches.fetch f).Course f s.fetches.provider s.fetches.auth past)
    {snapshot : Auth.Snapshot} (hfetch : s.fetches.fetch f = .generating none snapshot) :
    s.fetches.auth.call (callOf f (some snapshot)) = .absent := by
  rw [hfetch] at h
  exact h.2.2

theorem Offer.takesTurn (h : s.Offer setup f r e event provider) (hs : s.Backed setup tile f)
    (hcourse : (s.fetches.fetch f).Course f s.fetches.provider s.fetches.auth past) :
    TakesTurn s.fetches f event := by
  cases h with
  | look rejected hnone hfetch hcall => exact Turn.look hfetch hcall r.now
  | acquire rejected seen hnone hfetch hcall =>
      by_cases hfree : s.fetches.auth.holder = none
      · exact Turn.acquire_free hfetch hcall hfree r.now
      · exact Turn.acquire_blocked hfetch hcall hfree r.now
  | context call hpending | lateContext call hpending =>
      obtain ⟨previous, overlap, asked, state, rejected, seen, hfetch, hcall, -⟩ :=
        hs.of_context hpending
      exact Turn.settle hfetch hcall _ r.issuedAt r.draw
  | tile call hpending | lateTile call hpending =>
      obtain ⟨asked, state, rejected, snapshot, hfetch, -⟩ := hs.of_tile hpending
      apply Turn.answer hfetch
      rintro rfl
      exact absent_of_generating hcourse hfetch

end Serving

end TileFetch.Simulation
