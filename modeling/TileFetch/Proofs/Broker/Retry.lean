import TileFetch.Proofs.Auth.Returns
import TileFetch.Proofs.Broker.Moves

/-!
# Retries

A fetch asks for its tile at most twice, and the second time with a newer context than the
one that was rejected.  Once the fetch has reported the context, the cache has retired it:
either it was superseded before, or it is stale now, whoever was the first to report it.
What is retired stays so, and a call for a context returns no retired one.
-/

namespace TileFetch.Broker

def Rejected (f : Nat) (log : List Mark) (first : Auth.Snapshot) : Prop :=
  (∃ failure : Provider.Failure, failure.isAuthExpired = true ∧
    .answered f first (.error failure) ∈ log) ∧
  ∃ accepted, reports f log = [(first, accepted)]

/-- A fetch has asked not at all, or once, or again with a newer context. -/
def Retries (f : Nat) (log : List Mark) : Prop :=
  asked f log = [] ∨ (∃ first, asked f log = [first]) ∨
    ∃ first second, asked f log = [first, second] ∧ Rejected f log first ∧
      first.generation < second.generation

/-- What the log says about a fetch in some place, and what the cache knows of the context it
reported. -/
def Fetch.Fits (f : Nat) (auth : Auth.Calls) (log : List Mark) : Fetch → Prop
  | .absent =>
      asked f log = [] ∧ reports f log = [] ∧
        ∀ rejected, auth.call (callOf f rejected) = .absent
  | .seeking none =>
      asked f log = [] ∧ reports f log = [] ∧
        ∀ first, auth.call (callOf f (some first)) = .absent
  | .generating none first =>
      asked f log = [first] ∧ reports f log = [] ∧
        auth.call (callOf f none) = .done (.ok first) ∧
        auth.call (callOf f (some first)) = .absent
  | .seeking (some first) =>
      asked f log = [first] ∧ Rejected f log first ∧
        auth.cache.slot.Retired first.generation ∧
        ∀ outcome, auth.call (callOf f (some first)) ≠ .done outcome
  | .generating (some first) second =>
      asked f log = [first, second] ∧ Rejected f log first ∧
        first.generation < second.generation
  | .done _ => Retries f log
  | .dropped => Retries f log

section Append

variable {f : Nat} {log marks : List Mark}

theorem Rejected.append {first : Auth.Snapshot} (h : Rejected f log first)
    (hreports : reports f marks = []) : Rejected f (log ++ marks) first := by
  obtain ⟨⟨failure, hexpired, hmem⟩, accepted, heq⟩ := h
  refine ⟨⟨failure, hexpired, List.mem_append_left _ hmem⟩, accepted, ?_⟩
  rw [reports_append, heq, hreports, List.append_nil]

theorem Retries.append (h : Retries f log) (hasked : asked f marks = [])
    (hreports : reports f marks = []) : Retries f (log ++ marks) := by
  have hsame : asked f (log ++ marks) = asked f log := by
    rw [asked_append, hasked, List.append_nil]
  unfold Retries
  rw [hsame]
  rcases h with hnone | hone | ⟨first, second, htwo, hrejected, hlt⟩
  · exact .inl hnone
  · exact .inr (.inl hone)
  · exact .inr (.inr ⟨first, second, htwo, hrejected.append hreports, hlt⟩)

/-- Who has asked twice was rejected, and has reported it. -/
theorem Retries.of_asked_twice (h : Retries f log) {first second : Auth.Snapshot}
    (htwo : asked f log = [first, second]) :
    Rejected f log first ∧ first.generation < second.generation := by
  rcases h with hnone | ⟨only, hone⟩ | ⟨first', second', htwo', hrejected⟩
  · simp [hnone] at htwo
  · simp [hone] at htwo
  · obtain ⟨rfl, rfl⟩ : first' = first ∧ second' = second := by simpa [htwo'] using htwo
    exact hrejected

variable {auth auth' : Auth.Calls} {x : Fetch}

theorem Fetch.Fits.retries (h : x.Fits f auth log) : Retries f log := by
  match x, h with
  | .absent, h => exact .inl h.1
  | .seeking none, h => exact .inl h.1
  | .generating none first, h => exact .inr (.inl ⟨first, h.1⟩)
  | .seeking (some first), h => exact .inr (.inl ⟨first, h.1⟩)
  | .generating (some first) second, h =>
      exact .inr (.inr ⟨first, second, h.1, h.2.1, h.2.2⟩)
  | .done _, h => exact h
  | .dropped, h => exact h

theorem Fetch.Fits.frame (h : x.Fits f auth log)
    (hcall : ∀ rejected, auth'.call (callOf f rejected) = auth.call (callOf f rejected))
    (hslot : auth.cache.slot.Precedes auth'.cache.slot)
    (hasked : asked f marks = []) (hreports : reports f marks = []) :
    x.Fits f auth' (log ++ marks) := by
  have hsame : asked f (log ++ marks) = asked f log := by
    rw [asked_append, hasked, List.append_nil]
  have hsame' : reports f (log ++ marks) = reports f log := by
    rw [reports_append, hreports, List.append_nil]
  match x, h with
  | .absent, h | .seeking none, h | .generating none first, h =>
      simpa only [Fits, hsame, hsame', hcall] using h
  | .seeking (some first), ⟨hone, hrejected, hretired, hpending⟩ =>
      refine ⟨hsame.trans hone, hrejected.append hreports, hslot.retired hretired, ?_⟩
      intro outcome
      rw [hcall]
      exact hpending outcome
  | .generating (some first) second, ⟨htwo, hrejected, hlt⟩ =>
      exact ⟨hsame.trans htwo, hrejected.append hreports, hlt⟩
  | .done _, h => exact Retries.append h hasked hreports
  | .dropped, h => exact Retries.append h hasked hreports

end Append

namespace Fetches

variable {s t : Fetches} {e : Event} {authEvents : List Auth.Event} {marks log : List Mark}
  {authLog : List Auth.Mark} {f : Nat}

theorem callOf_some_ne (f : Nat) (first : Auth.Snapshot) :
    callOf f (some first) ≠ callOf f none := by
  simp [callOf]

theorem call_second (auth : Auth.Calls) {e : Auth.Event} (he : e.call? = some (callOf f none))
    (first : Auth.Snapshot) :
    (auth.step e).call (callOf f (some first)) = auth.call (callOf f (some first)) := by
  apply (Auth.Calls.move_step auth e).call_eq_of_ne
  rw [he]
  intro heq
  exact callOf_some_ne f first (Option.some.inj heq).symm

theorem fits_ask (hs : s.auth.Consistent authLog) {rejected : Option Auth.Snapshot}
    (h : (Fetch.seeking rejected).Fits f s.auth log) {step : Auth.CallStep}
    {snapshot : Auth.Snapshot}
    (hcall : (s.auth.stepCall (callOf f rejected) step).call (callOf f rejected) =
      .done (.ok snapshot)) :
    (Fetch.generating rejected snapshot).Fits f (s.auth.stepCall (callOf f rejected) step)
      (log ++ [.asked f snapshot]) := by
  cases rejected with
  | none =>
      obtain ⟨hasked, hreports, habsent⟩ := h
      refine ⟨?_, ?_, hcall, ?_⟩
      · simp [hasked, Mark.asked?]
      · simp [hreports, Mark.reported?]
      · exact (call_second s.auth (e := .step (callOf f none) step) rfl snapshot).trans
          (habsent snapshot)
  | some first =>
      obtain ⟨hasked, hrejected, hretired, hpending⟩ := h
      refine ⟨?_, hrejected.append rfl, ?_⟩
      · simp [hasked, Mark.asked?]
      · exact hs.lt_generation_of_done
          (Auth.Calls.move_step s.auth (.step (callOf f (some first)) step))
          hretired hpending hcall

/-- A fetch that has reported its context knows that it is retired. -/
theorem fits_retry (hs : s.auth.Consistent authLog) {snapshot : Auth.Snapshot}
    {failure : Provider.Failure} (h : (Fetch.generating none snapshot).Fits f s.auth log)
    (hexpired : failure.isAuthExpired = true) (hbypass : snapshot.isBypassed = false) :
    (Fetch.seeking (some snapshot)).Fits f
      ((s.invalidate snapshot).seek f (some snapshot)).auth
      (log ++ [.answered f snapshot (.error failure),
        .reported f snapshot (s.auth.cache.accepts snapshot)]) := by
  obtain ⟨hasked, hreports, hreturned, habsent⟩ := h
  have hmem : .ok snapshot ∈ Auth.cycles authLog := by
    have hfits := hs.fits (callOf f none)
    rw [hreturned] at hfits
    exact hfits snapshot rfl
  have hstarted : ((s.invalidate snapshot).seek f (some snapshot)).auth =
      { s.auth with cache := s.auth.cache.invalidate snapshot }.place
        (callOf f (some snapshot)) .looking := by
    simp [seek, invalidate, Auth.Calls.start, habsent]
  refine ⟨?_, ⟨⟨failure, hexpired, by simp⟩, s.auth.cache.accepts snapshot, ?_⟩, ?_, ?_⟩
  · simp [hasked, Mark.asked?]
  · simp [hreports, Mark.reported?]
  · rw [hstarted]
    exact hs.slot.retired_invalidate hmem hbypass
  · simp [hstarted]

theorem fits_own (hs : s.auth.Consistent authLog)
    (hslot : s.auth.cache.slot.Precedes t.auth.cache.slot)
    (h : (s.fetch f).Fits f s.auth log) (hmove : s.Move e authEvents marks t)
    (hf : e.fetch? = some f) : (t.fetch f).Fits f t.auth (log ++ marks) := by
  cases hmove with
  | idle => simpa using h
  | invalidate => simp [Event.fetch?] at hf
  | start g hfetch =>
      obtain rfl := Option.some.inj hf
      obtain ⟨hasked, hreports, habsent⟩ : Fetch.absent.Fits g s.auth log := hfetch ▸ h
      simp only [seek, fetch_place_self, List.append_nil]
      refine ⟨hasked, hreports, ?_⟩
      intro first
      exact (call_second s.auth (e := .start (callOf g none)) rfl first).trans
        (habsent (some first))
  | wait g step rejected hfetch hcall =>
      obtain rfl := Option.some.inj hf
      have hsame : (s.told g rejected step).fetch g = .seeking rejected := hfetch
      rw [hsame, List.append_nil]
      rw [hfetch] at h
      cases rejected with
      | none =>
          obtain ⟨hasked, hreports, habsent⟩ := h
          refine ⟨hasked, hreports, ?_⟩
          intro first
          exact (call_second s.auth (e := .step (callOf g none) step) rfl first).trans
            (habsent first)
      | some first =>
          obtain ⟨hasked, hrejected, hretired, -⟩ := h
          exact ⟨hasked, hrejected, hslot.retired hretired, hcall⟩
  | ask g step rejected snapshot hfetch hcall =>
      obtain rfl := Option.some.inj hf
      rw [fetch_place_self]
      exact fits_ask hs (hfetch ▸ h) hcall
  | retry g snapshot failure hfetch hexpired hbypass =>
      obtain rfl := Option.some.inj hf
      have hplace : ((s.invalidate snapshot).seek g (some snapshot)).fetch g =
          .seeking (some snapshot) := fetch_place_self _ _ _
      rw [hplace]
      exact fits_retry hs (hfetch ▸ h) hexpired hbypass
  | fail g | leave g | giveUp g =>
      obtain rfl := Option.some.inj hf
      simpa [Fetches.finish, Fetch.Fits] using h.retries
  | finish g rejected snapshot result =>
      obtain rfl := Option.some.inj hf
      have hlast : Retries g (log ++ [.answered g snapshot result]) := h.retries.append rfl rfl
      simpa [Fetches.finish, Fetch.Fits] using hlast

theorem fits_move (hs : s.auth.Consistent authLog)
    (hslot : s.auth.cache.slot.Precedes t.auth.cache.slot)
    (h : ∀ f, (s.fetch f).Fits f s.auth log) (hmove : s.Move e authEvents marks t) (f : Nat) :
    (t.fetch f).Fits f t.auth (log ++ marks) := by
  by_cases hf : e.fetch? = some f
  · exact fits_own hs hslot (h f) hmove hf
  · have hother : ∀ m ∈ marks, m.fetch ≠ f := by
      rintro m hm rfl
      exact hf (hmove.fetch_mark m hm).symm
    rw [hmove.fetch_eq_of_ne hf]
    exact (h f).frame (hmove.call_auth_eq_of_ne hf) hslot (asked_eq_nil hother)
      (reports_eq_nil hother)

theorem fits_run (provider : String) (policy : Auth.Policy) (events : List Event) (f : Nat) :
    (((initial provider policy).run events).fetch f).Fits f
      ((initial provider policy).run events).auth ((initial provider policy).log events) := by
  induction events using List.reverseRecOn generalizing f with
  | nil => exact ⟨rfl, rfl, fun _ ↦ rfl⟩
  | append_singleton events e ih =>
      rw [run_concat, log_concat]
      exact fits_move (consistent_auth provider policy events)
        (precedes_step provider policy events e) ih (move_step _ e) f

/-- A fetch asks for its tile at most twice.  If it asks twice, then the provider rejected the
first context, the fetch reported it, and the second context is newer, whether the report was
accepted or not. -/
theorem retry_has_newer_context (provider : String) (policy : Auth.Policy)
    (events : List Event) (f : Nat) :
    let log := (initial provider policy).log events
    (asked f log).length ≤ 2 ∧
      ∀ first second, asked f log = [first, second] →
        (∃ failure : Provider.Failure, failure.isAuthExpired = true ∧
          .answered f first (.error failure) ∈ log) ∧
        (∃ accepted, reports f log = [(first, accepted)]) ∧
        first.generation < second.generation := by
  intro log
  rcases (fits_run provider policy events f).retries with hnone | ⟨only, hone⟩ |
    ⟨first, second, htwo, ⟨hanswered, hreported⟩, hlt⟩
  · refine ⟨by simp [log, hnone], ?_⟩
    intro first second htwo
    simp [log, hnone] at htwo
  · refine ⟨by simp [log, hone], ?_⟩
    intro first second htwo
    simp [log, hone] at htwo
  · refine ⟨by simp [log, htwo], ?_⟩
    intro first' second' htwo'
    obtain ⟨rfl, rfl⟩ : first = first' ∧ second = second' := by
      simpa [log, htwo] using htwo'
    exact ⟨hanswered, hreported, hlt⟩

def twoRejected : List Event :=
  [.start 0, .seek 0 (.look (Auth.moment 0)), .seek 0 (.acquire (Auth.moment 0)),
    .seek 0 (.settle (.ok (.ofToken "old")) (Auth.moment 1) 0),
    .start 1, .seek 1 (.look (Auth.moment 2)),
    .answer 0 (.error ⟨.authExpired, "expired", none⟩),
    .answer 1 (.error ⟨.authExpired, "expired", none⟩),
    .seek 1 (.look (Auth.moment 3)), .seek 1 (.acquire (Auth.moment 3)),
    .seek 1 (.settle (.ok (.ofToken "new")) (Auth.moment 4) 0)]

/-- The second of them is too late with its report, and has a newer context all the same. -/
theorem retry_after_refused_report :
    let log := (initial "tiles" .reactive).log twoRejected
    let first : Auth.Snapshot := ⟨1, ⟨0, .ofToken "old"⟩⟩
    let second : Auth.Snapshot := ⟨2, ⟨1, .ofToken "new"⟩⟩
    asked 1 log = [first, second] ∧ reports 1 log = [(first, false)] ∧
      first.generation < second.generation := by
  intro log first second
  have htwo : asked 1 log = [first, second] := rfl
  obtain ⟨-, hretry⟩ := retry_has_newer_context "tiles" .reactive twoRejected 1
  obtain ⟨-, -, hlt⟩ := hretry first second htwo
  exact ⟨htwo, rfl, hlt⟩

end Fetches

end TileFetch.Broker
