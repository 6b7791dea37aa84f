import TileFetch.Proofs.Counting.Invariant

/-!
# Once the accepted token is published

The accepted token stays in the cache.  Every fetch that starts then gets it at once, and nothing
is rejected any more.
-/

namespace TileFetch.Simulation

namespace Trial

open Broker (callOf)
open Serving
open Time (Instant)

variable {p : Trial} {s : Serving Counts} {f : Nat} {event : Broker.Event} {provider : Counts}
  {b : Broker.Fetches} {before after : List Serving.Event}

/-- Where a fetch is that has started with the accepted token in the cache. -/
def Smooth (p : Trial) (b : Broker.Fetches) (f : Nat) : Prop :=
  match b.fetch f with
  | .absent => True
  | .seeking none => b.auth.call (callOf f none) = .looking
  | .generating none x => x.generation = p.failing + p.accepted
  | .done result => ∃ image, result = .ok image
  | _ => False

namespace Smooth

theorem of_eq {b' : Broker.Fetches} (h : p.Smooth b f) (hfetch : b'.fetch f = b.fetch f)
    (hcall : b'.auth.call (callOf f none) = b.auth.call (callOf f none)) : p.Smooth b' f := by
  unfold Smooth at h ⊢
  rw [hfetch, hcall]
  exact h

theorem looking (h : p.Smooth b f) {rejected : Option Auth.Snapshot}
    (hfetch : b.fetch f = .seeking rejected) :
    rejected = none ∧ b.auth.call (callOf f rejected) = .looking := by
  unfold Smooth at h
  rw [hfetch] at h
  cases rejected with
  | none => exact ⟨rfl, h⟩
  | some x => exact h.elim

theorem generation_eq (h : p.Smooth b f) {rejected : Option Auth.Snapshot} {x : Auth.Snapshot}
    (hfetch : b.fetch f = .generating rejected x) :
    x.generation = p.failing + p.accepted := by
  unfold Smooth at h
  rw [hfetch] at h
  cases rejected with
  | none => exact h
  | some y => exact h.elim

theorem start (h : p.Smooth b f) {past : List Broker.Mark}
    (hcourse : (b.fetch f).Course f b.provider b.auth past) :
    p.Smooth (b.step (.start f)) f := by
  cases hfetch : b.fetch f with
  | absent =>
      rw [hfetch] at hcourse
      have hcall := hcourse.2 none
      simp [Smooth, Broker.Fetches.step, Broker.Fetches.start, hfetch, Broker.Fetches.seek,
        Auth.Calls.start, hcall]
  | _ => simpa [Broker.Fetches.step, Broker.Fetches.start, hfetch] using h

theorem ok_of_answer (h : p.Smooth s.fetches f) (hcounted : p.Counted s)
    (hsupply : p.Supply s f event provider) {result : Except Provider.Failure Image}
    (hevent : event = .answer f result) :
    ∃ image, result = .ok image := by
  cases hsupply with
  | none | token => simp at hevent
  | image own y hown =>
      have haccepted : ¬ y.generation - p.failing < p.limit := by
        rw [h.generation_eq hown, accepted]
        omega
      rw [hcounted.reply_eq hown, if_neg haccepted] at hevent
      simp only [Broker.Event.answer.injEq, true_and] at hevent
      exact ⟨_, hevent.symm⟩

/-- A fetch finds the accepted token, and gets its tile with it. -/
theorem turn (h : p.Smooth s.fetches f) (hcounted : p.Counted s)
    (haccepted : s.fetches.auth.cache.slot.generation = p.failing + p.accepted)
    (hnever : s.fetches.auth.cache.slot.refreshAt = none)
    (hsupply : p.Supply s f event provider) {marks : List Broker.Mark}
    {authMarks : List Auth.Mark} {want : Option Want}
    (hturn : Turn s.fetches f event marks authMarks want b) : p.Smooth b f := by
  have hvalid := hcounted.tokens.valid_of_accepted haccepted
  cases hturn with
  | hit rejected now x hfetch hcall hfresh hauth hplace =>
      obtain ⟨rfl, -⟩ := h.looking hfetch
      have hx := (Auth.Slot.snapshot?_of_fresh? hfresh).1
      simp only [Smooth, hplace]
      rw [hcounted.tokens.generation_eq hx, haccepted]
  | miss rejected now hfetch hcall hfresh =>
      obtain ⟨x, hx, -⟩ := hcounted.tokens.fresh?_of_valid hnever hvalid now
      simp [hfresh] at hx
  | finish rejected x result hfetch hlast hauth hplace =>
      obtain ⟨image, rfl⟩ := h.ok_of_answer hcounted hsupply rfl
      simp only [Smooth, hplace]
      exact ⟨image, rfl⟩
  | retry x failure hfetch =>
      obtain ⟨image, himage⟩ := h.ok_of_answer hcounted hsupply rfl
      simp at himage
  -- A fetch that gets a context is looking for it, so it does not wait and does not refresh.
  | blocked rejected now seen hfetch hcall | share rejected now seen x hfetch hcall
  | fail rejected now seen failure hfetch hcall | again rejected now seen hfetch hcall =>
      simp [(h.looking hfetch).2] at hcall
  | lead rejected now hfetch hcall => simp [(h.looking hfetch).2] at hcall
  | publish rejected seen previous context now draw x hx hfetch hcall =>
      simp [(h.looking hfetch).2] at hcall
  | refuse rejected seen previous failure now draw hfetch hcall =>
      simp [(h.looking hfetch).2] at hcall

end Smooth

theorem precedes_run (p : Trial) (before after : List Serving.Event) :
    (p.run before).fetches.auth.cache.slot.Precedes
      (p.run (before ++ after)).fetches.auth.cache.slot := by
  rw [run, run, fetches_run_initial, fetches_run_initial, history_append,
    Broker.Fetches.auth_run, Broker.Fetches.auth_run, Broker.Fetches.authHistory_append]
  exact Auth.Calls.precedes_run _ _ _

/-- The cycle that published the accepted token was the last one. -/
theorem accepted_run (h : Undisturbed (before ++ after))
    (haccepted : (p.run before).fetches.auth.cache.slot.generation = p.failing + p.accepted) :
    (p.run (before ++ after)).fetches.auth.cache.slot.generation = p.failing + p.accepted ∧
      (p.run (before ++ after)).provider.preAuths = p.failing + p.accepted := by
  have hle := (p.precedes_run before after).generation_le
  have hcalls := (p.counted_run h).preAuths_eq
  have hbound := (p.counted_run h).preAuths_le
  rw [haccepted] at hle
  omega

theorem smooth_run (h : Undisturbed (before ++ after))
    (haccepted : (p.run before).fetches.auth.cache.slot.generation = p.failing + p.accepted)
    (habsent : (p.run before).fetches.fetch f = .absent) :
    p.Smooth (p.run (before ++ after)).fetches f := by
  induction after using List.reverseRecOn with
  | nil => simp [Smooth, habsent]
  | append_singleton after e ih =>
      rw [← List.append_assoc] at h ⊢
      have hsmooth := ih h.left
      have hcounted := p.counted_run h.left
      have hreached := p.reached_run (before ++ after)
      obtain ⟨past, hpast⟩ := hreached.course f
      have hstill := (accepted_run h.left haccepted).1
      rw [run_concat]
      have hmove : Move p.setup p.tile _ e _ _ _ := move_step (p.run (before ++ after)) e
      generalize brokerEvents _ _ e = brokerSteps, Serving.step _ _ _ e = t, asks _ _ e = asks
        at hmove ⊢
      have hother : ∀ event : Broker.Event, event.fetch? ≠ some f →
          p.Smooth ((p.run (before ++ after)).fetches.step event) f := by
        intro event hne
        have hstep := Broker.Fetches.move_step (p.run (before ++ after)).fetches event
        exact hsmooth.of_eq (hstep.fetch_eq_of_ne hne) (hstep.call_auth_eq_of_ne hne none)
      cases hmove with
      | idle => exact hsmooth
      | drop g | invalidate x => simpa using h _ (List.mem_append_right _ List.mem_cons_self)
      | start g =>
          by_cases hg : g = f
          · subst hg
            exact hsmooth.start hpast
          · exact hother _ (by simpa [Broker.Event.fetch?] using hg)
      | proceed g r _ event provider hoffer =>
          rw [fetches_proceed]
          by_cases hg : g = f
          · subst hg
            exact hsmooth.turn hcounted hstill hreached.refreshAt_eq
              (supply_of_offer hoffer (hreached.backed g))
              (hoffer.takesTurn (hreached.backed g) hpast)
          · apply hother
            rw [hoffer.fetch_eq]
            simpa using hg

end Trial

end TileFetch.Simulation
