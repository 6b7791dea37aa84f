import TileFetch.Proofs.Auth.Clock

/-!
# The call that refreshes

At most one call refreshes at a time: the one that holds the guard.  It began when the guard
was free and no cycle had ended since it found no context that it could use, and since then
only accepted reports have changed the slot.
-/

namespace TileFetch.Auth

open Time (Instant)

def Slot.afterReports (s : Slot) (accepted : List Nat) : Slot :=
  if accepted = [] then s else { s with phase := .stale }

namespace Slot

variable (s : Slot) (accepted : List Nat)

theorem afterReports_append (more : List Nat) :
    s.afterReports (accepted ++ more) = (s.afterReports accepted).afterReports more := by
  cases accepted <;> cases more <;> simp [afterReports]

@[simp] theorem generation_afterReports : (s.afterReports accepted).generation = s.generation := by
  unfold afterReports
  split <;> rfl

@[simp] theorem context_afterReports : (s.afterReports accepted).context = s.context := by
  unfold afterReports
  split <;> rfl

@[simp] theorem refreshing_afterReports : (s.afterReports accepted).refreshing = s.refreshing := by
  unfold afterReports
  split <;> rfl

theorem withFlag_afterReports (flag : Bool) :
    Slot.afterReports { s with refreshing := flag } accepted =
      { s.afterReports accepted with refreshing := flag } := by
  unfold afterReports
  split <;> rfl

@[simp] theorem fresh?_withFlag (flag : Bool) (now : Instant) :
    Slot.fresh? { s with refreshing := flag } now = s.fresh? now := rfl

theorem fresh?_afterReports {now : Instant} (h : s.fresh? now = none) :
    (s.afterReports accepted).fresh? now = none := by
  unfold afterReports
  split
  · exact h
  · rfl

end Slot

namespace Calls

variable {s t : Calls} {log : List Mark} {e : Event} {m : Option Mark} {c seen : Nat}
  {previous : Context}

def Refreshes (s : Calls) (c : Nat) : Prop :=
  ∃ seen previous, s.call c = .leading seen previous

theorem Consistent.holder_eq (h : s.Consistent log) (hc : s.Refreshes c) : s.holder = some c :=
  (h.holder_eq_some_iff c).mpr hc

theorem Consistent.eq_of_refreshes (h : s.Consistent log) {d : Nat} (hc : s.Refreshes c)
    (hd : s.Refreshes d) : c = d :=
  Option.some.inj ((h.holder_eq hc).symm.trans (h.holder_eq hd))

theorem Consistent.not_refreshes (h : s.Consistent log) (hfree : s.holder = none) (c : Nat) :
    ¬ s.Refreshes c := by
  intro hc
  simp [h.holder_eq hc] at hfree

theorem Move.refreshes_of_ended (h : s.Move e m t) {outcome : Outcome}
    (hm : m = some (.ended c outcome)) : s.Refreshes c := by
  subst hm
  cases h with
  | settle c result now draw seen previous hcall => exact ⟨seen, previous, hcall⟩

/-! ## The flag -/

@[simp] theorem refreshing_invalidate (c : Cache) (snapshot : Snapshot) :
    (c.invalidate snapshot).slot.refreshing = c.slot.refreshing := by
  unfold Cache.invalidate
  split <;> rfl

theorem Move.refreshing_eq (h : s.Move e m t)
    (hs : s.cache.slot.refreshing = s.holder.isSome) :
    t.cache.slot.refreshing = t.holder.isSome := by
  cases h with
  | settle c result => cases result <;> rfl
  | lead | giveUp => rfl
  | accept => simpa using hs
  | _ => exact hs

/-- The slot shows a refresh in flight exactly while the guard is held. -/
theorem refreshing_run (policy : Policy) (events : List Event) :
    ((initial policy).run events).cache.slot.refreshing =
      ((initial policy).run events).holder.isSome := by
  induction events using List.reverseRecOn with
  | nil => rfl
  | append_singleton events e ih =>
      rw [run_concat]
      exact (move_step _ e).refreshing_eq ih

/-! ## Since the refresh began -/

theorem Move.of_leading (h : s.Move e m t) (hcall : t.call c = .leading seen previous) :
    s.call c = .leading seen previous ∨
      ∃ now, e = .step c (.acquire now) ∧ m = some (.invoked c previous) ∧
        s.call c = .waiting seen ∧ s.holder = none ∧ s.cache.slot.generation = seen ∧
        s.cache.slot.previous = previous ∧ t = s.lead c seen := by
  by_cases hsame : s.call c = .leading seen previous
  · exact .inl hsame
  · right
    have hne : t.call c ≠ s.call c := by
      rw [hcall]
      exact Ne.symm hsame
    obtain ⟨mark, hmark, hc⟩ := h.exists_mark hne
    cases h with
    | idle => simp at hmark
    | accept => exact (hne rfl).elim
    | lead d now read hwaiting hfree hseen =>
        obtain rfl := Option.mem_some_iff.mp hmark
        obtain rfl := Option.some.inj hc
        obtain ⟨rfl, hprevious⟩ : read = seen ∧ s.cache.slot.previous = previous := by
          simpa [Calls.lead] using hcall
        exact ⟨now, rfl, by rw [hprevious], hwaiting, hfree, hseen, hprevious, rfl⟩
    | _ =>
        obtain rfl := Option.mem_some_iff.mp hmark
        obtain rfl := Option.some.inj hc
        simp [conclude, Calls.giveUp] at hcall

/-- While a call refreshes, a step changes the slot only if it accepts a report. -/
theorem Consistent.slot_of_leading (h : s.Consistent log) (hmove : s.Move e m t)
    (hs : s.call c = .leading seen previous) (ht : t.call c = .leading seen previous) :
    t.cache.slot = s.cache.slot.afterReports (acceptances m.toList) ∧ cycles m.toList = [] := by
  have hholder := h.holder_eq ⟨seen, previous, hs⟩
  cases hmove with
  | lead d now read hcall hfree => simp [hholder] at hfree
  | settle d result now draw read before hcall | giveUp d read before hcall =>
      obtain rfl := h.eq_of_refreshes ⟨seen, previous, hs⟩ ⟨read, before, hcall⟩
      simp [conclude, Calls.giveUp] at ht
  | accept snapshot haccepts =>
      simp [Cache.invalidate, haccepts, Slot.afterReports, Mark.accepted?, Mark.cycle?]
  | _ => exact ⟨rfl, rfl⟩

/-- A refresh in flight began when its call got the guard.  Since then the slot has changed only
by the flag and by accepted reports. -/
theorem exists_beginning (policy : Policy) (events : List Event)
    (hcall : ((initial policy).run events).call c = .leading seen previous) :
    ∃ before now during, events = before ++ .step c (.acquire now) :: during ∧
      ((initial policy).run before).mark? (.step c (.acquire now)) = some (.invoked c previous) ∧
      ((initial policy).run before).call c = .waiting seen ∧
      ((initial policy).run before).holder = none ∧
      ((initial policy).run before).cache.slot.generation = seen ∧
      ((initial policy).run before).cache.slot.previous = previous ∧
      ((initial policy).run events).cache.slot =
        { ((initial policy).run before).cache.slot.afterReports
            (acceptances (((initial policy).run before).log
              (.step c (.acquire now) :: during))) with refreshing := true } := by
  induction events using List.reverseRecOn with
  | nil => simp [initial] at hcall
  | append_singleton events e ih =>
      have h := consistent_run policy events
      have hmove := move_step ((initial policy).run events) e
      rw [run_concat] at hcall ⊢
      rcases hmove.of_leading hcall with hsame |
        ⟨now, rfl, hmark, hwaiting, hfree, hseen, hprevious, hlead⟩
      · obtain ⟨before, now, during, rfl, hmark, hwaiting, hfree, hseen, hprevious, hslot⟩ :=
          ih hsame
        refine ⟨before, now, during ++ [e], by simp, hmark, hwaiting, hfree, hseen, hprevious, ?_⟩
        rw [(h.slot_of_leading hmove hsame hcall).1, hslot, Slot.withFlag_afterReports,
          ← Slot.afterReports_append, ← List.cons_append, log_concat, acceptances_append,
          ← run_append]
      · refine ⟨events, now, [], rfl, hmark, hwaiting, hfree, hseen, hprevious, ?_⟩
        rw [hlead, log, hmark]
        rfl

/-- A call that refreshes remembers the generation of the slot, and refreshes its context. -/
theorem slot_of_refreshing (policy : Policy) (events : List Event)
    (hcall : ((initial policy).run events).call c = .leading seen previous) :
    ((initial policy).run events).cache.slot.generation = seen ∧
      ((initial policy).run events).cache.slot.previous = previous := by
  obtain ⟨before, now, during, -, -, -, -, hseen, hprevious, hslot⟩ :=
    exists_beginning policy events hcall
  rw [hslot]
  exact ⟨by simpa using hseen, by simpa [Slot.previous] using hprevious⟩

/-- A call that refreshes found no context that it could use, and there is none since. -/
theorem exists_fresh?_eq_none_of_refreshes (policy : Policy) (events : List Event)
    (h : ((initial policy).run events).Refreshes c) :
    ∃ earlier ∈ times events,
      ((initial policy).run events).cache.slot.fresh? earlier = none := by
  obtain ⟨seen, previous, hcall⟩ := h
  obtain ⟨before, now, during, rfl, -, hwaiting, -, hseen, -, hslot⟩ :=
    exists_beginning policy events hcall
  obtain ⟨earlier, hmem, hnone⟩ :=
    exists_fresh?_eq_none policy before c (hseen.symm ▸ hwaiting)
  refine ⟨earlier, mem_times_append hmem _, ?_⟩
  rw [hslot, Slot.fresh?_withFlag]
  exact Slot.fresh?_afterReports _ _ hnone

end Calls

end TileFetch.Auth
