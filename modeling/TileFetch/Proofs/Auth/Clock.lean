import TileFetch.Proofs.Auth.Reachable

/-!
# The wall clock

Whether a context can be used depends on the wall clock.  If the clock is not set back, then
a context that could not be used cannot be used later, until a cycle publishes another one.
-/

namespace TileFetch.Auth

open Time (Instant)

def times (events : List Event) : List Instant :=
  events.filterMap Event.time?

def ClockForward (events : List Event) : Prop :=
  (times events).Pairwise fun earlier later ↦ earlier.notAfter later = true

@[simp] theorem times_append (events more : List Event) :
    times (events ++ more) = times events ++ times more :=
  List.filterMap_append

theorem times_singleton (e : Event) : times [e] = e.time?.toList := by
  cases h : e.time? <;> simp [times, h]

theorem mem_times_append {events : List Event} {earlier : Instant}
    (h : earlier ∈ times events) (more : List Event) : earlier ∈ times (events ++ more) := by
  rw [times_append]
  exact List.mem_append_left _ h

theorem ClockForward.of_append {events more : List Event} (h : ClockForward (events ++ more)) :
    ClockForward events := by
  rw [ClockForward, times_append] at h
  exact (List.pairwise_append.mp h).1

theorem ClockForward.notAfter {events : List Event} {e : Event} (h : ClockForward (events ++ [e]))
    {earlier now : Instant} (hearlier : earlier ∈ times events) (hnow : e.time? = some now) :
    earlier.notAfter now = true := by
  rw [ClockForward, times_append, times_singleton, hnow] at h
  exact (List.pairwise_append.mp h).2.2 earlier hearlier now (by simp)

/-! ## Contexts that cannot be used -/

theorem Slot.fresh?_eq_none_of_notAfter {s : Slot} {earlier now : Instant}
    (h : s.fresh? earlier = none) (hle : earlier.notAfter now = true) :
    s.fresh? now = none := by
  cases hphase : s.phase with
  | bypassed => simpa [fresh?, hphase] using h
  | valid =>
      cases hcontext : s.snapshot? with
      | none => simp [fresh?, hphase, hcontext]
      | some snapshot =>
          have hdue : s.isDue earlier = true := by
            cases hd : s.isDue earlier with
            | true => rfl
            | false => simp [fresh?, hphase, hcontext, hd] at h
          obtain ⟨at', hat, hreached⟩ : ∃ at', s.refreshAt = some at' ∧
              at'.notAfter earlier = true := by
            simpa [isDue, Option.any_eq_true] using hdue
          have hlater : at'.notAfter now = true := by
            simp only [Instant.notAfter, decide_eq_true_eq] at hreached hle ⊢
            exact hreached.trans hle
          simp [fresh?, hphase, isDue, hat, hlater]
  | _ => simp [fresh?, hphase]

namespace Calls

variable {s t : Calls} {log : List Mark} {e : Event} {m : Option Mark}

/-- What a step does to a context that cannot be used, as long as no cycle ends. -/
theorem Move.fresh?_eq_none (h : s.Move e m t)
    (hgeneration : t.cache.slot.generation = s.cache.slot.generation) {now : Instant}
    (hnone : s.cache.slot.fresh? now = none) : t.cache.slot.fresh? now = none := by
  rcases h.slot_cases with ⟨flag, hslot, -⟩ | ⟨c, result, ended, draw, hcache, -⟩ |
    ⟨snapshot, haccepts, hcache, -⟩
  · rw [hslot]
    exact hnone
  · rw [hcache] at hgeneration
    cases result <;> simp [Cache.settle, Cache.publish, Cache.reject] at hgeneration
  · rw [hcache]
    simp [Cache.invalidate, haccepts, Slot.fresh?]

/-- A call that waits did so before, or it has just looked and found no context it could use. -/
theorem Move.of_waiting (h : s.Move e m t) {c seen : Nat} (hcall : t.call c = .waiting seen) :
    s.call c = .waiting seen ∨
      ∃ now, e = .step c (.look now) ∧ m = some (.missed c seen) ∧ s.call c = .looking ∧
        s.cache.slot.fresh? now = none ∧ s.cache.slot.generation = seen ∧
        t = s.place c (.waiting seen) := by
  by_cases hsame : s.call c = .waiting seen
  · exact .inl hsame
  · right
    have hne : t.call c ≠ s.call c := by
      rw [hcall]
      exact Ne.symm hsame
    obtain ⟨mark, hmark, hc⟩ := h.exists_mark hne
    cases h with
    | idle => simp at hmark
    | accept => exact (hne rfl).elim
    | miss d now hlooking hfresh =>
        obtain rfl := Option.mem_some_iff.mp hmark
        obtain rfl := Option.some.inj hc
        obtain rfl : s.cache.slot.generation = seen := by simpa using hcall
        exact ⟨now, rfl, rfl, hlooking, hfresh, rfl, rfl⟩
    | _ =>
        obtain rfl := Option.mem_some_iff.mp hmark
        obtain rfl := Option.some.inj hc
        simp [Calls.lead, conclude, Calls.giveUp] at hcall

/-- A call that waits, and has seen the last cycle, found no context it could use. -/
theorem exists_fresh?_eq_none (policy : Policy) (events : List Event) (c : Nat)
    (hcall : ((initial policy).run events).call c =
      .waiting ((initial policy).run events).cache.slot.generation) :
    ∃ earlier ∈ times events,
      ((initial policy).run events).cache.slot.fresh? earlier = none := by
  induction events using List.reverseRecOn with
  | nil => simp [initial] at hcall
  | append_singleton events e ih =>
      have h := consistent_run policy events
      rw [run_concat] at hcall ⊢
      generalize (initial policy).run events = s at h hcall ih
      have hmove := move_step s e
      rcases hmove.of_waiting hcall with hwaiting | ⟨now, rfl, -, -, hnone, -, hplace⟩
      · -- A call that waited before has seen the last cycle already, so none has ended since.
        have hfits := h.fits c
        rw [hwaiting] at hfits
        have hgeneration : (s.step e).cache.slot.generation = s.cache.slot.generation := by
          have hle := (h.precedes_move hmove).generation_le
          have hseen := hfits.2.2.1
          have hcount := h.slot.generation_eq
          omega
        obtain ⟨earlier, hmem, hnone⟩ := ih (hgeneration ▸ hwaiting)
        exact ⟨earlier, mem_times_append hmem [e], hmove.fresh?_eq_none hgeneration hnone⟩
      · refine ⟨now, by simp [times_append, times_singleton, Event.time?], ?_⟩
        rw [hplace]
        exact hnone

end Calls

end TileFetch.Auth
