import TileFetch.Proofs.Auth.Leader

/-!
# The failure that a cycle leaves

A cycle that fails leaves its failure for the calls that waited when it ended.  It is theirs until
another cycle ends, however late they get the guard, unless the old context can be used again.
-/

namespace TileFetch.Auth

open Time (Instant)

theorem Slot.Follows.contextGeneration_lt {s : Slot} {last : Option Outcome} (h : s.Follows last)
    (hfailed : s.lastFailure ≠ none) : s.contextGeneration < s.generation := by
  match last, h with
  | none, h => exact (hfailed h.2).elim
  | some (.ok _), h => exact (hfailed h.2.2).elim
  | some (.error _), h => exact h.2

namespace Calls

variable {s : Calls} {e : Event} {c : Nat}

theorem Consistent.seen_le {log : List Mark} (h : s.Consistent log) {seen : Nat}
    (hcall : s.call c = .waiting seen) : seen ≤ s.cache.slot.generation := by
  have hfits := h.fits c
  rw [hcall] at hfits
  rw [h.slot.generation_eq]
  exact hfits.2.2.1

theorem generation_le_step (s : Calls) (e : Event) :
    s.cache.slot.generation ≤ (s.step e).cache.slot.generation := by
  rcases (move_step s e).slot_cases with ⟨flag, hslot, -⟩ | ⟨_, result, now, draw, hcache, -⟩ |
    ⟨snapshot, haccepts, hcache, -⟩
  · rw [hslot]
  · rw [hcache]
    cases result <;> simp [Cache.settle, Cache.publish, Cache.reject]
  · rw [hcache]
    simp [Cache.invalidate, haccepts]

theorem generation_le_run (s : Calls) (events : List Event) :
    s.cache.slot.generation ≤ (s.run events).cache.slot.generation := by
  induction events generalizing s with
  | nil => exact le_rfl
  | cons e events ih => exact (generation_le_step s e).trans (ih _)

theorem lastFailure_step (h : (s.step e).cache.slot.generation = s.cache.slot.generation) :
    (s.step e).cache.slot.lastFailure = s.cache.slot.lastFailure := by
  rcases (move_step s e).slot_cases with ⟨flag, hslot, -⟩ | ⟨_, result, now, draw, hcache, -⟩ |
    ⟨snapshot, haccepts, hcache, -⟩
  · rw [hslot]
  · rw [hcache] at h
    cases result <;> simp [Cache.settle, Cache.publish, Cache.reject] at h
  · rw [hcache]
    simp [Cache.invalidate, haccepts]

/-- Until another cycle ends the failure stays, and no context can be used that could not be. -/
theorem failure_run {events : List Event}
    (h : (s.run events).cache.slot.generation = s.cache.slot.generation) :
    (s.run events).cache.slot.lastFailure = s.cache.slot.lastFailure ∧
      ∀ now, s.cache.slot.fresh? now = none → (s.run events).cache.slot.fresh? now = none := by
  induction events generalizing s with
  | nil => exact ⟨rfl, fun _ ↦ id⟩
  | cons e events ih =>
      rw [run_cons] at h ⊢
      have hstep : (s.step e).cache.slot.generation = s.cache.slot.generation :=
        le_antisymm (h ▸ generation_le_run _ events) (generation_le_step s e)
      obtain ⟨hfailure, hnone⟩ := ih (h.trans hstep.symm)
      exact ⟨hfailure.trans (lastFailure_step hstep),
        fun now hnow ↦ hnone now ((move_step s e).fresh?_eq_none hstep hnow)⟩

theorem Consistent.latest?_eq_none {log : List Mark} (h : s.Consistent log)
    (hfailed : s.cache.slot.latestFailure? ≠ none) : s.cache.slot.latest? = none := by
  obtain ⟨failure, hfailed⟩ := Option.ne_none_iff_exists'.mp hfailed
  have hlast := Slot.latestFailure?_eq_some_iff.mp hfailed
  cases hsome : s.cache.slot.latest? with
  | none => rfl
  | some snapshot =>
      obtain ⟨-, hgeneration, -⟩ := Slot.snapshot?_of_latest? hsome
      have hlt := h.slot.follows.contextGeneration_lt (by simp [hlast])
      omega

end Calls

end TileFetch.Auth
