import TileFetch.Proofs.Auth.Reachable

/-!
# The law of the slot

In every reachable state of a cache the fields of the slot agree with each other, and with
the cycle that ended last.  Along a run generations never decrease and a context, once there
is one, is never lost; the generation of a snapshot that was handed out identifies its
context for good.

Generations are natural numbers here.  As `generation_eq` counts the cycles that have ended,
counters of 64 bits hold the same numbers for as long as fewer than 2 ^ 64 cycles end.
-/

namespace TileFetch.Auth

structure Slot.Lawful (s : Slot) : Prop where
  phase_eq_uninitialized_iff : s.phase = .uninitialized ↔ s.context = none
  context_eq_none_iff : s.context = none ↔ s.contextGeneration = 0
  phase_eq_bypassed_iff : s.phase = .bypassed ↔
    ∃ context, s.context = some context ∧ context.value.bypass = true
  refreshAt_eq_none : s.phase = .bypassed → s.refreshAt = none
  contextGeneration_le : s.contextGeneration ≤ s.generation
  latest : 0 < s.generation →
    Xor (s.contextGeneration = s.generation ∧ s.lastFailure = none)
      ((∃ failure, s.lastFailure = some (s.generation, failure)) ∧
        s.contextGeneration < s.generation)

/-- A snapshot is handed out in a run: at some moment it could be looked up, or a call had
returned it. -/
def Calls.HandedOut (policy : Policy) (events : List Event) (snapshot : Snapshot) : Prop :=
  ∃ past, past <+: events ∧
    (((initial policy).run past).cache.peek = some snapshot ∨
      ∃ c, ((initial policy).run past).call c = .done (.ok snapshot))

theorem Slot.Reflects.lawful {s : Slot} {outcomes : List Outcome} {reported : List Nat}
    (h : s.Reflects outcomes reported) : s.Lawful where
  phase_eq_uninitialized_iff := h.phase_eq_uninitialized_iff
  context_eq_none_iff := h.context_eq_none_iff
  phase_eq_bypassed_iff := by
    rw [h.phase_eq_bypassed_iff]
    cases hcontext : s.context <;> simp [snapshot?, hcontext, Snapshot.isBypassed]
  refreshAt_eq_none := h.refreshAt_eq_none
  contextGeneration_le := h.follows.contextGeneration_le
  latest := by
    intro hpos
    have hfollows := h.follows
    cases hlast : outcomes.getLast? with
    | none =>
        have hempty : outcomes = [] := List.getLast?_eq_none_iff.mp hlast
        have hzero := h.generation_eq
        simp [hempty] at hzero
        omega
    | some outcome =>
        rw [hlast] at hfollows
        cases outcome with
        | ok snapshot =>
            obtain ⟨-, hgeneration, hfailure⟩ := hfollows
            refine .inl ⟨⟨hgeneration, hfailure⟩, ?_⟩
            rintro ⟨-, hlt⟩
            omega
        | error failure =>
            obtain ⟨hfailure, hlt⟩ := hfollows
            refine .inr ⟨⟨⟨failure, hfailure⟩, hlt⟩, ?_⟩
            rintro ⟨heq, -⟩
            omega

namespace Calls

theorem log_prefix (s : Calls) {past events : List Event} (h : past <+: events) :
    s.log past <+: s.log events := by
  obtain ⟨rest, rfl⟩ := h
  exact ⟨_, (s.log_append past rest).symm⟩

theorem HandedOut.ok_mem {policy : Policy} {events : List Event} {snapshot : Snapshot}
    (h : HandedOut policy events snapshot) :
    .ok snapshot ∈ cycles ((initial policy).log events) := by
  obtain ⟨past, hpast, hout⟩ := h
  have hconsistent := consistent_run policy past
  have hmem : .ok snapshot ∈ cycles ((initial policy).log past) := by
    rcases hout with hpeek | ⟨c, hcall⟩
    · exact hconsistent.slot.ok_mem hpeek
    · have hfits := hconsistent.fits c
      rw [hcall] at hfits
      exact hfits snapshot rfl
  obtain ⟨rest, hrest⟩ := log_prefix (initial policy) hpast
  rw [← hrest, cycles_append]
  exact List.mem_append_left _ hmem

/-- The slot is lawful in every reachable state, its generation counts the cycles that have
ended, and it shows the outcome of the last one; generations never decrease, a context is
never lost, and snapshots with one generation share one context. -/
theorem slot_lawful_along_runs (policy : Policy) (before after : List Event) :
    let earlier := ((initial policy).run before).cache.slot
    let slot := ((initial policy).run (before ++ after)).cache.slot
    let outcomes := cycles ((initial policy).log (before ++ after))
    slot.Lawful ∧ slot.generation = outcomes.length ∧ slot.Follows outcomes.getLast? ∧
      earlier.generation ≤ slot.generation ∧
      earlier.contextGeneration ≤ slot.contextGeneration ∧
      ((∃ snapshot, .ok snapshot ∈ cycles ((initial policy).log before)) →
        slot.phase ≠ .uninitialized) ∧
      ∀ x y, HandedOut policy (before ++ after) x → HandedOut policy (before ++ after) y →
        x.generation = y.generation → x.context = y.context := by
  intro earlier slot outcomes
  have hslot := (consistent_run policy (before ++ after)).slot
  have hprecedes := precedes_run policy before after
  refine ⟨hslot.lawful, hslot.generation_eq, hslot.follows, hprecedes.generation_le,
    hprecedes.contextGeneration_le, ?_, ?_⟩
  · rintro ⟨snapshot, hmem⟩
    have hearlier := (consistent_run policy before).slot
    apply hprecedes.initialized
    rw [Ne, hearlier.phase_eq_uninitialized_iff, hearlier.context_eq_none_iff]
    have hle := hearlier.generation_le snapshot hmem
    obtain ⟨i, hi⟩ := List.getElem?_of_mem hmem
    have hpos := hearlier.numbered i snapshot hi
    omega
  · intro x y hx hy hxy
    rw [hslot.eq_of_generation_eq hx.ok_mem hy.ok_mem hxy]

end Calls

end TileFetch.Auth
