import Mathlib.Logic.Relation
import TileFetch.Proofs.Serving.Effects

/-!
# Tasks that seek a context

In its turn a task lets its fetch look for a context and get the guard, until the fetch has to wait.
The fetch does not come further from its end in this way, and it refreshes only if the guard was
free before.
-/

namespace TileFetch.Simulation

open Broker (callOf)
open Relation (ReflTransGen)
open Time (Instant)

variable {π : Type}

inductive SeekStep (f : Nat) (s : Broker.Fetches) : Broker.Fetches → Prop where
  | look (rejected : Option Auth.Snapshot) (now : Instant) (hfetch : s.fetch f = .seeking rejected)
      (hcall : s.auth.call (callOf f rejected) = .looking) :
      SeekStep f s (s.step (.seek f (.look now)))
  | acquire (rejected : Option Auth.Snapshot) (seen : Nat) (now : Instant)
      (hfetch : s.fetch f = .seeking rejected)
      (hcall : s.auth.call (callOf f rejected) = .waiting seen) (hfree : s.auth.holder = none) :
      SeekStep f s (s.step (.seek f (.acquire now)))

theorem SeekStep.takesTurn {f : Nat} {s t : Broker.Fetches} (h : SeekStep f s t) :
    ∃ e marks authMarks, Turn s f e marks authMarks (wanted? t f) t := by
  cases h with
  | look rejected now hfetch hcall => exact ⟨_, _, _, Turn.look hfetch hcall now⟩
  | acquire rejected seen now hfetch hcall hfree =>
      exact ⟨_, _, _, Turn.acquire_free hfetch hcall hfree now⟩

theorem SeekStep.wanted?_eq {f : Nat} {s t : Broker.Fetches} (h : SeekStep f s t) :
    wanted? s f = none := by
  cases h with
  | look rejected now hfetch hcall | acquire rejected seen now hfetch hcall =>
      simp [wanted?, hfetch, hcall]

section Positions

variable {s : Broker.Fetches} {f : Nat}

theorem position_eq_looking (h : fetchSeeking.position s f = .looking) :
    ∃ rejected, s.fetch f = .seeking rejected ∧ s.auth.call (callOf f rejected) = .looking := by
  cases hfetch : s.fetch f with
  | seeking rejected =>
      cases hcall : s.auth.call (callOf f rejected) <;>
        simp [fetchSeeking, hfetch, hcall, Position.ofCall] at h ⊢
  | _ => simp [fetchSeeking, hfetch] at h

theorem position_eq_waiting (h : fetchSeeking.position s f = .waiting) : ∃ rejected seen,
    s.fetch f = .seeking rejected ∧ s.auth.call (callOf f rejected) = .waiting seen := by
  cases hfetch : s.fetch f with
  | seeking rejected =>
      cases hcall : s.auth.call (callOf f rejected) <;>
        simp [fetchSeeking, hfetch, hcall, Position.ofCall] at h ⊢
  | _ => simp [fetchSeeking, hfetch] at h

theorem position_eq_leading_iff {previous : Auth.Context} :
    fetchSeeking.position s f = .leading previous ↔ wanted? s f = some (.context previous) := by
  cases hfetch : s.fetch f with
  | seeking rejected =>
      cases hcall : s.auth.call (callOf f rejected) <;>
        simp [fetchSeeking, wanted?, hfetch, hcall, Position.ofCall]
  | _ => simp [fetchSeeking, wanted?, hfetch]

end Positions

/-- Until it waits, leads or is done, a task lets its fetch look for a context and get the free
guard. -/
theorem seeks_advance (f task fuel : Nat) (w : BrokerWorld π) :
    ReflTransGen (SeekStep f) w.machine (fetchSeeking.advance f task fuel w).machine ∧
      (fetchSeeking.advance f task fuel w).provider = w.provider := by
  induction fuel generalizing w with
  | zero => exact ⟨.refl, rfl⟩
  | succ fuel ih =>
      cases hposition : fetchSeeking.position w.machine f with
      | leading | ended =>
          simp only [Seeking.advance, hposition, and_true]
          exact .refl
      | looking =>
          obtain ⟨rejected, hfetch, hcall⟩ := position_eq_looking hposition
          simp only [Seeking.advance, hposition]
          obtain ⟨hseeks, hprovider⟩ := ih
            { w.now.2 with machine := fetchSeeking.step w.machine f (.look w.now.1) }
          exact ⟨.head (.look rejected w.now.1 hfetch hcall) hseeks, hprovider⟩
      | waiting =>
          obtain ⟨rejected, seen, hfetch, hcall⟩ := position_eq_waiting hposition
          simp only [Seeking.advance, hposition]
          split_ifs with hasleep hfree
          · exact ⟨.refl, rfl⟩
          · have hholder : w.machine.auth.holder = none := by simpa [fetchSeeking] using hfree
            have hacquire : (fetchSeeking.acquire f task w).machine =
                  w.machine.step (.seek f (.acquire w.now.1)) ∧
                (fetchSeeking.acquire f task w).provider = w.provider := by
              unfold Seeking.acquire
              dsimp only
              split <;> exact ⟨rfl, rfl⟩
            obtain ⟨hseeks, hprovider⟩ := ih (fetchSeeking.acquire f task w)
            rw [hacquire.1] at hseeks
            rw [hacquire.2] at hprovider
            exact ⟨.head (.acquire rejected seen _ hfetch hcall hholder) hseeks, hprovider⟩
          · exact ⟨.refl, rfl⟩

/-- How far a fetch is from its end: twice the number of things that it waits for at most. -/
def remaining : Broker.Fetch → Nat
  | .seeking none => 8
  | .generating none _ => 6
  | .seeking (some _) => 4
  | .generating (some _) _ => 2
  | _ => 0

namespace Turn

variable {s t : Broker.Fetches} {f : Nat} {e : Broker.Event} {marks : List Broker.Mark}
  {authMarks : List Auth.Mark} {want : Option Want}

theorem remaining_le (h : Turn s f e marks authMarks want t) :
    remaining (t.fetch f) ≤ remaining (s.fetch f) := by
  cases h with
  | miss rejected _ hfetch _ _ _ hplace => rw [hfetch, hplace]
  | blocked => exact le_rfl
  | again rejected _ _ hfetch _ _ _ _ _ _ hplace => rw [hfetch, hplace]
  | lead rejected _ hfetch _ _ _ hplace => rw [hfetch, hplace]
  | hit rejected _ _ hfetch _ _ _ hplace | share rejected _ _ _ hfetch _ _ _ _ _ hplace
  | fail rejected _ _ _ hfetch _ _ _ _ _ _ hplace | publish rejected _ _ _ _ _ _ _ hfetch _ _ hplace
  | refuse rejected _ _ _ _ _ hfetch _ _ hplace | finish rejected _ _ hfetch _ _ hplace =>
      rw [hfetch, hplace]
      cases rejected <;> simp [remaining]
  | retry _ _ hfetch _ _ _ hplace =>
      rw [hfetch, hplace]
      simp [remaining]

theorem remaining_lt (h : Turn s f e marks authMarks want t)
    (hlook : ∀ now, e ≠ .seek f (.look now)) (hacquire : ∀ now, e ≠ .seek f (.acquire now)) :
    remaining (t.fetch f) + 2 ≤ remaining (s.fetch f) ∧
      ∀ previous, want ≠ some (.context previous) := by
  cases h with
  | hit _ now | miss _ now => exact (hlook now rfl).elim
  | blocked _ now | share _ now | fail _ now | again _ now | lead _ now =>
      exact (hacquire now rfl).elim
  | publish rejected _ _ _ _ _ _ _ hfetch _ _ hplace | refuse rejected _ _ _ _ _ hfetch _ _ hplace
  | finish rejected _ _ hfetch _ _ hplace =>
      rw [hfetch, hplace]
      cases rejected <;> simp [remaining]
  | retry _ _ hfetch _ _ _ hplace =>
      rw [hfetch, hplace]
      simp [remaining]

theorem holder_of_context {previous : Auth.Context}
    (h : Turn s f e marks authMarks (some (.context previous)) t) : s.auth.holder = none := by
  cases h with
  | lead _ _ _ _ hfree => exact hfree

theorem holder_eq_of_look {now : Instant}
    (h : Turn s f (.seek f (.look now)) marks authMarks want t) :
    t.auth.holder = s.auth.holder ∧ ∀ previous, want ≠ some (.context previous) := by
  cases h with
  | hit _ _ _ _ _ _ hauth | miss _ _ _ _ _ hauth =>
      rw [hauth]
      exact ⟨rfl, by simp⟩

end Turn

theorem remaining_seeks {f : Nat} {s t : Broker.Fetches} (h : ReflTransGen (SeekStep f) s t) :
    remaining (t.fetch f) ≤ remaining (s.fetch f) := by
  induction h with
  | refl => exact le_rfl
  | tail _ hstep ih =>
      obtain ⟨_, _, _, hturn⟩ := hstep.takesTurn
      exact hturn.remaining_le.trans ih

/-- A fetch comes to refresh only if the guard was free before. -/
theorem holder_of_seeks {f : Nat} {s t : Broker.Fetches} (h : ReflTransGen (SeekStep f) s t)
    (hbefore : ∀ previous, wanted? s f ≠ some (.context previous)) {previous : Auth.Context}
    (hafter : wanted? t f = some (.context previous)) : s.auth.holder = none := by
  induction h using ReflTransGen.head_induction_on with
  | refl => exact (hbefore previous hafter).elim
  | head hstep _ ih =>
      cases hstep with
      | acquire rejected seen now hfetch hcall hfree => exact hfree
      | look rejected now hfetch hcall =>
          obtain ⟨hholder, hnot⟩ := Turn.holder_eq_of_look (Turn.look hfetch hcall now)
          rw [← hholder]
          exact ih hnot

end TileFetch.Simulation
