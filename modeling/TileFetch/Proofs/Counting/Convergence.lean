import TileFetch.Proofs.Counting.Alone
import TileFetch.Proofs.Counting.Published

/-!
# Fetches reach the accepted token

However fetches over a counting provider are interleaved, they authenticate no more often than it
takes to get the accepted token, and only that one is in their tiles.  Once it is published nothing
goes wrong any more.  Of fetches that run one after another, it is known which ones fail.
-/

namespace TileFetch.Simulation

namespace Trial

open Broker (callOf)
open Serving

/-! ## One fetch after another -/

/-- Fetch `f` starts and takes some turns, and nothing else happens. -/
def solo (f : Nat) (readings : List Reading) : List Serving.Event :=
  .start f :: readings.map (.turn f)

def inSequence (readings : Nat → List Reading) (count : Nat) : List Serving.Event :=
  (List.range count).flatMap fun f ↦ solo f (readings f)

def cyclesBefore (p : Trial) (count : Nat) : Nat :=
  if count ≤ p.failing then count
  else p.failing + min (count - p.failing + 1) p.accepted

theorem cyclesAfter_cyclesBefore (p : Trial) (count : Nat) :
    p.cyclesAfter (p.cyclesBefore count) = p.cyclesBefore (count + 1) := by
  simp only [cyclesAfter, cyclesBefore, firstAsk, accepted]
  split_ifs <;> omega

theorem inSequence_succ (readings : Nat → List Reading) (count : Nat) :
    inSequence readings (count + 1) =
      inSequence readings count ++ solo count (readings count) := by
  simp [inSequence, List.range_succ]

theorem undisturbed_solo (f : Nat) (readings : List Reading) : Undisturbed (solo f readings) := by
  intro e he
  rcases List.mem_cons.mp he with rfl | hturn
  · exact .inl ⟨f, rfl⟩
  · obtain ⟨r, -, rfl⟩ := List.mem_map.mp hturn
    exact .inr (.inl ⟨f, r, rfl⟩)

theorem Undisturbed.append {before after : List Serving.Event} (h : Undisturbed before)
    (h' : Undisturbed after) : Undisturbed (before ++ after) :=
  fun e he ↦ (List.mem_append.mp he).elim (h e) (h' e)

theorem undisturbed_inSequence (readings : Nat → List Reading) (count : Nat) :
    Undisturbed (inSequence readings count) := by
  induction count with
  | zero => simp [inSequence, Undisturbed]
  | succ count ih =>
      rw [inSequence_succ]
      exact ih.append (undisturbed_solo count (readings count))

variable {p : Trial} {f n : Nat} {events : List Serving.Event}
  {result : Except Broker.Fault Image}

theorem fetch_run_solo {g : Nat} (hg : g ≠ f) (readings : List Reading) :
    (p.run (events ++ solo f readings)).fetches.fetch g = (p.run events).fetches.fetch g := by
  induction readings using List.reverseRecOn with
  | nil =>
      rw [solo, List.map_nil, run_concat]
      exact (step_frame _ rfl hg).1
  | append_singleton readings r ih =>
      rw [solo, List.map_append, ← List.cons_append, ← solo, ← List.append_assoc,
        List.map_singleton, run_concat, (step_frame _ rfl hg).1, ih]

namespace Alone

theorem start {s : Serving Counts} (hs : p.Reached s) (hrest : p.Resting n s.fetches)
    (habsent : s.fetches.fetch f = .absent) :
    p.Alone f n (s.fetches.step (.start f)) 8 := by
  obtain ⟨past, hpast⟩ := hs.course f
  rw [habsent] at hpast
  have hcall := hpast.2 none
  obtain ⟨hcache, hholder, -⟩ := start_cases s.fetches f
  refine .looking ⟨?_, ?_, ?_⟩ ?_ ?_
  · rw [hholder]
    exact hrest.free
  · rw [hcache]
    exact hrest.generation_eq
  · rw [hcache]
    exact hrest.valid_of_lt
  · simp [Broker.Fetches.step, Broker.Fetches.start, habsent, Broker.Fetches.seek]
  · simp [Broker.Fetches.step, Broker.Fetches.start, habsent, Broker.Fetches.seek,
      Auth.Calls.start, hcall]

theorem turns {k : Nat} (h : p.Alone f n (p.run events).fetches k) (hevents : Undisturbed events)
    (readings : List Reading) : ∃ k' ≤ k - readings.length,
      p.Alone f n (p.run (events ++ readings.map (.turn f))).fetches k' := by
  induction readings using List.reverseRecOn with
  | nil => exact ⟨k, le_rfl, by rwa [List.map_nil, List.append_nil]⟩
  | append_singleton readings r ih =>
      obtain ⟨k', hk', halone⟩ := ih
      have hturns : Undisturbed (events ++ readings.map (.turn f)) := by
        apply hevents.append
        exact fun e he ↦ undisturbed_solo f readings e (List.mem_cons_of_mem _ he)
      obtain ⟨k'', hk'', hnext⟩ := halone.turn (p.reached_run _) (p.counted_run hturns) r
      rw [List.map_append, ← List.append_assoc, List.map_singleton, run_concat]
      refine ⟨k'', ?_, hnext⟩
      rw [List.length_append, List.length_singleton]
      omega

end Alone

theorem ended_of_solo (hevents : Undisturbed events) (hrest : p.Resting n (p.run events).fetches)
    (habsent : (p.run events).fetches.fetch f = .absent) {readings : List Reading}
    (hlength : 8 ≤ readings.length) :
    p.Resting (p.cyclesAfter n) (p.run (events ++ solo f readings)).fetches ∧
      ∃ result, (p.run (events ++ solo f readings)).fetches.fetch f = .done result ∧
        p.EndsWith n (p.tile f) result := by
  have hstart : p.Alone f n (p.run (events ++ [.start f])).fetches 8 := by
    rw [run_concat]
    exact .start (p.reached_run events) hrest habsent
  have hbegun : Undisturbed (events ++ [.start f]) := hevents.append (undisturbed_solo f [])
  obtain ⟨k, hk, halone⟩ := hstart.turns hbegun readings
  rw [List.append_assoc, List.singleton_append, ← solo] at halone
  obtain rfl : k = 0 := by omega
  cases halone with
  | ended result hrest hfetch hends => exact ⟨hrest, result, hfetch, hends⟩

theorem inSequence_ends (p : Trial) {readings : Nat → List Reading}
    (hlength : ∀ f, 8 ≤ (readings f).length) (count : Nat) :
    p.Resting (p.cyclesBefore count) (p.run (inSequence readings count)).fetches ∧
      (∀ f, count ≤ f → (p.run (inSequence readings count)).fetches.fetch f = .absent) ∧
      ∀ f < count, ∃ result, (p.run (inSequence readings count)).fetches.fetch f = .done result ∧
        p.EndsWith (p.cyclesBefore f) (p.tile f) result := by
  induction count with
  | zero =>
      refine ⟨⟨rfl, (if_pos (Nat.zero_le _)).symm, ?_⟩, fun f _ ↦ rfl,
        fun f hf ↦ (Nat.not_lt_zero f hf).elim⟩
      simp [cyclesBefore]
  | succ count ih =>
      obtain ⟨hrest, habsent, hdone⟩ := ih
      obtain ⟨hnext, hended⟩ := ended_of_solo (undisturbed_inSequence readings count) hrest
        (habsent count le_rfl) (hlength count)
      rw [inSequence_succ, ← cyclesAfter_cyclesBefore]
      refine ⟨hnext, fun f hf ↦ ?_, fun f hf ↦ ?_⟩
      · rw [fetch_run_solo (by omega)]
        exact habsent f (by omega)
      · by_cases hlast : f = count
        · subst hlast
          exact hended
        · rw [fetch_run_solo hlast]
          exact hdone f (by omega)

/-- The fate of the fetches of a sequence is that of fetch `f` alone after the others. -/
theorem EndsWith.of_sequence (h : p.EndsWith (p.cyclesBefore f) (p.tile f) result) :
    (f < p.failing → ∃ failure, result = .error (.refresh "counting" failure)) ∧
      (p.failing ≤ f → f < p.failing + (p.limit - 2) →
        ∃ failure, result = .error (.expired "counting" failure)) ∧
      (p.failing + (p.limit - 2) ≤ f →
        result = .ok (Counts.imageOf (max p.limit 1) (p.tile f))) := by
  cases h with
  | refresh failure hn =>
      simp only [cyclesBefore] at hn
      split_ifs at hn
      · exact ⟨fun _ ↦ ⟨failure, rfl⟩, by omega, by omega⟩
      · omega
  | expired failure hn hrejected =>
      simp only [cyclesBefore, firstAsk, accepted] at hn hrejected
      refine ⟨fun hf ↦ ?_, fun _ _ ↦ ⟨failure, rfl⟩, fun hf ↦ ?_⟩
      · split_ifs at hn hrejected <;> omega
      · split_ifs at hn hrejected <;> omega
  | image hn haccepted =>
      simp only [cyclesBefore, firstAsk, accepted] at hn haccepted
      refine ⟨fun hf ↦ ?_, fun _ hf ↦ ?_, fun _ ↦ rfl⟩
      · split_ifs at hn haccepted <;> omega
      · split_ifs at hn haccepted <;> omega

/-! ## All interleavings -/

theorem HoldsTokens.peek_eq {c : Auth.Cache} (h : p.HoldsTokens c) :
    c.peek.map (·.context.value) =
      if c.tally.successes = 0 then none else some (Counts.issue c.tally.successes) := by
  rw [h.successes_eq]
  by_cases hlate : p.failing < c.slot.generation
  · obtain ⟨x, hx, hgeneration⟩ := h.snapshot_of_lt hlate
    rw [Auth.Cache.peek, hx, if_neg (by omega), Option.map_some, (h.numbered x hx).2, hgeneration]
  · rw [Auth.Cache.peek, Auth.Slot.snapshot?, h.context_of_le (Nat.le_of_not_lt hlate),
      if_pos (by omega)]
    rfl

/-- The number of the published token tells the number of cycles. -/
theorem HoldsTokens.generation_of_issue {c : Auth.Cache} (h : p.HoldsTokens c) {x : Auth.Snapshot}
    (hx : c.peek = some x) (hvalue : x.context.value = Counts.issue n) :
    c.slot.generation = p.failing + n := by
  obtain ⟨hlate, hnumber⟩ := h.numbered x hx
  have hsame := congrArg Counts.numberOf (hnumber.symm.trans hvalue)
  rw [Counts.numberOf_issue, Counts.numberOf_issue, h.generation_eq hx] at hsame
  rw [h.generation_eq hx] at hlate
  omega

/-- However fetches are interleaved, they authenticate at most as often as it takes to get the
accepted token, the cache holds the token that was issued last, and a tile is made with the
accepted token.  Once that is published, no fetch authenticates, and none fails that starts later.
Of fetches that run one after another, some fail to authenticate first, then some are rejected
twice, and all the others get their tiles. -/
theorem fetches_converge (p : Trial) :
    (∀ events, Undisturbed events →
      let s := p.run events
      let issued := s.fetches.auth.cache.tally.successes
      s.provider.preAuths ≤ p.failing + max p.limit 1 ∧
      s.fetches.auth.cache.peek.map (·.context.value) =
        (if issued = 0 then none else some (Counts.issue issued)) ∧
      ∀ f image, s.fetches.fetch f = .done (.ok image) →
        image = Counts.imageOf (max p.limit 1) (p.tile f)) ∧
    (∀ before after, Undisturbed (before ++ after) →
      let s := p.run before
      let t := p.run (before ++ after)
      ∀ x, s.fetches.auth.cache.peek = some x →
        x.context.value = Counts.issue (max p.limit 1) →
        t.provider.preAuths = s.provider.preAuths ∧
        ∀ f, s.fetches.fetch f = .absent → ∀ fault, t.fetches.fetch f ≠ .done (.error fault)) ∧
    ∀ readings : Nat → List Reading, (∀ f, 8 ≤ (readings f).length) → ∀ count, ∀ f < count,
      ∃ result, (p.run (inSequence readings count)).fetches.fetch f = .done result ∧
        (f < p.failing → ∃ failure, result = .error (.refresh "counting" failure)) ∧
        (p.failing ≤ f → f < p.failing + (p.limit - 2) →
          ∃ failure, result = .error (.expired "counting" failure)) ∧
        (p.failing + (p.limit - 2) ≤ f →
          result = .ok (Counts.imageOf (max p.limit 1) (p.tile f))) := by
  refine ⟨fun events hevents ↦ ?_, fun before after hevents ↦ ?_,
    fun readings hlength count f hf ↦ ?_⟩
  · intro s issued
    have hcounted := p.counted_run hevents
    exact ⟨hcounted.preAuths_le, hcounted.tokens.peek_eq, hcounted.images⟩
  · intro s t x hx hvalue
    have hpast := p.counted_run hevents.left
    have haccepted : s.fetches.auth.cache.slot.generation = p.failing + p.accepted :=
      hpast.tokens.generation_of_issue hx hvalue
    constructor
    · have hcalls := (accepted_run hevents haccepted).2
      have hfinal : (p.run (before ++ [])).provider.preAuths = p.failing + p.accepted :=
        (accepted_run (by simpa using hevents.left) haccepted).2
      rw [List.append_nil] at hfinal
      rw [hcalls, hfinal]
    · intro f habsent fault hfailed
      have hsmooth := smooth_run hevents haccepted habsent
      simp only [Smooth] at hsmooth
      rw [hfailed] at hsmooth
      obtain ⟨image, himage⟩ := hsmooth
      simp at himage
  · obtain ⟨-, -, hdone⟩ := p.inSequence_ends hlength count
    obtain ⟨result, hfetch, hends⟩ := hdone f hf
    exact ⟨result, hfetch, hends.of_sequence⟩

def oneFailure : Trial where
  failing := 1
  limit := 2
  delay := 20
  env := .default
  policy := .reactive
  tile _ := ⟨⟨"roads", by decide⟩, 1, 0, 0⟩
  reactive := rfl
  inTime := by decide

def eightTurns (_ : Nat) : List Reading :=
  List.replicate 8 ⟨Auth.moment 0, Auth.moment 0, Auth.moment 0, 0⟩

def twoFetches : List Serving.Event :=
  inSequence eightTurns 2

theorem one_failure_then_tile :
    let s := oneFailure.run twoFetches
    s.provider.preAuths ≤ 3 ∧
      s.fetches.auth.cache.peek.map (·.context.value) = some (Counts.issue 2) ∧
      (∃ failure, s.fetches.fetch 0 = .done (.error (.refresh "counting" failure))) ∧
      s.fetches.fetch 1 = .done (.ok (Counts.imageOf 2 (oneFailure.tile 1))) ∧
      (oneFailure.run (twoFetches ++ [.start 2])).provider.preAuths = s.provider.preAuths := by
  intro s
  obtain ⟨hall, hlater, hsequence⟩ := fetches_converge oneFailure
  have hevents : Undisturbed twoFetches := undisturbed_inSequence _ 2
  obtain ⟨hcalls, hpeek, -⟩ := hall twoFetches hevents
  have hlength : ∀ f, 8 ≤ (eightTurns f).length := fun _ ↦ by simp [eightTurns]
  have hissued : s.fetches.auth.cache.tally.successes = 2 := by
    rw [(oneFailure.counted_run hevents).tokens.successes_eq, twoFetches,
      (oneFailure.inSequence_ends hlength 2).1.generation_eq]
    decide
  rw [hissued] at hpeek
  obtain ⟨x, hx, hvalue⟩ := Option.map_eq_some_iff.mp hpeek
  obtain ⟨hsame, -⟩ := hlater twoFetches [.start 2] (hevents.append (undisturbed_solo 2 [])) x hx
    hvalue
  obtain ⟨first, hfirst, hrefresh, -⟩ := hsequence eightTurns hlength 2 0 (by decide)
  obtain ⟨second, hsecond, -, -, himage⟩ := hsequence eightTurns hlength 2 1 (by decide)
  obtain ⟨failure, rfl⟩ := hrefresh (by decide)
  obtain rfl := himage (by decide)
  exact ⟨hcalls, hpeek, ⟨failure, hfirst⟩, hsecond, hsame⟩

end Trial

end TileFetch.Simulation
