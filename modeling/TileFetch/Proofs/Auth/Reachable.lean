import TileFetch.Proofs.Auth.SlotInvariant

/-!
# Reachable states

In every state that a run reaches the slot is a view of the log, the guard is held by the
call that refreshes, and the place of every call fits what the log says about it.  One step
keeps this, so a run keeps it.
-/

namespace TileFetch.Auth

/-- What the log says about a call in some place.  A waiting call remembers a number of
cycles that had ended after it began: all later ones have ended since it began. -/
def Call.Fits (c : Nat) (log : List Mark) : Call → Prop
  | .absent => c ∉ invocations log
  | .looking => .began c ∈ log ∧ c ∉ invocations log
  | .waiting seen =>
      .began c ∈ log ∧ c ∉ invocations log ∧ seen ≤ (cycles log).length ∧
        (cycles log).length ≤ seen + (cycles (since c log)).length
  | .leading _ _ => .began c ∈ log ∧ (invocations log).count c = 1
  | .done outcome => ∀ snapshot, outcome = .ok snapshot → .ok snapshot ∈ cycles log
  | .dropped => True

namespace Calls

/-- The state of a cache and its calls agrees with the log of the run that led to it. -/
structure Consistent (s : Calls) (log : List Mark) : Prop where
  slot : s.cache.slot.Reflects (cycles log) (acceptances log)
  holder_eq_some_iff : ∀ c, s.holder = some c ↔
    ∃ seen previous, s.call c = .leading seen previous
  fits : ∀ c, (s.call c).Fits c log

end Calls

/-! ## Marks about other calls -/

theorem invoked?_ne {m : Mark} {c : Nat} (h : m.call? ≠ some c) : m.invoked? ≠ some c := by
  cases m <;> simp_all [Mark.call?, Mark.invoked?]

theorem count_invocations_concat {m : Mark} {c : Nat} (h : m.call? ≠ some c)
    (log : List Mark) : (invocations (log ++ [m])).count c = (invocations log).count c := by
  have hne := invoked?_ne h
  cases hm : m.invoked? with
  | none => simp [hm]
  | some d =>
      have hd : d ≠ c := by
        rintro rfl
        exact hne hm
      simp [hm, hd]

theorem mem_invocations_concat {m : Mark} {c : Nat} (h : m.call? ≠ some c)
    (log : List Mark) : c ∈ invocations (log ++ [m]) ↔ c ∈ invocations log := by
  rw [← List.count_pos_iff, count_invocations_concat h, List.count_pos_iff]

theorem Call.Fits.concat {c : Nat} {log : List Mark} {x : Call} (h : x.Fits c log) {m : Mark}
    (hm : m.call? ≠ some c) : x.Fits c (log ++ [m]) := by
  cases x with
  | absent => exact mt (mem_invocations_concat hm log).mp h
  | looking =>
      exact ⟨List.mem_append_left _ h.1, mt (mem_invocations_concat hm log).mp h.2⟩
  | waiting seen =>
      obtain ⟨hbegan, hinvoked, hle, hsince⟩ := h
      refine ⟨List.mem_append_left _ hbegan, mt (mem_invocations_concat hm log).mp hinvoked,
        ?_, ?_⟩
      · simp only [cycles_append, List.length_append]
        omega
      · simp only [since_append hbegan, cycles_append, List.length_append]
        omega
  | leading seen previous =>
      exact ⟨List.mem_append_left _ h.1, (count_invocations_concat hm log).trans h.2⟩
  | done outcome =>
      intro snapshot hs
      rw [cycles_append]
      exact List.mem_append_left _ (h snapshot hs)
  | dropped => trivial

namespace Calls

variable {s t : Calls} {log : List Mark} {e : Event} {m : Option Mark}

theorem fits_place {s : Calls} (h : ∀ d, (s.call d).Fits d log) {c : Nat} {x : Call}
    {m : Mark} (hm : m.call? = some c) (hx : x.Fits c (log ++ [m])) (d : Nat) :
    ((s.place c x).call d).Fits d (log ++ [m]) := by
  by_cases hd : d = c
  · subst hd
    simpa using hx
  · rw [call_place_of_ne _ hd]
    apply (h d).concat
    rw [hm]
    intro heq
    exact hd (Option.some.inj heq).symm

theorem Consistent.fits_move (h : s.Consistent log) (hmove : s.Move e m t) (d : Nat) :
    (t.call d).Fits d (log ++ m.toList) := by
  cases hmove with
  | idle => simpa using h.fits d
  | start c hcall =>
      have hc : c ∉ invocations log := by simpa [hcall, Call.Fits] using h.fits c
      apply fits_place h.fits rfl
      exact ⟨by simp, by simpa [Mark.invoked?] using hc⟩
  | hit c now snapshot hcall hfresh =>
      apply fits_place h.fits rfl
      rintro _ ⟨⟩
      rw [cycles_append]
      exact List.mem_append_left _ (h.slot.ok_mem (Slot.snapshot?_of_fresh? hfresh).1)
  | miss c now hcall hfresh =>
      obtain ⟨hbegan, hinvoked⟩ : .began c ∈ log ∧ c ∉ invocations log := by
        simpa [hcall, Call.Fits] using h.fits c
      apply fits_place h.fits rfl
      refine ⟨List.mem_append_left _ hbegan, ?_, ?_, ?_⟩
      · simpa [Mark.invoked?] using hinvoked
      · simp [h.slot.generation_eq, Mark.cycle?]
      · simp [h.slot.generation_eq, Mark.cycle?]
  | share c now seen snapshot hcall hfree hseen hcontext =>
      apply fits_place h.fits rfl
      rintro _ ⟨⟩
      have hs : s.cache.slot.snapshot? = some snapshot := by
        rcases Option.or_eq_some_iff.mp hcontext with hfresh | ⟨-, hlatest⟩
        · exact (Slot.snapshot?_of_fresh? hfresh).1
        · exact (Slot.snapshot?_of_latest? hlatest).1
      rw [cycles_append]
      exact List.mem_append_left _ (h.slot.ok_mem hs)
  | fail c =>
      apply fits_place h.fits rfl
      rintro _ ⟨⟩
  | again c now seen hcall =>
      obtain ⟨hbegan, hinvoked, -⟩ : (Call.waiting seen).Fits c log := hcall ▸ h.fits c
      apply fits_place h.fits rfl
      refine ⟨List.mem_append_left _ hbegan, ?_⟩
      simpa [Mark.invoked?] using hinvoked
  | lead c now seen hcall =>
      obtain ⟨hbegan, hinvoked, -⟩ : (Call.waiting seen).Fits c log := hcall ▸ h.fits c
      have hcount := List.count_eq_zero_of_not_mem hinvoked
      apply fits_place h.fits rfl
      refine ⟨List.mem_append_left _ hbegan, ?_⟩
      simp [hcount, Mark.invoked?]
  | settle c result =>
      apply fits_place h.fits rfl
      intro snapshot hs
      simp [hs, Mark.cycle?]
  | leave c | giveUp c =>
      apply fits_place h.fits rfl
      trivial
  | accept snapshot => exact (h.fits d).concat (by simp [Mark.call?])

theorem holder_place_iff {s : Calls}
    (h : ∀ d, s.holder = some d ↔ ∃ seen previous, s.call d = .leading seen previous)
    {c : Nat} {x : Call} (hc : ∀ seen previous, s.call c ≠ .leading seen previous)
    (hx : ∀ seen previous, x ≠ .leading seen previous) (d : Nat) :
    (s.place c x).holder = some d ↔
      ∃ seen previous, (s.place c x).call d = .leading seen previous := by
  rw [holder_place, h d]
  by_cases hd : d = c
  · subst hd
    simp [hc, hx]
  · rw [call_place_of_ne _ hd]

/-- The guard passes to the call that begins to refresh, and is free once it ends or is
dropped. -/
theorem Consistent.holder_move (h : s.Consistent log) (hmove : s.Move e m t) (d : Nat) :
    t.holder = some d ↔ ∃ seen previous, t.call d = .leading seen previous := by
  have hholder := h.holder_eq_some_iff
  cases hmove with
  | idle => exact hholder d
  | accept => exact hholder d
  | lead c now seen hcall hfree =>
      by_cases hd : d = c
      · subst hd
        simp [Calls.lead]
      · have hother : ¬ ∃ seen previous, s.call d = .leading seen previous := by
          rw [← hholder d, hfree]
          simp
        have hcd : c ≠ d := fun heq ↦ hd heq.symm
        simpa [Calls.lead, place, hd, hcd] using hother
  | settle c result now draw seen previous hcall | giveUp c seen previous hcall =>
      have hc : s.holder = some c := (hholder c).mpr ⟨seen, previous, hcall⟩
      by_cases hd : d = c
      · subst hd
        simp [conclude, Calls.giveUp]
      · have hother : ¬ ∃ seen previous, s.call d = .leading seen previous := by
          rw [← hholder d, hc]
          intro heq
          exact hd (Option.some.inj heq).symm
        simpa [conclude, Calls.giveUp, place, hd] using hother
  | leave c hcall =>
      apply holder_place_iff hholder
      · rcases hcall with hcall | ⟨seen, hcall⟩ <;> simp [hcall]
      · simp
  | start c hcall | hit c now snapshot hcall | miss c now hcall | share c now seen snapshot hcall
  | fail c now seen failure hcall | again c now seen hcall =>
      apply holder_place_iff hholder <;> simp [hcall]

theorem Consistent.slot_move (h : s.Consistent log) (hmove : s.Move e m t) :
    t.cache.slot.Reflects (cycles (log ++ m.toList)) (acceptances (log ++ m.toList)) := by
  rw [cycles_append, acceptances_append]
  rcases hmove.slot_cases with ⟨flag, hslot, hcycles, haccepted⟩ |
    ⟨c, result, now, draw, hcache, rfl⟩ | ⟨snapshot, haccepts, hcache, rfl⟩
  · rw [hslot, hcycles, haccepted, List.append_nil, List.append_nil]
    exact h.slot.withFlag flag
  · rw [hcache]
    simpa [Mark.cycle?, Mark.accepted?] using h.slot.settle result now draw
  · rw [hcache]
    simpa [Mark.cycle?, Mark.accepted?] using h.slot.invalidate haccepts

theorem Consistent.move (h : s.Consistent log) (hmove : s.Move e m t) :
    t.Consistent (log ++ m.toList) where
  slot := h.slot_move hmove
  holder_eq_some_iff := h.holder_move hmove
  fits := h.fits_move hmove

theorem Consistent.run (h : s.Consistent log) (events : List Event) :
    (s.run events).Consistent (log ++ s.log events) := by
  induction events generalizing s log with
  | nil => simpa using h
  | cons e events ih =>
      rw [run_cons, Calls.log, ← List.append_assoc]
      exact ih (h.move (move_step s e))

theorem consistent_initial (policy : Policy) : (initial policy).Consistent [] where
  slot := Slot.reflects_empty
  holder_eq_some_iff := by simp [initial]
  fits := by simp [initial, Call.Fits]

theorem consistent_run (policy : Policy) (events : List Event) :
    ((initial policy).run events).Consistent ((initial policy).log events) :=
  (consistent_initial policy).run events

theorem Consistent.precedes_move (h : s.Consistent log) (hmove : s.Move e m t) :
    s.cache.slot.Precedes t.cache.slot := by
  rcases hmove.slot_cases with ⟨flag, hslot, -⟩ | ⟨c, result, now, draw, hcache, -⟩ |
    ⟨snapshot, -, hcache, -⟩
  · rw [hslot]
    exact Slot.precedes_withFlag _ flag
  · rw [hcache]
    exact Slot.precedes_settle h.slot.follows.contextGeneration_le result now draw
  · rw [hcache]
    exact Slot.precedes_invalidate _ snapshot

theorem precedes_run (policy : Policy) (before after : List Event) :
    ((initial policy).run before).cache.slot.Precedes
      ((initial policy).run (before ++ after)).cache.slot := by
  induction after using List.reverseRecOn with
  | nil =>
      rw [List.append_nil]
      exact .refl _
  | append_singleton after e ih =>
      rw [← List.append_assoc, run_concat]
      exact ih.trans ((consistent_run policy _).precedes_move (move_step _ e))

end Calls

end TileFetch.Auth
