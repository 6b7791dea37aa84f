import TileFetch.Proofs.Auth.History

/-!
# What a step can do

A step of a cache and its calls changes something in one of eleven ways, or nothing at all.
`move_step` says so once, with the mark that the step leaves; what a step keeps is proved by
a look at these ways, and what a run keeps follows by induction.
-/

namespace TileFetch.Auth

open Time (Instant)

namespace Calls

@[simp] theorem cache_place (s : Calls) (c : Nat) (x : Call) : (s.place c x).cache = s.cache :=
  rfl

@[simp] theorem holder_place (s : Calls) (c : Nat) (x : Call) :
    (s.place c x).holder = s.holder :=
  rfl

@[simp] theorem call_place_self (s : Calls) (c : Nat) (x : Call) :
    (s.place c x).call c = x := by
  simp [place]

theorem call_place_of_ne (s : Calls) {c d : Nat} (h : d ≠ c) (x : Call) :
    (s.place c x).call d = s.call d := by
  simp [place, h]

def lead (s : Calls) (c seen : Nat) : Calls :=
  { s with cache := s.cache.beginRefresh, holder := some c }.place c
    (.leading seen s.cache.slot.previous)

def conclude (s : Calls) (c : Nat) (result : Except Provider.Failure Context)
    (now : Instant) (draw : Nat) : Calls :=
  { s with cache := s.cache.settle result now draw, holder := none }.place c
    (.done (s.cache.settled result))

def giveUp (s : Calls) (c : Nat) : Calls :=
  { s with cache := s.cache.abandon, holder := none, abandoned := s.abandoned + 1 }.place c
    .dropped

/-- The ways in which a step changes something, each with its mark; `idle` is for the steps
that change nothing. -/
inductive Move (s : Calls) : Event → Option Mark → Calls → Prop where
  | idle (e : Event) : Move s e none s
  | start (c : Nat) (h : s.call c = .absent) :
      Move s (.start c) (some (.began c)) (s.place c .looking)
  | hit (c : Nat) (now : Instant) (snapshot : Snapshot) (h : s.call c = .looking)
      (hfresh : s.cache.slot.fresh? now = some snapshot) :
      Move s (.step c (.look now)) (some (.returned c (.ok snapshot)))
        (s.place c (.done (.ok snapshot)))
  | miss (c : Nat) (now : Instant) (h : s.call c = .looking)
      (hfresh : s.cache.slot.fresh? now = none) :
      Move s (.step c (.look now)) (some (.missed c s.cache.slot.generation))
        (s.place c (.waiting s.cache.slot.generation))
  | share (c : Nat) (now : Instant) (seen : Nat) (snapshot : Snapshot)
      (h : s.call c = .waiting seen) (hfree : s.holder = none)
      (hseen : s.cache.slot.generation ≠ seen)
      (hcontext : (s.cache.slot.fresh? now).or s.cache.slot.latest? = some snapshot) :
      Move s (.step c (.acquire now)) (some (.returned c (.ok snapshot)))
        (s.place c (.done (.ok snapshot)))
  | fail (c : Nat) (now : Instant) (seen : Nat) (failure : Handle Provider.Failure)
      (h : s.call c = .waiting seen) (hfree : s.holder = none)
      (hseen : s.cache.slot.generation ≠ seen)
      (hcontext : (s.cache.slot.fresh? now).or s.cache.slot.latest? = none)
      (hfailure : s.cache.slot.latestFailure? = some failure) :
      Move s (.step c (.acquire now)) (some (.returned c (.error failure)))
        (s.place c (.done (.error failure)))
  | again (c : Nat) (now : Instant) (seen : Nat)
      (h : s.call c = .waiting seen) (hfree : s.holder = none)
      (hseen : s.cache.slot.generation ≠ seen)
      (hcontext : (s.cache.slot.fresh? now).or s.cache.slot.latest? = none)
      (hfailure : s.cache.slot.latestFailure? = none) :
      Move s (.step c (.acquire now)) (some (.retried c)) (s.place c .looking)
  | lead (c : Nat) (now : Instant) (seen : Nat) (h : s.call c = .waiting seen)
      (hfree : s.holder = none) (hseen : s.cache.slot.generation = seen) :
      Move s (.step c (.acquire now)) (some (.invoked c s.cache.slot.previous))
        (s.lead c seen)
  | settle (c : Nat) (result : Except Provider.Failure Context) (now : Instant)
      (draw seen : Nat) (previous : Context) (h : s.call c = .leading seen previous) :
      Move s (.step c (.settle result now draw)) (some (.ended c (s.cache.settled result)))
        (s.conclude c result now draw)
  | leave (c : Nat) (h : s.call c = .looking ∨ ∃ seen, s.call c = .waiting seen) :
      Move s (.drop c) (some (.left c)) (s.place c .dropped)
  | giveUp (c seen : Nat) (previous : Context) (h : s.call c = .leading seen previous) :
      Move s (.drop c) (some (.gaveUp c)) (s.giveUp c)
  | accept (snapshot : Snapshot) (h : s.cache.accepts snapshot = true) :
      Move s (.invalidate snapshot) (some (.accepted snapshot.generation))
        { s with cache := s.cache.invalidate snapshot }

theorem ofMove?_self (c : Nat) (x : Call) : Mark.ofMove? c x x = none := by
  cases x <;> rfl

theorem move_of_step_eq (s : Calls) (e : Event) (hcall : e.call? ≠ none) (h : s.step e = s) :
    s.Move e (s.mark? e) (s.step e) := by
  have hmark : s.mark? e = none := by
    cases e with
    | start c =>
        have hstart : s.start c = s := h
        simp [mark?, hstart, ofMove?_self]
    | step c e =>
        have hstep : s.stepCall c e = s := h
        simp [mark?, hstep, ofMove?_self]
    | drop c =>
        have hdrop : s.drop c = s := h
        simp [mark?, hdrop, ofMove?_self]
    | invalidate snapshot => exact (hcall rfl).elim
  rw [hmark, h]
  exact .idle e

theorem move_start (s : Calls) (c : Nat) :
    s.Move (.start c) (s.mark? (.start c)) (s.start c) := by
  cases h : s.call c with
  | absent =>
      have hstart : s.start c = s.place c .looking := by simp [start, h]
      have hmark : s.mark? (.start c) = some (.began c) := by
        simp [mark?, hstart, h, Mark.ofMove?]
      rw [hmark, hstart]
      exact .start c h
  | _ => exact s.move_of_step_eq (.start c) (by simp [Event.call?]) (by simp [step, start, h])

theorem move_look (s : Calls) (c : Nat) (now : Instant) :
    s.Move (.step c (.look now)) (s.mark? (.step c (.look now))) (s.look c now) := by
  cases h : s.call c with
  | looking =>
      cases hfresh : s.cache.slot.fresh? now with
      | some snapshot =>
          have hlook : s.look c now = s.place c (.done (.ok snapshot)) := by
            simp [look, h, hfresh]
          have hmark : s.mark? (.step c (.look now)) = some (.returned c (.ok snapshot)) := by
            simp [mark?, stepCall, hlook, h, Mark.ofMove?]
          rw [hmark, hlook]
          exact .hit c now snapshot h hfresh
      | none =>
          have hlook : s.look c now = s.place c (.waiting s.cache.slot.generation) := by
            simp [look, h, hfresh]
          have hmark : s.mark? (.step c (.look now)) =
              some (.missed c s.cache.slot.generation) := by
            simp [mark?, stepCall, hlook, h, Mark.ofMove?]
          rw [hmark, hlook]
          exact .miss c now h hfresh
  | _ =>
      exact s.move_of_step_eq (.step c (.look now)) (by simp [Event.call?])
        (by simp [step, stepCall, look, h])

theorem move_turn (s : Calls) (c : Nat) (now : Instant) (seen : Nat)
    (h : s.call c = .waiting seen) (hfree : s.holder = none) :
    s.Move (.step c (.acquire now)) (s.mark? (.step c (.acquire now))) (s.acquire c now) := by
  by_cases hseen : s.cache.slot.generation = seen
  · have hacquire : s.acquire c now = s.lead c seen := by
      simp [acquire, h, hfree, Cache.turn, hseen, Calls.lead]
    have hmark : s.mark? (.step c (.acquire now)) =
        some (.invoked c s.cache.slot.previous) := by
      simp [mark?, stepCall, hacquire, h, Mark.ofMove?, Calls.lead]
    rw [hmark, hacquire]
    exact .lead c now seen h hfree hseen
  · cases hcontext : (s.cache.slot.fresh? now).or s.cache.slot.latest? with
    | some snapshot =>
        have hacquire : s.acquire c now = s.place c (.done (.ok snapshot)) := by
          simp [acquire, h, hfree, Cache.turn, hseen, hcontext]
        have hmark : s.mark? (.step c (.acquire now)) =
            some (.returned c (.ok snapshot)) := by
          simp [mark?, stepCall, hacquire, h, Mark.ofMove?]
        rw [hmark, hacquire]
        exact .share c now seen snapshot h hfree hseen hcontext
    | none =>
        cases hfailure : s.cache.slot.latestFailure? with
        | some failure =>
            have hacquire : s.acquire c now = s.place c (.done (.error failure)) := by
              simp [acquire, h, hfree, Cache.turn, hseen, hcontext, hfailure]
            have hmark : s.mark? (.step c (.acquire now)) =
                some (.returned c (.error failure)) := by
              simp [mark?, stepCall, hacquire, h, Mark.ofMove?]
            rw [hmark, hacquire]
            exact .fail c now seen failure h hfree hseen hcontext hfailure
        | none =>
            have hacquire : s.acquire c now = s.place c .looking := by
              simp [acquire, h, hfree, Cache.turn, hseen, hcontext, hfailure]
            have hmark : s.mark? (.step c (.acquire now)) = some (.retried c) := by
              simp [mark?, stepCall, hacquire, h, Mark.ofMove?]
            rw [hmark, hacquire]
            exact .again c now seen h hfree hseen hcontext hfailure

theorem move_acquire (s : Calls) (c : Nat) (now : Instant) :
    s.Move (.step c (.acquire now)) (s.mark? (.step c (.acquire now))) (s.acquire c now) := by
  cases h : s.call c with
  | waiting seen =>
      cases hholder : s.holder with
      | none => exact s.move_turn c now seen h hholder
      | some d =>
          exact s.move_of_step_eq (.step c (.acquire now)) (by simp [Event.call?])
            (by simp [step, stepCall, acquire, h, hholder])
  | _ =>
      exact s.move_of_step_eq (.step c (.acquire now)) (by simp [Event.call?])
        (by simp [step, stepCall, acquire, h])

theorem move_settle (s : Calls) (c : Nat) (result : Except Provider.Failure Context)
    (now : Instant) (draw : Nat) :
    s.Move (.step c (.settle result now draw)) (s.mark? (.step c (.settle result now draw)))
      (s.settle c result now draw) := by
  cases h : s.call c with
  | leading seen previous =>
      have hsettle : s.settle c result now draw = s.conclude c result now draw := by
        simp [settle, h, conclude]
      have hmark : s.mark? (.step c (.settle result now draw)) =
          some (.ended c (s.cache.settled result)) := by
        simp [mark?, stepCall, hsettle, h, Mark.ofMove?, conclude]
      rw [hmark, hsettle]
      exact .settle c result now draw seen previous h
  | _ =>
      exact s.move_of_step_eq (.step c (.settle result now draw)) (by simp [Event.call?])
        (by simp [step, stepCall, settle, h])

theorem move_drop (s : Calls) (c : Nat) :
    s.Move (.drop c) (s.mark? (.drop c)) (s.drop c) := by
  cases h : s.call c with
  | looking =>
      have hdrop : s.drop c = s.place c .dropped := by simp [drop, h]
      have hmark : s.mark? (.drop c) = some (.left c) := by
        simp [mark?, hdrop, h, Mark.ofMove?]
      rw [hmark, hdrop]
      exact .leave c (.inl h)
  | waiting seen =>
      have hdrop : s.drop c = s.place c .dropped := by simp [drop, h]
      have hmark : s.mark? (.drop c) = some (.left c) := by
        simp [mark?, hdrop, h, Mark.ofMove?]
      rw [hmark, hdrop]
      exact .leave c (.inr ⟨seen, h⟩)
  | leading seen previous =>
      have hdrop : s.drop c = s.giveUp c := by simp [drop, h, Calls.giveUp]
      have hmark : s.mark? (.drop c) = some (.gaveUp c) := by
        simp [mark?, hdrop, h, Mark.ofMove?, Calls.giveUp]
      rw [hmark, hdrop]
      exact .giveUp c seen previous h
  | _ => exact s.move_of_step_eq (.drop c) (by simp [Event.call?]) (by simp [step, drop, h])

theorem move_invalidate (s : Calls) (snapshot : Snapshot) :
    s.Move (.invalidate snapshot) (s.mark? (.invalidate snapshot))
      { s with cache := s.cache.invalidate snapshot } := by
  cases h : s.cache.accepts snapshot with
  | true =>
      have hmark : s.mark? (.invalidate snapshot) = some (.accepted snapshot.generation) := by
        simp [mark?, h]
      rw [hmark]
      exact .accept snapshot h
  | false =>
      have hmark : s.mark? (.invalidate snapshot) = none := by simp [mark?, h]
      have hcache : s.cache.invalidate snapshot = s.cache := by simp [Cache.invalidate, h]
      rw [hmark, hcache]
      exact .idle _

theorem move_step (s : Calls) (e : Event) : s.Move e (s.mark? e) (s.step e) := by
  cases e with
  | start c => exact s.move_start c
  | step c e =>
      cases e with
      | look now => exact s.move_look c now
      | acquire now => exact s.move_acquire c now
      | settle result now draw => exact s.move_settle c result now draw
  | drop c => exact s.move_drop c
  | invalidate snapshot => exact s.move_invalidate snapshot

/-! ## Consequences -/

variable {s t : Calls} {e : Event} {m : Option Mark}

/-- A step moves only the call that its mark is about. -/
theorem Move.call_eq (h : s.Move e m t) {d : Nat} (hd : ∀ mark ∈ m, mark.call? ≠ some d) :
    t.call d = s.call d := by
  cases h with
  | idle => rfl
  | accept => rfl
  | lead c | settle c | giveUp c =>
      have hne : d ≠ c := by
        rintro rfl
        exact hd _ rfl rfl
      exact call_place_of_ne _ hne _
  | _ =>
      apply call_place_of_ne
      rintro rfl
      exact hd _ rfl rfl

theorem Move.exists_mark (h : s.Move e m t) {c : Nat} (hne : t.call c ≠ s.call c) :
    ∃ mark ∈ m, mark.call? = some c := by
  by_contra hnone
  push Not at hnone
  exact hne (h.call_eq hnone)

theorem Move.call?_mark (h : s.Move e m t) : ∀ mark ∈ m, mark.call? = e.call? := by
  intro mark hmark
  cases h with
  | idle => simp at hmark
  | _ =>
      obtain rfl := Option.mem_some_iff.mp hmark
      rfl

theorem Move.call_eq_of_ne (h : s.Move e m t) {d : Nat} (hd : e.call? ≠ some d) :
    t.call d = s.call d := by
  apply h.call_eq
  intro mark hmark
  rw [h.call?_mark mark hmark]
  exact hd

theorem call_run_of_ne (s : Calls) (events : List Event) {d : Nat}
    (h : ∀ e ∈ events, e.call? ≠ some d) : (s.run events).call d = s.call d := by
  induction events generalizing s with
  | nil => rfl
  | cons e events ih =>
      have hrest := ih (s.step e) fun e' he' ↦ h e' (List.mem_cons_of_mem e he')
      exact hrest.trans ((move_step s e).call_eq_of_ne (h e List.mem_cons_self))

/-- A call that has returned, or was dropped, takes no more steps. -/
theorem Move.call_eq_of_over (h : s.Move e m t) {c : Nat}
    (hover : s.call c = .dropped ∨ ∃ outcome, s.call c = .done outcome) :
    t.call c = s.call c := by
  by_contra hne
  obtain ⟨mark, hmark, hc⟩ := h.exists_mark hne
  cases h with
  | idle => simp at hmark
  | accept => exact hne rfl
  | _ =>
      obtain rfl := Option.mem_some_iff.mp hmark
      obtain rfl := Option.some.inj hc
      rcases hover with hdropped | ⟨outcome, hdone⟩ <;> simp_all

theorem call_run_of_over (s : Calls) (events : List Event) {c : Nat}
    (hover : s.call c = .dropped ∨ ∃ outcome, s.call c = .done outcome) :
    (s.run events).call c = s.call c := by
  induction events generalizing s with
  | nil => rfl
  | cons e events ih =>
      have hsame := (move_step s e).call_eq_of_over hover
      rw [run_cons, ih (s.step e) (hsame ▸ hover), hsame]

/-- A step changes the slot in one of three ways: it sets the flag at most, it ends a cycle,
or it accepts a report. -/
theorem Move.slot_cases (h : s.Move e m t) :
    (∃ flag, t.cache.slot = { s.cache.slot with refreshing := flag } ∧
      cycles m.toList = [] ∧ acceptances m.toList = []) ∨
    (∃ c result now draw, t.cache = s.cache.settle result now draw ∧
      m = some (.ended c (s.cache.settled result))) ∨
    (∃ snapshot, s.cache.accepts snapshot = true ∧ t.cache = s.cache.invalidate snapshot ∧
      m = some (.accepted snapshot.generation)) := by
  cases h with
  | settle c result now draw => exact .inr (.inl ⟨c, result, now, draw, rfl, rfl⟩)
  | accept snapshot haccepts => exact .inr (.inr ⟨snapshot, haccepts, rfl, rfl⟩)
  | lead => exact .inl ⟨true, rfl, rfl, rfl⟩
  | giveUp => exact .inl ⟨false, rfl, rfl, rfl⟩
  | _ => exact .inl ⟨s.cache.slot.refreshing, rfl, rfl, rfl⟩

end Calls

end TileFetch.Auth
