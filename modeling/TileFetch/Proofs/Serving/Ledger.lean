import TileFetch.Proofs.Broker.Telemetry
import TileFetch.Proofs.Serving.Turns

/-!
# What fetches ask the provider for

What a fetch asks the provider for is seen in the logs of its broker and of the cache.  It asks
for its tile at most twice and for a context at most twice, and for nothing once it has ended.
What the cycles of the cache come to is what the provider, or the time limit, made of them.
-/

namespace TileFetch.Simulation

open Broker (callOf)

theorem callOf_div (f : Nat) (rejected : Option Auth.Snapshot) : callOf f rejected / 2 = f := by
  unfold callOf
  split_ifs <;> omega

namespace Want

def tile? : Want → Option Auth.Context
  | .tile own => some own
  | .context _ => none

def previous? : Want → Option Auth.Context
  | .tile _ => none
  | .context previous => some previous

end Want

def tilesAsked (f : Nat) (log : List Ask) : List Auth.Context :=
  log.filterMap fun a ↦ if a.fetch = f then a.want.tile? else none

def contextsAsked (f : Nat) (log : List Ask) : List Auth.Context :=
  log.filterMap fun a ↦ if a.fetch = f then a.want.previous? else none

@[simp] theorem tilesAsked_append (f : Nat) (log more : List Ask) :
    tilesAsked f (log ++ more) = tilesAsked f log ++ tilesAsked f more :=
  List.filterMap_append

@[simp] theorem contextsAsked_append (f : Nat) (log more : List Ask) :
    contextsAsked f (log ++ more) = contextsAsked f log ++ contextsAsked f more :=
  List.filterMap_append

/-! ## Steps that are no turns -/

/-- No refresh begins and no cycle ends. -/
def Idle (authLog : List Auth.Mark) : Prop :=
  Auth.invocations authLog = [] ∧ Auth.cycles authLog = []

theorem idle_log (s : Auth.Calls) {events : List Auth.Event}
    (h : ∀ e ∈ events, ∀ c step, e ≠ .step c step) : Idle (s.log events) := by
  induction events generalizing s with
  | nil => exact ⟨rfl, rfl⟩
  | cons e events ih =>
      obtain ⟨hinvocations, hcycles⟩ := ih (s.step e) fun e' he' ↦ h e' (List.mem_cons_of_mem e he')
      have hmove := s.move_step e
      have hnone : Auth.invocations (s.mark? e).toList = [] ∧
          Auth.cycles (s.mark? e).toList = [] := by
        have hne := h e List.mem_cons_self
        generalize s.mark? e = mark, s.step e = t at hmove
        cases hmove <;> simp_all [Auth.Mark.invoked?, Auth.Mark.cycle?]
      constructor
      · rw [Auth.Calls.log, Auth.invocations_append, hnone.1, hinvocations, List.nil_append]
      · rw [Auth.Calls.log, Auth.cycles_append, hnone.2, hcycles, List.nil_append]

/-! ## Turns -/

namespace Turn

variable {s t : Broker.Fetches} {f : Nat} {e : Broker.Event} {marks : List Broker.Mark}
  {authMarks : List Auth.Mark} {want : Option Want}

theorem asked_eq (h : Turn s f e marks authMarks want t) :
    (Broker.asked f marks).map (·.context.value) = (want.bind Want.tile?).toList := by
  cases h with
  | publish rejected seen previous context now draw snapshot hsnapshot =>
      simp [Broker.Mark.asked?, Want.tile?, hsnapshot]
  | _ => simp [Broker.Mark.asked?, Want.tile?]

theorem fetch_mark (h : Turn s f e marks authMarks want t) : ∀ m ∈ marks, m.fetch = f := by
  cases h <;> simp [Broker.Mark.fetch]

theorem invocations_eq (h : Turn s f e marks authMarks want t) :
    (Auth.invocations authMarks).map (· / 2) =
      (want.bind Want.previous?).toList.map fun _ ↦ f := by
  cases h with
  | retry snapshot =>
      cases haccepts : s.auth.cache.accepts snapshot <;>
        simp [Auth.Calls.mark?, haccepts, Auth.Mark.invoked?, Auth.invocations]
  | _ => simp [Auth.Mark.invoked?, Want.previous?, callOf_div]

end Turn

namespace Serving

variable {π : Type} {setup : Setup π} {tile : Nat → TileRequest} {s t : Serving π} {f g : Nat}
  {r : Reading} {e : Event} {event : Broker.Event} {events : List Broker.Event} {asks : List Ask}
  {provider : π}

theorem tilesAsked_asksAfter (s : Serving π) (f : Nat) (asked : Time.Instant)
    (event : Broker.Event) : tilesAsked g (s.asksAfter f asked event) =
      if f = g then ((wanted? (s.fetches.step event) f).bind Want.tile?).toList else [] := by
  unfold asksAfter
  generalize wanted? (s.fetches.step event) f = want
  by_cases hf : f = g
  · rcases want with - | ⟨own | own⟩ <;> simp [tilesAsked, hf, Want.tile?]
  · simp [tilesAsked, hf]

theorem contextsAsked_asksAfter (s : Serving π) (f : Nat) (asked : Time.Instant)
    (event : Broker.Event) : contextsAsked g (s.asksAfter f asked event) =
      if f = g then ((wanted? (s.fetches.step event) f).bind Want.previous?).toList else [] := by
  unfold asksAfter
  generalize wanted? (s.fetches.step event) f = want
  by_cases hf : f = g
  · rcases want with - | ⟨own | own⟩ <;> simp [contextsAsked, hf, Want.previous?]
  · simp [contextsAsked, hf]

/-- What the logs say of a step of the broker that is no turn: nothing is asked for, no refresh
begins and no cycle ends. -/
theorem idle_start (s : Broker.Fetches) (f : Nat) :
    s.marks (.start f) = [] ∧ Idle (s.authLog [.start f]) := by
  refine ⟨rfl, ?_⟩
  rw [Broker.Fetches.authLog_singleton]
  apply idle_log
  cases hfetch : s.fetch f <;> simp [Broker.Fetches.authEvents, hfetch]

theorem idle_drop (s : Broker.Fetches) (f : Nat) :
    s.marks (.drop f) = [] ∧ Idle (s.authLog [.drop f]) := by
  refine ⟨rfl, ?_⟩
  rw [Broker.Fetches.authLog_singleton]
  apply idle_log
  cases hfetch : s.fetch f <;> simp [Broker.Fetches.authEvents, hfetch]

theorem idle_invalidate (s : Broker.Fetches) (snapshot : Auth.Snapshot) :
    s.marks (.invalidate snapshot) = [] ∧ Idle (s.authLog [.invalidate snapshot]) := by
  refine ⟨rfl, ?_⟩
  rw [Broker.Fetches.authLog_singleton]
  apply idle_log
  simp [Broker.Fetches.authEvents]

/-- What a fetch asks for in a step, as the logs of the broker and of the cache show it. -/
structure Agrees (g : Nat) (asks : List Ask) (marks : List Broker.Mark)
    (authMarks : List Auth.Mark) : Prop where
  tiles : tilesAsked g asks = (Broker.asked g marks).map (·.context.value)
  contexts : (contextsAsked g asks).length =
    (Broker.Fetches.refreshesOf g authMarks).length

theorem Agrees.append {asks more : List Ask} {marks moreMarks : List Broker.Mark}
    {authMarks moreAuthMarks : List Auth.Mark} (h : Agrees g asks marks authMarks)
    (h' : Agrees g more moreMarks moreAuthMarks) :
    Agrees g (asks ++ more) (marks ++ moreMarks) (authMarks ++ moreAuthMarks) where
  tiles := by simp [h.tiles, h'.tiles]
  contexts := by
    have hcontexts := h.contexts
    have hmore := h'.contexts
    simp only [Broker.Fetches.refreshesOf] at hcontexts hmore ⊢
    simp [hcontexts, hmore]

theorem agrees_nil : Agrees g [] [] [] := ⟨rfl, rfl⟩

theorem agrees_of_idle {marks : List Broker.Mark} {authMarks : List Auth.Mark}
    (h : marks = [] ∧ Idle authMarks) : Agrees g [] marks authMarks where
  tiles := by simp [h.1, tilesAsked]
  contexts := by simp [Broker.Fetches.refreshesOf, h.2.1, contextsAsked]

theorem length_refreshesOf (g : Nat) (authMarks : List Auth.Mark) :
    (Broker.Fetches.refreshesOf g authMarks).length =
      ((Auth.invocations authMarks).map (· / 2)).count g := by
  rw [Broker.Fetches.refreshesOf, List.count, List.countP_map, ← List.countP_eq_length_filter]
  apply List.countP_congr
  intro c _
  simp

/-- In its turn a fetch asks for what the marks of the turn say. -/
theorem agrees_turn (h : TakesTurn s.fetches f event) (asked : Time.Instant) :
    Agrees g (s.asksAfter f asked event) (s.fetches.marks event) (s.fetches.authLog [event]) := by
  constructor
  · rw [tilesAsked_asksAfter, ← h.asked_eq]
    split_ifs with hf
    · rw [hf]
    · rw [Broker.asked_eq_nil, List.map_nil]
      intro m hm
      rw [h.fetch_mark m hm]
      exact hf
  · rw [contextsAsked_asksAfter, length_refreshesOf, h.invocations_eq]
    generalize (wanted? (s.fetches.step event) f).bind Want.previous? = want
    cases want with
    | none => simp
    | some previous => by_cases hf : f = g <;> simp [hf]

theorem Move.agrees (h : s.Move setup tile e events asks t)
    (hs : ∀ f, s.Backed setup tile f)
    (hcourse : ∀ f, ∃ past, (s.fetches.fetch f).Course f s.fetches.provider s.fetches.auth past)
    (g : Nat) : Agrees g asks (s.fetches.log events) (s.fetches.authLog events) := by
  cases h with
  | idle => exact agrees_nil
  | start f => simpa [Broker.Fetches.log] using agrees_of_idle (idle_start s.fetches f)
  | drop f => simpa [Broker.Fetches.log] using agrees_of_idle (idle_drop s.fetches f)
  | invalidate snapshot =>
      simpa [Broker.Fetches.log] using agrees_of_idle (idle_invalidate s.fetches snapshot)
  | proceed f r _ event provider hoffer =>
      obtain ⟨past, hpast⟩ := hcourse f
      simpa [Broker.Fetches.log] using
        agrees_turn (hoffer.takesTurn (hs f) hpast) r.asked

/-! ## Fetches that have ended -/

theorem Offer.not_done (h : s.Offer setup f r e event provider) (hs : s.Backed setup tile f)
    (result : Except Broker.Fault Image) : s.fetches.fetch f ≠ .done result := by
  intro hdone
  cases h with
  | look rejected hnone hfetch | acquire rejected seen hnone hfetch => simp [hdone] at hfetch
  | context call hpending | lateContext call hpending =>
      obtain ⟨previous, overlap, asked, state, rejected, seen, hfetch, -⟩ := hs.of_context hpending
      simp [hdone] at hfetch
  | tile call hpending | lateTile call hpending =>
      obtain ⟨asked, state, rejected, snapshot, hfetch, -⟩ := hs.of_tile hpending
      simp [hdone] at hfetch

theorem Move.fetch_ne_of_done (h : s.Move setup tile e events asks t)
    (hs : ∀ f, s.Backed setup tile f) {result : Except Broker.Fault Image}
    (hdone : s.fetches.fetch f = .done result) : ∀ a ∈ asks, a.fetch ≠ f := by
  cases h with
  | proceed g r _ event provider hoffer =>
      intro a ha
      obtain ⟨want, -, rfl⟩ := List.mem_map.mp ha
      rintro rfl
      exact hoffer.not_done (hs _) result hdone
  | _ => simp

theorem done_run (s : Broker.Fetches) (events : List Broker.Event)
    {result : Except Broker.Fault Image} (hdone : s.fetch f = .done result) :
    (s.run events).fetch f = .done result := by
  induction events generalizing s with
  | nil => exact hdone
  | cons e events ih => exact ih (s.step e) ((s.move_step e).fetch_eq_of_done hdone)

/-! ## What cycles come to -/

/-- What a refresh came to, without the numbers that the cache has given it. -/
def resultOf : Auth.Outcome → Except Provider.Failure Auth.Context
  | .ok snapshot => .ok snapshot.context.value
  | .error failure => .error failure.value

def Possible (setup : Setup π) (result : Except Provider.Failure Auth.Context) : Prop :=
  result = .error (.ofTimeout "pre_auth" setup.timeout) ∨
    ∃ previous overlap asked state now state',
      ((setup.service.preAuth previous overlap asked state).1.finish now state').2 = result

theorem Offer.possible {result : Except Provider.Failure Auth.Context} {now : Time.Instant}
    {draw : Nat} (h : s.Offer setup f r e (.seek f (.settle result now draw)) provider)
    (hs : s.Backed setup tile f) : Possible setup result := by
  generalize hevent : Broker.Event.seek f (.settle result now draw) = event at h
  cases h with
  | look | acquire | tile | lateTile => simp at hevent
  | context call hpending =>
      obtain ⟨previous, overlap, asked, state, -, -, -, -, rfl⟩ := hs.of_context hpending
      obtain ⟨rfl, -, -⟩ : result = _ ∧ _ := by simpa using hevent
      exact .inr ⟨previous, overlap, asked, state, r.now, s.provider, rfl⟩
  | lateContext call hpending =>
      obtain ⟨rfl, -, -⟩ : result = _ ∧ _ := by simpa using hevent
      exact .inl rfl

theorem Turn.cycles_cases {s t : Broker.Fetches} {marks : List Broker.Mark}
    {authMarks : List Auth.Mark} {want : Option Want} (h : Turn s f event marks authMarks want t) :
    Auth.cycles authMarks = [] ∨ ∃ result now draw outcome,
      event = .seek f (.settle result now draw) ∧ Auth.cycles authMarks = [outcome] ∧
        resultOf outcome = result := by
  cases h with
  | publish rejected seen previous context now draw snapshot hsnapshot =>
      exact .inr ⟨_, now, draw, .ok snapshot, rfl, rfl, by rw [hsnapshot, resultOf]⟩
  | refuse rejected seen previous failure now draw =>
      exact .inr ⟨_, now, draw, _, rfl, rfl, rfl⟩
  | retry snapshot =>
      left
      cases haccepts : s.auth.cache.accepts snapshot <;>
        simp [Auth.Calls.mark?, haccepts, Auth.Mark.cycle?, Auth.cycles]
  | _ => exact .inl rfl

theorem Move.possible (h : s.Move setup tile e events asks t)
    (hs : ∀ f, s.Backed setup tile f)
    (hcourse : ∀ f, ∃ past, (s.fetches.fetch f).Course f s.fetches.provider s.fetches.auth past) :
    ∀ outcome ∈ Auth.cycles (s.fetches.authLog events), Possible setup (resultOf outcome) := by
  cases h with
  | idle => simp [Broker.Fetches.authLog, Broker.Fetches.authHistory]
  | start f => simp [(idle_start s.fetches f).2.2]
  | drop f => simp [(idle_drop s.fetches f).2.2]
  | invalidate snapshot => simp [(idle_invalidate s.fetches snapshot).2.2]
  | proceed f r _ event provider hoffer =>
      obtain ⟨past, hpast⟩ := hcourse f
      rcases Turn.cycles_cases (hoffer.takesTurn (hs f) hpast) with hnone |
        ⟨result, now, draw, outcome, rfl, hcycles, rfl⟩
      · simp [hnone]
      · rw [hcycles]
        simpa using hoffer.possible (hs f)

/-! ## Runs -/

variable (setup tile) (policy : Auth.Policy) (provider : π) (events : List Event)

theorem agrees_run (g : Nat) :
    Agrees g ((initial setup policy provider).askLog setup tile events)
      ((initial setup policy provider).fetches.log
        ((initial setup policy provider).history setup tile events))
      ((initial setup policy provider).fetches.authLog
        ((initial setup policy provider).history setup tile events)) := by
  induction events using List.reverseRecOn with
  | nil => exact agrees_nil
  | append_singleton events e ih =>
      have hmove : Move setup tile _ e _ _ _ :=
        move_step ((initial setup policy provider).run setup tile events) e
      have hstep := hmove.agrees (backed_run setup tile policy provider events)
        (course_run setup tile policy provider events) g
      rw [fetches_run] at hstep
      rw [askLog_concat, history_concat, Broker.Fetches.log_append,
        Broker.Fetches.authLog_append]
      exact ih.append hstep

/-- A fetch asks for its tile at most twice, and for a context at most twice. -/
theorem length_asked_le (g : Nat) :
    (tilesAsked g ((initial setup policy provider).askLog setup tile events)).length ≤ 2 ∧
      (contextsAsked g ((initial setup policy provider).askLog setup tile events)).length ≤ 2 := by
  have hagrees := agrees_run setup tile policy provider events g
  rw [hagrees.tiles, hagrees.contexts, List.length_map]
  constructor
  · rcases (Broker.Fetches.fits_run setup.service.name policy
      ((initial setup policy provider).history setup tile events) g).retries with
      hnone | ⟨first, hone⟩ | ⟨first, second, htwo, -⟩
    · simp [hnone]
    · simp [hone]
    · simp [htwo]
  · exact Broker.Fetches.length_refreshesOf_le _ _ _ _

theorem fetch_ne_of_done (before after : List Event) {result : Except Broker.Fault Image}
    (hdone : ((initial setup policy provider).run setup tile before).fetches.fetch f =
      .done result) :
    ∀ a ∈ ((initial setup policy provider).run setup tile before).askLog setup tile after,
      a.fetch ≠ f := by
  induction after using List.reverseRecOn with
  | nil => simp [askLog]
  | append_singleton after e ih =>
      intro a ha
      rw [askLog_concat, ← run_append] at ha
      rcases List.mem_append.mp ha with hpast | hnow
      · exact ih a hpast
      · have hmove : Move setup tile _ e _ _ _ :=
          move_step ((initial setup policy provider).run setup tile (before ++ after)) e
        have hlater : ((initial setup policy provider).run setup tile
            (before ++ after)).fetches.fetch f = .done result := by
          rw [run_append, fetches_run]
          exact done_run _ _ hdone
        exact hmove.fetch_ne_of_done (backed_run setup tile policy provider _) hlater a hnow

/-- Every cycle of a run came to what the service, or the time limit, made of it. -/
theorem possible_run : ∀ outcome ∈ Auth.cycles ((initial setup policy provider).fetches.authLog
    ((initial setup policy provider).history setup tile events)),
      Possible setup (resultOf outcome) := by
  induction events using List.reverseRecOn with
  | nil => simp [history, Broker.Fetches.authLog, Broker.Fetches.authHistory]
  | append_singleton events e ih =>
      have hmove : Move setup tile _ e _ _ _ :=
        move_step ((initial setup policy provider).run setup tile events) e
      have hstep := hmove.possible (backed_run setup tile policy provider events)
        (course_run setup tile policy provider events)
      rw [fetches_run] at hstep
      rw [history_concat, Broker.Fetches.authLog_append, Auth.cycles_append]
      intro outcome hmem
      rcases List.mem_append.mp hmem with hpast | hnow
      · exact ih outcome hpast
      · exact hstep outcome hnow

end Serving

end TileFetch.Simulation
