import TileFetch.Proofs.Counting.Tokens

/-!
# Fetches over a counting provider

A broker with a reactive policy serves fetches over a counting provider that rejects its first
tokens.  If no fetch is dropped and the provider is fast enough, each authentication ends a cycle
before the next one begins.  So the counters of the provider are told by the cache, and it is the
number of the cycle that decides what an authentication comes to.
-/

namespace TileFetch.Simulation

open Broker (callOf)
open Time (Instant)

namespace Trial

/-- Nothing happens but that fetches start and take their turns. -/
def Undisturbed (events : List Serving.Event) : Prop :=
  ∀ e ∈ events, (∃ f, e = .start f) ∨ (∃ f r, e = .turn f r) ∨ ∃ f r, e = .expire f r

open Serving

variable {p : Trial} {s t : Serving Counts} {f : Nat} {r : Reading} {e : Serving.Event}
  {event : Broker.Event} {provider : Counts}

theorem provider_proceed (s : Serving Counts) (f : Nat) (event : Broker.Event)
    (asked : Instant) :
    (s.proceed p.setup p.tile f event asked).provider =
      s.provider.asked (wanted? (s.fetches.step event) f) := by
  cases hwanted : wanted? (s.fetches.step event) f with
  | none => rw [proceed_of_none hwanted, await, Counts.asked]
  | some want =>
      cases want with
      | context previous =>
          rw [proceed_of_context hwanted, await, Counts.asked]
          rfl
      | tile context =>
          rw [proceed_of_tile hwanted, await, Counts.asked]
          rfl

inductive Supply (p : Trial) (s : Serving Counts) (f : Nat) : Broker.Event → Counts → Prop where
  | none (step : Auth.CallStep) (hstep : ∀ result now draw, step ≠ .settle result now draw) :
      p.Supply s f (.seek f step) s.provider
  | token (call : Begun Counts Auth.Context) (now issuedAt : Instant) (draw : Nat)
      (hcall : s.pending f = .context call) :
      p.Supply s f
        (.seek f (.settle (call.finish now s.provider).2 issuedAt draw))
        (call.finish now s.provider).1
  | image (rejected : Option Auth.Snapshot) (snapshot : Auth.Snapshot)
      (hfetch : s.fetches.fetch f = .generating rejected snapshot) :
      p.Supply s f
        (.answer f (Counts.reply p.rules snapshot.context.value (p.tile f)))
        s.provider

theorem supply_of_offer (h : s.Offer p.setup f r e event provider)
    (hs : s.Backed p.setup p.tile f) : p.Supply s f event provider := by
  cases h with
  | look => exact .none _ (by simp)
  | acquire => exact .none _ (by simp)
  | context call hpending => exact .token call r.now r.issuedAt r.draw hpending
  | tile call hpending =>
      obtain ⟨asked, state, rejected, snapshot, hfetch, rfl⟩ := hs.of_tile hpending
      exact .image rejected snapshot hfetch
  | lateContext call hpending hlate =>
      obtain ⟨previous, overlap, asked, state, -, -, -, -, rfl⟩ := hs.of_context hpending
      have hsoon := p.inTime
      simp [Begun.mayExceed, setup, rules, Service.counting, Setup.timeout, hsoon] at hlate
  | lateTile call hpending hlate =>
      obtain ⟨asked, state, rejected, snapshot, -, rfl⟩ := hs.of_tile hpending
      simp [Begun.mayExceed, setup, Service.counting] at hlate

structure Reached (p : Trial) (s : Serving Counts) : Prop where
  backed : ∀ f, s.Backed p.setup p.tile f
  course : ∀ f, ∃ past, (s.fetches.fetch f).Course f s.fetches.provider s.fetches.auth past
  holder_eq_some_iff : ∀ c, s.fetches.auth.holder = some c ↔
    ∃ seen previous, s.fetches.auth.call c = .leading seen previous
  /-- A call refreshes only if no token stands. -/
  standing_of_waiting : ∀ c,
    s.fetches.auth.call c = .waiting s.fetches.auth.cache.slot.generation →
      s.fetches.auth.cache.slot.standing? = none
  refreshAt_eq : s.fetches.auth.cache.slot.refreshAt = none
  provider_eq : s.fetches.provider = "counting"

theorem reached_run (p : Trial) (events : List Serving.Event) : p.Reached (p.run events) where
  backed := backed_run p.setup p.tile p.policy {} events
  course := course_run p.setup p.tile p.policy {} events
  holder_eq_some_iff c := by
    rw [run, fetches_run_initial]
    exact (Broker.Fetches.consistent_auth _ _ _).holder_eq_some_iff c
  standing_of_waiting c := by
    rw [run, fetches_run_initial, Broker.Fetches.auth_run]
    exact Auth.Calls.standing?_of_waiting p.reactive _
  refreshAt_eq := by
    rw [run, fetches_run_initial, Broker.Fetches.auth_run]
    exact Auth.Calls.refreshAt_run p.reactive _
  provider_eq := by
    rw [run, fetches_run_initial]
    exact Broker.Fetches.provider_run _ _

theorem run_concat (p : Trial) (events : List Serving.Event) (e : Serving.Event) :
    p.run (events ++ [e]) = (p.run events).step p.setup p.tile e :=
  Serving.run_concat _ _ _ _ _

theorem Undisturbed.left {before after : List Serving.Event} (h : Undisturbed (before ++ after)) :
    Undisturbed before :=
  fun e he ↦ h e (List.mem_append_left after he)

structure Counted (p : Trial) (s : Serving Counts) : Prop where
  tokens : p.HoldsTokens s.fetches.auth.cache
  issued_eq : s.provider.issued = s.fetches.auth.cache.slot.generation - p.failing
  preAuths_eq : s.provider.preAuths =
    s.fetches.auth.cache.slot.generation + s.fetches.auth.holder.toList.length
  preAuths_le : s.provider.preAuths ≤ p.failing + p.accepted
  /-- The call for a context that is under way has the number of the next cycle. -/
  begun : ∀ g call, s.pending g = .context call → ∀ now counts, call.finish now counts =
    Counts.authenticate p.rules s.fetches.auth.cache.slot.generation counts
  given : ∀ g rejected x, s.fetches.fetch g = .generating rejected x →
    p.Numbered x ∧ x.generation ≤ s.fetches.auth.cache.slot.generation
  images : ∀ g image, s.fetches.fetch g = .done (.ok image) →
    image = Counts.imageOf p.accepted (p.tile g)

namespace Counted

theorem initial (p : Trial) : p.Counted (p.run []) where
  tokens := .new p.policy
  issued_eq := (Nat.zero_sub p.failing).symm
  preAuths_eq := rfl
  preAuths_le := Nat.zero_le _
  begun g call hpending := by simp [run, Serving.initial] at hpending
  given g rejected x hfetch := by simp [run, Broker.Fetches.initial] at hfetch
  images g image hfetch := by simp [run, Broker.Fetches.initial] at hfetch

theorem reply_eq (h : p.Counted s) {rejected : Option Auth.Snapshot}
    {x : Auth.Snapshot} (hfetch : s.fetches.fetch f = .generating rejected x) :
    Counts.reply p.rules x.context.value (p.tile f) =
      if x.generation - p.failing < p.limit then .error (Counts.rejection x.context.value)
      else .ok (Counts.imageOf p.accepted (p.tile f)) := by
  obtain ⟨⟨hlate, hvalue⟩, hle⟩ := h.given f rejected x hfetch
  have hcalls := h.preAuths_eq
  have hbound := h.preAuths_le
  rw [hvalue]
  split_ifs with hlt
  · exact Counts.reply_of_lt hlt
  · rw [Counts.reply_of_le (Nat.le_of_not_lt hlt)]
    congr 2
    unfold accepted at hbound ⊢
    omega

theorem counters (h : p.Counted s) (hs : p.Reached s) (hsupply : p.Supply s f event provider)
    {b : Broker.Fetches} {want : Option Want} (heffect : Effect s.fetches b f event want) :
    p.HoldsTokens b.auth.cache ∧
      (provider.asked want).issued = b.auth.cache.slot.generation - p.failing ∧
      (provider.asked want).preAuths =
        b.auth.cache.slot.generation + b.auth.holder.toList.length ∧
      (provider.asked want).preAuths ≤ p.failing + p.accepted ∧
      s.fetches.auth.cache.slot.generation ≤ b.auth.cache.slot.generation := by
  have hissued := h.issued_eq
  have hcalls := h.preAuths_eq
  have hbound := h.preAuths_le
  rw [Counts.issued_asked, Counts.preAuths_asked]
  cases heffect with
  | none _ _ hevent hwant hcache hkeeps =>
      obtain rfl : provider = s.provider := by
        cases hsupply with
        | none | image => rfl
        | token => exact (hevent _ _ _ rfl).elim
      rw [hwant, hcache, hkeeps]
      exact ⟨h.tokens, hissued, hcalls, hbound, le_rfl⟩
  | lead rejected now hcall hfree hcache htakes =>
      obtain rfl : provider = s.provider := by
        cases hsupply
        rfl
      have hlt := h.tokens.lt_of_standing? (hs.standing_of_waiting _ hcall)
      rw [hcache, htakes]
      rw [hfree] at hcalls
      simp only [Option.toList_none, List.length_nil, Nat.add_zero] at hcalls
      refine ⟨h.tokens.beginRefresh, hissued, ?_, ?_, le_rfl⟩
      · simp [Want.previous?, hcalls, Auth.Cache.beginRefresh]
      · simp only [Want.previous?, Option.bind_some, Option.toList_some, List.length_singleton]
        omega
  | settle rejected seen previous result now draw _ hcall hwant hcache hreleases =>
      rw [(hs.holder_eq_some_iff _).mpr ⟨seen, previous, hcall⟩] at hcalls
      simp only [Option.toList_some, List.length_singleton] at hcalls
      rw [hcache, hreleases, hwant]
      generalize hevent : Broker.Event.seek f (.settle result now draw) = event at hsupply
      cases hsupply with
      | none step hstep =>
          obtain rfl : .settle result now draw = step := by simpa using hevent
          exact (hstep result now draw rfl).elim
      | image => simp at hevent
      | token call began issuedAt own hpending =>
          rw [h.begun f call hpending] at hevent ⊢
          obtain ⟨rfl, -, -⟩ : result = _ ∧ _ := by simpa using hevent
          by_cases hlt : s.fetches.auth.cache.slot.generation < p.failing
          · obtain ⟨failure, hfailure⟩ := Counts.authenticate_of_lt hlt
            rw [hfailure]
            refine ⟨h.tokens.reject hlt failure, ?_, hcalls, hbound, Nat.le_succ _⟩
            simp only [Auth.Cache.settle, Auth.Cache.reject]
            omega
          · have hle := Nat.le_of_not_lt hlt
            rw [Counts.authenticate_of_le hle, hissued]
            refine ⟨h.tokens.publish hle now draw, ?_, hcalls, hbound, Nat.le_succ _⟩
            simp only [Auth.Cache.settle, Auth.Cache.publish]
            omega
  | report x failure hfetch hcache hkeeps =>
      generalize hevent : Broker.Event.answer f (.error failure) = event at hsupply
      cases hsupply with
      | none | token => simp at hevent
      | image rejected snapshot hown =>
          obtain rfl : x = snapshot := by
            rw [hfetch] at hown
            simpa using (Broker.Fetch.generating.inj hown).2
          have hlt : x.generation - p.failing < p.limit := by
            by_contra hge
            rw [h.reply_eq hown, if_neg hge] at hevent
            simp at hevent
          have hsame : (s.fetches.auth.cache.invalidate x).slot.generation =
              s.fetches.auth.cache.slot.generation := by
            unfold Auth.Cache.invalidate
            split_ifs <;> rfl
          rw [hcache, hkeeps, hsame]
          exact ⟨h.tokens.invalidate hlt, hissued, hcalls, hbound, le_rfl⟩

theorem begun_of_proceed (h : p.Counted s) (hsupply : p.Supply s f event provider)
    (heffect : Effect s.fetches (s.fetches.step event) f event
      (wanted? (s.fetches.step event) f)) {asked : Instant} {call : Begun Counts Auth.Context}
    (hpending : ({ s with provider }.proceed p.setup p.tile f event
      asked).pending f = .context call) (now : Instant) (counts : Counts) :
    call.finish now counts = Counts.authenticate p.rules
      (s.fetches.step event).auth.cache.slot.generation counts := by
  rw [pending_proceed_self] at hpending
  cases hwanted : wanted? (s.fetches.step event) f with
  | none => simp [hwanted] at hpending
  | some want =>
      cases want with
      | tile context => simp [hwanted] at hpending
      | context previous =>
          rw [hwanted] at heffect
          cases heffect with
          | none _ _ hevent hwant => simp [Want.previous?] at hwant
          | settle rejected seen own result now draw _ hcall hwant =>
              simp [Want.previous?] at hwant
          | lead rejected own hcall hfree hcache hholder =>
              obtain rfl : provider = s.provider := by
                cases hsupply
                rfl
              have hcalls := h.preAuths_eq
              rw [hfree] at hcalls
              simp only [hwanted] at hpending
              obtain rfl := Pending.context.inj hpending
              rw [hcache]
              exact congrArg (Counts.authenticate _ · counts) hcalls

/-- While a call for a context is under way, no other fetch ends a cycle. -/
theorem generation_eq_of_begun {b : Broker.Fetches} {want : Option Want}
    (heffect : Effect s.fetches b f event want) (hs : p.Reached s) {g : Nat}
    {call : Begun Counts Auth.Context} (hpending : s.pending g = .context call) (hg : g ≠ f) :
    b.auth.cache.slot.generation = s.fetches.auth.cache.slot.generation := by
  cases heffect with
  | none _ _ hevent hwant hcache => rw [hcache]
  | lead rejected now hcall hfree hcache =>
      rw [hcache]
      rfl
  | report x failure hfetch hcache =>
      rw [hcache, Auth.Cache.invalidate]
      split_ifs <;> rfl
  | settle rejected seen previous result now draw _ hcall =>
      obtain ⟨own, overlap, asked, state, other, old, hfetch, hown, -⟩ :=
        (hs.backed g).of_context hpending
      have hheld := (hs.holder_eq_some_iff _).mpr ⟨seen, previous, hcall⟩
      rw [(hs.holder_eq_some_iff _).mpr ⟨old, own, hown⟩] at hheld
      exact (Broker.Fetches.callOf_ne hg other rejected (Option.some.inj hheld)).elim

theorem proceed (h : p.Counted s) (hs : p.Reached s)
    (hoffer : s.Offer p.setup f r e event provider) :
    p.Counted ({ s with provider }.proceed p.setup p.tile f event r.asked) := by
  have hsupply := supply_of_offer hoffer (hs.backed f)
  obtain ⟨past, hpast⟩ := hs.course f
  have hturn := hoffer.takesTurn (hs.backed f) hpast
  obtain ⟨htokens, hissued, hcalls, hbound, hle⟩ := h.counters hs hsupply hturn.effect
  have hmove := Broker.Fetches.move_step s.fetches event
  have hother : ∀ g, g ≠ f → (s.fetches.step event).fetch g = s.fetches.fetch g := by
    intro g hg
    apply hmove.fetch_eq_of_ne
    rw [hoffer.fetch_eq]
    simpa using Ne.symm hg
  have hgiven : ∀ rejected x, (s.fetches.step event).fetch f = .generating rejected x →
      p.Numbered x ∧ x.generation = (s.fetches.step event).auth.cache.slot.generation := by
    intro rejected x hplace
    have hx := hturn.snapshot?_of_generating hplace
    exact ⟨htokens.numbered x hx, htokens.generation_eq hx⟩
  constructor
  · rwa [fetches_proceed]
  · rwa [fetches_proceed, provider_proceed]
  · rwa [fetches_proceed, provider_proceed]
  · rwa [provider_proceed]
  · intro g call hpending now counts
    rw [fetches_proceed]
    by_cases hg : g = f
    · subst hg
      exact begun_of_proceed h hsupply hturn.effect hpending now counts
    · rw [pending_proceed_of_ne _ _ _ hg] at hpending
      rw [h.begun g call hpending]
      congr 1
      exact (generation_eq_of_begun hturn.effect hs hpending hg).symm
  · intro g rejected x hplace
    rw [fetches_proceed] at hplace ⊢
    by_cases hg : g = f
    · subst hg
      obtain ⟨hnumbered, hgeneration⟩ := hgiven rejected x hplace
      exact ⟨hnumbered, hgeneration.le⟩
    · obtain ⟨hnumbered, hearlier⟩ := h.given g rejected x (hother g hg ▸ hplace)
      exact ⟨hnumbered, hearlier.trans hle⟩
  · intro g image hplace
    rw [fetches_proceed] at hplace
    by_cases hg : g = f
    · subst hg
      obtain rfl := hturn.answer_of_ok hplace
      generalize hevent : Broker.Event.answer g (.ok image) = event at hsupply
      cases hsupply with
      | none | token => simp at hevent
      | image rejected x hown =>
          rw [h.reply_eq hown] at hevent
          split_ifs at hevent
          · simp at hevent
          · simpa using hevent
    · exact h.images g image (hother g hg ▸ hplace)

theorem start (h : p.Counted s) (f : Nat) :
    p.Counted { s with fetches := s.fetches.step (.start f) } := by
  obtain ⟨hcache, hholder, hfetch⟩ := start_cases s.fetches f
  constructor
  · rw [hcache]
    exact h.tokens
  · rw [hcache]
    exact h.issued_eq
  · rw [hcache, hholder]
    exact h.preAuths_eq
  · exact h.preAuths_le
  · rw [hcache]
    exact h.begun
  · intro g rejected x hplace
    rw [hcache]
    rcases hfetch g with hsame | hseeking
    · exact h.given g rejected x (hsame ▸ hplace)
    · simp [hseeking] at hplace
  · intro g image hplace
    rcases hfetch g with hsame | hseeking
    · exact h.images g image (hsame ▸ hplace)
    · simp [hseeking] at hplace

end Counted

theorem counted_run (p : Trial) {events : List Serving.Event} (h : Undisturbed events) :
    p.Counted (p.run events) := by
  induction events using List.reverseRecOn with
  | nil => exact .initial p
  | append_singleton events e ih =>
      have hcounted := ih h.left
      have hreached := p.reached_run events
      rw [run_concat]
      have hmove : Move p.setup p.tile _ e _ _ _ := move_step (p.run events) e
      generalize brokerEvents _ _ e = brokerSteps, Serving.step _ _ _ e = t, asks _ _ e = asks
        at hmove ⊢
      cases hmove with
      | idle => exact hcounted
      | start f => exact hcounted.start f
      | drop f | invalidate x => simpa using h _ (List.mem_append_right _ List.mem_cons_self)
      | proceed f r _ event provider hoffer => exact hcounted.proceed hreached hoffer

end Trial

end TileFetch.Simulation
