import TileFetch.Proofs.Auth.Demand
import TileFetch.Proofs.Auth.Accounting
import TileFetch.Proofs.Auth.Schedule

/-!
# Contexts that can be used

A call that is made at some instant returns the published context at once, or it waits for the
guard.  The state of the cache says which, unless a refresh is in flight.  A context that cannot
be used stays so until a cycle publishes another one, and one that is returned at once has
reached neither of its triggers.
-/

namespace TileFetch.Auth

open Time (Instant)

/-! ## Triggers that have not been reached -/

/-- A context that was issued at `issuedAt` has reached none of its triggers at `now`, as far as
these can be represented. -/
structure Policy.Awaits (p : Policy) (c : Context) (issuedAt : Instant) (draw : Nat)
    (now : Instant) : Prop where
  age : ∀ age, p.maxAge = some age → issuedAt.add? age ≠ none →
    now.nanos < issuedAt.nanos + age.nanos
  window : ∀ window expiresAt, p.window = some window → c.expiresAt = some expiresAt →
    expiresAt.sub? (shortened window draw) ≠ none →
      now.nanos < expiresAt.nanos - (shortened window draw).nanos

namespace Policy

variable {p : Policy} {c : Context} {issuedAt now : Instant} {draw : Nat}

theorem awaits_of_refreshAt (h : (p.refreshAt c issuedAt draw).any (·.notAfter now) = false) :
    p.Awaits c issuedAt draw now := by
  have hahead : ∀ u, p.byExpiry c draw = some u ∨ p.byAge issuedAt = some u →
      now.nanos < u.nanos := by
    intro u hu
    cases hrefresh : p.refreshAt c issuedAt draw with
    | none =>
        obtain ⟨hexpiry, hage⟩ := earliest_eq_none_iff.mp hrefresh
        simp [hexpiry, hage] at hu
    | some t =>
        have hlt : now.nanos < t.nanos := by simpa [hrefresh, Instant.notAfter] using h
        exact hlt.trans_le ((earliest_eq_some hrefresh).2 u hu)
  constructor
  · intro age hage hadd
    obtain ⟨u, hu⟩ := Option.ne_none_iff_exists'.mp hadd
    rw [← (Instant.add?_eq_some_iff.mp hu).2]
    exact hahead u (.inr ((byAge_eq_some_iff p).mpr ⟨age, hage, hu⟩))
  · intro window expiresAt hwindow hexpires hsub
    obtain ⟨u, hu⟩ := Option.ne_none_iff_exists'.mp hsub
    rw [← (Instant.sub?_eq_some_iff.mp hu).2]
    exact hahead u (.inl ((byExpiry_eq_some_iff p).mpr ⟨window, expiresAt, hwindow, hexpires, hu⟩))

/-- A window before expiry does not end after the expiry. -/
theorem Awaits.not_expired (h : p.Awaits c issuedAt draw now) {window : Time.Span}
    {expiresAt : Instant} (hwindow : p.window = some window) (hnonneg : 0 ≤ window.nanos)
    (hexpires : c.expiresAt = some expiresAt)
    (hsub : expiresAt.sub? (shortened window draw) ≠ none) : now.nanos < expiresAt.nanos := by
  have hlt := h.window window expiresAt hwindow hexpires hsub
  rw [shortened_nanos hnonneg] at hlt
  obtain ⟨hjitter, hquarter, -⟩ := jitter_bounds hnonneg draw
  omega

end Policy

namespace Calls

variable {s t : Calls} {log : List Mark} {e : Event} {m : Option Mark} {c : Nat} {now : Instant}
  {snapshot : Snapshot}

/-! ## A call that looks at once -/

def ask (s : Calls) (c : Nat) (now : Instant) : Calls :=
  s.run [.start c, .step c (.look now)]

/-- Whichever call is made at `now` returns the snapshot, and nothing else changes. -/
def Hits (s : Calls) (now : Instant) (snapshot : Snapshot) : Prop :=
  ∀ c, s.call c = .absent → s.ask c now = s.place c (.done (.ok snapshot))

/-- Whichever call is made at `now` has to wait for the guard. -/
def Misses (s : Calls) (now : Instant) : Prop :=
  ∀ c, s.call c = .absent → s.ask c now = s.place c (.waiting s.cache.slot.generation)

theorem place_place (s : Calls) (c : Nat) (x y : Call) : (s.place c x).place c y = s.place c y := by
  simp only [place, mk.injEq, true_and, and_true]
  funext d
  split_ifs <;> rfl

theorem ask_of_absent (hcall : s.call c = .absent) (now : Instant) :
    s.ask c now = match s.cache.slot.fresh? now with
      | some snapshot => s.place c (.done (.ok snapshot))
      | none => s.place c (.waiting s.cache.slot.generation) := by
  have hstart : s.start c = s.place c .looking := by simp [start, hcall]
  cases hfresh : s.cache.slot.fresh? now <;>
    simp [ask, step, stepCall, hstart, look, hfresh, place_place]

/-- Of the calls, of which there is no last one, only those in a run have been made. -/
theorem exists_absent (policy : Policy) (events : List Event) :
    ∃ c, ((initial policy).run events).call c = .absent := by
  obtain ⟨c, hc⟩ := Infinite.exists_notMem_finset (events.filterMap Event.call?).toFinset
  refine ⟨c, call_run_of_ne _ _ ?_⟩
  intro e he hcall
  exact hc (List.mem_toFinset.mpr (List.mem_filterMap.mpr ⟨e, he, hcall⟩))

theorem hits_iff (hcall : s.call c = .absent) :
    s.Hits now snapshot ↔ s.cache.slot.fresh? now = some snapshot := by
  constructor
  · intro hits
    have hask := hits c hcall
    rw [ask_of_absent hcall] at hask
    have hplace := congrArg (fun t : Calls ↦ t.call c) hask
    cases hfresh : s.cache.slot.fresh? now with
    | none => simp [hfresh] at hplace
    | some own => simpa [hfresh] using hplace
  · intro hfresh d hd
    rw [ask_of_absent hd, hfresh]

theorem misses_iff (hcall : s.call c = .absent) :
    s.Misses now ↔ s.cache.slot.fresh? now = none := by
  constructor
  · intro hmisses
    have hask := hmisses c hcall
    rw [ask_of_absent hcall] at hask
    have hplace := congrArg (fun t : Calls ↦ t.call c) hask
    cases hfresh : s.cache.slot.fresh? now with
    | none => rfl
    | some own => simp [hfresh] at hplace
  · intro hfresh d hd
    rw [ask_of_absent hd, hfresh]

end Calls

/-! ## What the state says -/

section Reflects

variable {s : Slot} {outcomes : List Outcome} {reported : List Nat} {now : Instant}

theorem Slot.Reflects.usable_iff (h : s.Reflects outcomes reported)
    (hquiet : s.refreshing = false) :
    (s.state now = .valid ∨ s.state now = .bypassed) ↔ s.fresh? now ≠ none := by
  rw [Ne, h.fresh?_eq_none_iff]
  cases hphase : s.phase with
  | valid => cases hdue : s.isDue now <;> simp [state, hquiet, hphase, hdue]
  | _ => simp [state, hquiet, hphase]

theorem Slot.Reflects.unusable_iff (h : s.Reflects outcomes reported)
    (hquiet : s.refreshing = false) :
    (s.state now = .uninitialized ∨ s.state now = .stale) ↔ s.fresh? now = none := by
  rw [h.fresh?_eq_none_iff]
  cases hphase : s.phase with
  | valid => cases hdue : s.isDue now <;> simp [state, hquiet, hphase, hdue]
  | _ => simp [state, hquiet, hphase]

end Reflects

namespace Calls

variable {s t : Calls} {log : List Mark} {e : Event} {m : Option Mark} {c : Nat} {now : Instant}
  {snapshot : Snapshot}

/-! ## Until a cycle succeeds -/

theorem Move.unusable (h : s.Move e m t) (hfailed : published (cycles m.toList) = [])
    (hnone : s.cache.slot.fresh? now = none) : t.cache.slot.fresh? now = none := by
  rcases h.slot_cases with ⟨flag, hslot, -⟩ | ⟨c, result, ended, draw, hcache, rfl⟩ |
    ⟨snapshot, haccepts, hcache, -⟩
  · rw [hslot]
    exact hnone
  · cases result with
    | ok context => simp [Cache.settled, Mark.cycle?] at hfailed
    | error failure =>
        rw [hcache]
        exact hnone
  · rw [hcache]
    simp [Cache.invalidate, haccepts, Slot.fresh?]

theorem unusable_run (s : Calls) (after : List Event)
    (hfailed : published (cycles (s.log after)) = [])
    (hnone : s.cache.slot.fresh? now = none) : (s.run after).cache.slot.fresh? now = none := by
  induction after generalizing s with
  | nil => exact hnone
  | cons e after ih =>
      rw [log, cycles_append, published_append, List.append_eq_nil_iff] at hfailed
      exact ih (s.step e) hfailed.2 ((move_step s e).unusable hfailed.1 hnone)

/-! ## When a context was issued -/

/-- In a run the snapshot is published by a refresh that ends at `issuedAt` with a draw. -/
def Issued (policy : Policy) (events : List Event) (snapshot : Snapshot) (issuedAt : Instant)
    (draw : Nat) : Prop :=
  ∃ early d context late, events = early ++ .step d (.settle (.ok context) issuedAt draw) :: late ∧
    ((initial policy).run early).mark? (.step d (.settle (.ok context) issuedAt draw)) =
      some (.ended d (.ok snapshot))

variable {policy : Policy} {events : List Event} {issuedAt : Instant} {draw : Nat}

theorem issued_concat_iff : Issued policy (events ++ [e]) snapshot issuedAt draw ↔
    Issued policy events snapshot issuedAt draw ∨
      ∃ d context, e = .step d (.settle (.ok context) issuedAt draw) ∧
        ((initial policy).run events).mark? e = some (.ended d (.ok snapshot)) := by
  constructor
  · rintro ⟨early, d, context, late, hevents, hmark⟩
    rcases List.eq_nil_or_concat late with rfl | ⟨late, last, rfl⟩
    · obtain ⟨rfl, rfl⟩ := List.append_singleton_inj.mp hevents
      exact .inr ⟨d, context, rfl, hmark⟩
    · rw [List.concat_eq_append, ← List.cons_append, ← List.append_assoc] at hevents
      obtain ⟨rfl, -⟩ := List.append_singleton_inj.mp hevents
      exact .inl ⟨early, d, context, late, rfl, hmark⟩
  · rintro (⟨early, d, context, late, rfl, hmark⟩ | ⟨d, context, rfl, hmark⟩)
    · exact ⟨early, d, context, late ++ [e], by simp, hmark⟩
    · exact ⟨events, d, context, [], rfl, hmark⟩

theorem Issued.ok_mem (h : Issued policy events snapshot issuedAt draw) :
    .ok snapshot ∈ cycles ((initial policy).log events) := by
  obtain ⟨early, d, context, late, rfl, hmark⟩ := h
  rw [log_append, log, hmark, cycles_append, cycles_append]
  simp [Mark.cycle?]

theorem Move.of_published {d : Nat} (h : s.Move e (some (.ended d (.ok snapshot))) t) :
    ∃ context now draw, e = .step d (.settle (.ok context) now draw) ∧
      snapshot.context.value = context ∧ t.cache = s.cache.publish context now draw := by
  generalize hmark : some (Mark.ended d (.ok snapshot)) = mark at h
  cases h with
  | settle c result now draw =>
      cases result with
      | error failure => simp [Cache.settled] at hmark
      | ok context =>
          obtain ⟨rfl, rfl⟩ : d = c ∧ snapshot = _ := by simpa [Cache.settled] using hmark
          exact ⟨context, now, draw, rfl, rfl, rfl⟩
  | _ => simp at hmark

theorem exists_issued (h : .ok snapshot ∈ cycles ((initial policy).log events)) :
    ∃ issuedAt draw, Issued policy events snapshot issuedAt draw := by
  induction events using List.reverseRecOn with
  | nil => simp at h
  | append_singleton events e ih =>
      simp only [issued_concat_iff]
      rw [log_concat, cycles_append, List.mem_append] at h
      rcases h with hpast | hnow
      · obtain ⟨issuedAt, draw, hissued⟩ := ih hpast
        exact ⟨issuedAt, draw, .inl hissued⟩
      · obtain ⟨d, hmark⟩ := mem_cycles.mp hnow
        rw [Option.mem_toList] at hmark
        have hmove := move_step ((initial policy).run events) e
        rw [hmark] at hmove
        obtain ⟨context, now, draw, he, -, -⟩ := hmove.of_published
        exact ⟨now, draw, .inr ⟨d, context, he, hmark⟩⟩

/-- The slot knows the triggers of its context: they count from when it was issued, and with the
draw of that time. -/
theorem refreshAt_of_issued (policy : Policy) (events : List Event)
    (hissued : Issued policy events snapshot issuedAt draw)
    (hpeek : ((initial policy).run events).cache.peek = some snapshot)
    (hbypass : snapshot.isBypassed = false) :
    ((initial policy).run events).cache.slot.refreshAt =
      policy.refreshAt snapshot.context.value issuedAt draw := by
  induction events using List.reverseRecOn with
  | nil =>
      obtain ⟨early, d, context, late, hevents, -⟩ := hissued
      simp at hevents
  | append_singleton events e ih =>
      have h := consistent_run policy events
      have hpolicy := policy_run policy events
      have hmove := move_step ((initial policy).run events) e
      rw [run_concat] at hpeek ⊢
      rcases issued_concat_iff.mp hissued with hpast | ⟨d, context, rfl, hmark⟩
      · have hmem := hpast.ok_mem
        generalize (initial policy).run events = s at h hpolicy hmove ih hpeek ⊢
        rcases hmove.slot_cases with ⟨flag, hslot, -⟩ | ⟨c, result, now, draw', hcache, -⟩ |
          ⟨reported, haccepts, hcache, -⟩
        · rw [Cache.peek, hslot] at hpeek
          rw [hslot]
          exact ih hpast hpeek
        · cases result with
          | error failure =>
              rw [hcache] at hpeek ⊢
              exact ih hpast hpeek
          | ok context =>
              -- The new context has a generation that none had before.
              have hold := h.slot.generation_le snapshot hmem
              have hle := h.slot.follows.contextGeneration_le
              have hnew := (Slot.snapshot?_eq_some_iff.mp hpeek).2
              rw [hcache] at hnew
              simp only [Cache.settle, Cache.publish] at hnew
              omega
        · rw [hcache] at hpeek ⊢
          simp only [Cache.invalidate, haccepts, if_true] at hpeek ⊢
          exact ih hpast hpeek
      · rw [hmark] at hmove
        obtain ⟨_, _, _, ⟨⟩, rfl, hcache⟩ := hmove.of_published
        rw [hcache]
        simp only [Cache.publish, hpolicy]
        simp [show snapshot.context.value.bypass = false from hbypass]

/-- A call that is made when no refresh is in flight returns the published context at once if the
state is valid or bypassed, and waits if it is uninitialized or stale.  Once calls wait they wait
at all later instants until a cycle succeeds.  A context that is returned at once and does not
bypass authentication has reached neither its age nor the window before its expiry, which ends
with the expiry unless it is negative. -/
theorem usable_as_state_says (policy : Policy) (events : List Event) (now : Instant) :
    let s := (initial policy).run events
    (s.cache.slot.refreshing = false →
      ((s.cache.state now = .valid ∨ s.cache.state now = .bypassed) ↔
        ∃ snapshot, s.cache.peek = some snapshot ∧ s.Hits now snapshot) ∧
      ((s.cache.state now = .uninitialized ∨ s.cache.state now = .stale) ↔ s.Misses now)) ∧
    (s.Misses now → ∀ after later, published (cycles (s.log after)) = [] →
      now.notAfter later = true → (s.run after).Misses later) ∧
    ∀ snapshot, s.Hits now snapshot → snapshot.isBypassed = false →
      (∃ issuedAt draw, Issued policy events snapshot issuedAt draw) ∧
      ∀ issuedAt draw, Issued policy events snapshot issuedAt draw →
        policy.Awaits snapshot.context.value issuedAt draw now ∧
        ∀ window expiresAt, policy.window = some window → 0 ≤ window.nanos →
          snapshot.context.value.expiresAt = some expiresAt →
            expiresAt.sub? (Policy.shortened window draw) ≠ none → now.nanos < expiresAt.nanos := by
  intro s
  have h := consistent_run policy events
  obtain ⟨c, hcall⟩ := exists_absent policy events
  refine ⟨fun hquiet ↦ ⟨?_, ?_⟩, ?_, ?_⟩
  · rw [Cache.state, h.slot.usable_iff hquiet, Option.ne_none_iff_exists']
    refine exists_congr fun snapshot ↦ ?_
    rw [hits_iff hcall]
    exact (and_iff_right_of_imp fun hfresh ↦ (Slot.snapshot?_of_fresh? hfresh).1).symm
  · rw [Cache.state, h.slot.unusable_iff hquiet, misses_iff hcall]
  · intro hmisses after later hfailed hle
    obtain ⟨d, hlater⟩ := exists_absent policy (events ++ after)
    rw [run_append] at hlater
    rw [misses_iff hlater]
    have hnone := (misses_iff hcall).mp hmisses
    exact unusable_run s after hfailed (Slot.fresh?_eq_none_of_notAfter hnone hle)
  · intro snapshot hits hbypass
    have hfresh := (hits_iff hcall).mp hits
    obtain ⟨hpeek, hphase⟩ := Slot.snapshot?_of_fresh? hfresh
    refine ⟨exists_issued (h.slot.ok_mem hpeek), ?_⟩
    intro issuedAt draw hissued
    have hrefresh := refreshAt_of_issued policy events hissued hpeek hbypass
    have hdue : s.cache.slot.isDue now = false := by
      rcases hphase with hbypassed | ⟨-, hdue⟩
      · obtain ⟨own, hown, htrue⟩ := h.slot.phase_eq_bypassed_iff.mp hbypassed
        obtain rfl := Option.some.inj (hpeek.symm.trans hown)
        simp [hbypass] at htrue
      · exact hdue
    rw [Slot.isDue, hrefresh] at hdue
    have hawaits := Policy.awaits_of_refreshAt hdue
    exact ⟨hawaits, fun window expiresAt hwindow hnonneg hexpires hsub ↦
      hawaits.not_expired hwindow hnonneg hexpires hsub⟩

/-- A context that expires at nanosecond 20 is published at nanosecond 1. -/
def expiringPublished : List Event :=
  [.start 0, .step 0 (.look (moment 0)), .step 0 (.acquire (moment 0)),
    .step 0 (.settle (.ok { Context.ofToken "key" with expiresAt := some (moment 20) })
      (moment 1) 0)]

/-- Under a window of 4 nanoseconds and an age of 12 it is returned at once at nanosecond 12, and
no more from nanosecond 13 on. -/
theorem expiring_context_returned :
    let window : Time.Span := ⟨4, by decide, by decide⟩
    let policy := (Policy.ofAge 12).withWindow window
    let context := { Context.ofToken "key" with expiresAt := some (moment 20) }
    let s := (initial policy).run expiringPublished
    s.cache.state (moment 12) = .valid ∧ s.Hits (moment 12) ⟨1, ⟨0, context⟩⟩ ∧
      policy.Awaits context (moment 1) 0 (moment 12) ∧
      (moment 12).nanos < (moment 20).nanos ∧
      s.cache.state (moment 13) = .stale ∧ s.Misses (moment 13) ∧
      (s.run [.start 1, .step 1 (.look (moment 14)), .drop 1]).Misses (moment 15) := by
  intro window policy context s
  obtain ⟨hstate, -, hreturned⟩ := usable_as_state_says policy expiringPublished (moment 12)
  obtain ⟨hlate, hstays, -⟩ := usable_as_state_says policy expiringPublished (moment 13)
  obtain ⟨snapshot, hpeek, hits⟩ := (hstate rfl).1.mp (.inl rfl)
  obtain rfl : (⟨1, ⟨0, context⟩⟩ : Snapshot) = snapshot := Option.some.inj hpeek
  have hmisses := (hlate rfl).2.mp (.inr rfl)
  have hissued : Issued policy expiringPublished ⟨1, ⟨0, context⟩⟩ (moment 1) 0 :=
    ⟨expiringPublished.take 3, 0, context, [], rfl, rfl⟩
  obtain ⟨hawaits, hexpires⟩ := (hreturned _ hits rfl).2 (moment 1) 0 hissued
  exact ⟨rfl, hits, hawaits,
    hexpires window (moment 20) rfl (by decide) rfl (by decide), rfl, hmisses,
    hstays hmisses _ (moment 15) rfl (by decide)⟩

/-- The two bounds are those of the policy as it is, whatever was meant.  A window of -5
nanoseconds, which only a policy that is not set up by its operations has, begins after the
expiry, and an age of zero is no age. -/
theorem overdue_context_returned :
    let context := { Context.ofToken "key" with expiresAt := some (moment 20) }
    let late : Policy := ⟨some ⟨-5, by decide, by decide⟩, none⟩
    let ageless := Policy.reactive.withMaxAge .zero
    (late.byExpiry context 0 = some (moment 25) ∧
      ((initial late).run expiringPublished).Hits (moment 20) ⟨1, ⟨0, context⟩⟩) ∧
    (moment 1).add? .zero = some (moment 1) ∧
      ((initial ageless).run expiringPublished).Hits (moment 1) ⟨1, ⟨0, context⟩⟩ := by
  intro context late ageless
  refine ⟨⟨rfl, ?_⟩, rfl, ?_⟩
  · exact (hits_iff (c := 1) rfl).mpr rfl
  · exact (hits_iff (c := 1) rfl).mpr rfl

end Calls

end TileFetch.Auth
