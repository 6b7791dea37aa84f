import Mathlib
import TileFetch.Auth.Calls

/-!
# The history of a cache

Each step of a cache and its calls leaves at most one mark, which says what can be seen of
it: a call begins, its refresh is invoked, a cycle ends, a report is accepted.  The log of a
run is the list of its marks.  What is to be said of a run is read off its log: the
outcomes of the cycles that have ended, the generations against which a report was
accepted, the calls whose refreshes were invoked, and what happened since a call began.
-/

namespace TileFetch.Auth

open Time (Instant)

inductive Mark where
  | began (call : Nat)
  | missed (call generation : Nat)
  | invoked (call : Nat) (previous : Context)
  | retried (call : Nat)
  /-- The refresh of a call ended a cycle, and the call returned its outcome. -/
  | ended (call : Nat) (outcome : Outcome)
  /-- A call returned without a refresh of its own. -/
  | returned (call : Nat) (outcome : Outcome)
  | left (call : Nat)
  | gaveUp (call : Nat)
  | accepted (generation : Nat)

namespace Mark

def ofMove? (c : Nat) : Call → Call → Option Mark
  | .absent, .looking => some (.began c)
  | .looking, .waiting seen => some (.missed c seen)
  | .looking, .done outcome => some (.returned c outcome)
  | .looking, .dropped => some (.left c)
  | .waiting _, .looking => some (.retried c)
  | .waiting _, .leading _ previous => some (.invoked c previous)
  | .waiting _, .done outcome => some (.returned c outcome)
  | .waiting _, .dropped => some (.left c)
  | .leading _ _, .done outcome => some (.ended c outcome)
  | .leading _ _, .dropped => some (.gaveUp c)
  | _, _ => none

def call? : Mark → Option Nat
  | began c => some c
  | missed c _ => some c
  | invoked c _ => some c
  | retried c => some c
  | ended c _ => some c
  | returned c _ => some c
  | left c => some c
  | gaveUp c => some c
  | accepted _ => none

def cycle? : Mark → Option Outcome
  | ended _ outcome => some outcome
  | _ => none

def accepted? : Mark → Option Nat
  | accepted generation => some generation
  | _ => none

def invoked? : Mark → Option Nat
  | invoked c _ => some c
  | _ => none

def gaveUp? : Mark → Option Nat
  | gaveUp c => some c
  | _ => none

def outcome? : Mark → Option Outcome
  | ended _ outcome => some outcome
  | returned _ outcome => some outcome
  | _ => none

end Mark

/-! ## Reading a log -/

def cycles (log : List Mark) : List Outcome :=
  log.filterMap Mark.cycle?

def acceptances (log : List Mark) : List Nat :=
  log.filterMap Mark.accepted?

def invocations (log : List Mark) : List Nat :=
  log.filterMap Mark.invoked?

def givenUp (log : List Mark) : List Nat :=
  log.filterMap Mark.gaveUp?

def returns (log : List Mark) : List Outcome :=
  log.filterMap Mark.outcome?

def published (outcomes : List Outcome) : List Snapshot :=
  outcomes.filterMap Except.toOption

def since (c : Nat) : List Mark → List Mark
  | [] => []
  | .began d :: log => if d = c then log else since c log
  | _ :: log => since c log

@[simp] theorem cycles_nil : cycles [] = [] := rfl

@[simp] theorem cycles_singleton (m : Mark) : cycles [m] = m.cycle?.toList := by
  cases m <;> rfl

@[simp] theorem cycles_append (log more : List Mark) :
    cycles (log ++ more) = cycles log ++ cycles more :=
  List.filterMap_append

@[simp] theorem acceptances_nil : acceptances [] = [] := rfl

@[simp] theorem acceptances_singleton (m : Mark) : acceptances [m] = m.accepted?.toList := by
  cases m <;> rfl

@[simp] theorem acceptances_append (log more : List Mark) :
    acceptances (log ++ more) = acceptances log ++ acceptances more :=
  List.filterMap_append

@[simp] theorem invocations_nil : invocations [] = [] := rfl

@[simp] theorem invocations_singleton (m : Mark) : invocations [m] = m.invoked?.toList := by
  cases m <;> rfl

@[simp] theorem invocations_append (log more : List Mark) :
    invocations (log ++ more) = invocations log ++ invocations more :=
  List.filterMap_append

@[simp] theorem givenUp_nil : givenUp [] = [] := rfl

@[simp] theorem givenUp_singleton (m : Mark) : givenUp [m] = m.gaveUp?.toList := by
  cases m <;> rfl

@[simp] theorem givenUp_append (log more : List Mark) :
    givenUp (log ++ more) = givenUp log ++ givenUp more :=
  List.filterMap_append

@[simp] theorem returns_nil : returns [] = [] := rfl

@[simp] theorem returns_singleton (m : Mark) : returns [m] = m.outcome?.toList := by
  cases m <;> rfl

@[simp] theorem returns_append (log more : List Mark) :
    returns (log ++ more) = returns log ++ returns more :=
  List.filterMap_append

@[simp] theorem published_nil : published [] = [] := rfl

@[simp] theorem published_cons_ok (s : Snapshot) (outcomes : List Outcome) :
    published (.ok s :: outcomes) = s :: published outcomes := rfl

@[simp] theorem published_cons_error (failure : Handle Provider.Failure)
    (outcomes : List Outcome) :
    published (.error failure :: outcomes) = published outcomes := rfl

@[simp] theorem published_append (outcomes more : List Outcome) :
    published (outcomes ++ more) = published outcomes ++ published more :=
  List.filterMap_append

theorem mem_published {outcomes : List Outcome} {s : Snapshot} :
    s ∈ published outcomes ↔ .ok s ∈ outcomes := by
  simp only [published, List.mem_filterMap]
  constructor
  · rintro ⟨outcome, hmem, hs⟩
    cases outcome with
    | error failure => simp [Except.toOption] at hs
    | ok t =>
        obtain rfl : t = s := by simpa [Except.toOption] using hs
        exact hmem
  · intro hmem
    exact ⟨.ok s, hmem, rfl⟩

theorem since_append {c : Nat} {log : List Mark} (h : .began c ∈ log) (more : List Mark) :
    since c (log ++ more) = since c log ++ more := by
  induction log with
  | nil => simp at h
  | cons m log ih =>
      cases m with
      | began d =>
          by_cases hd : d = c
          · simp [since, hd]
          · have hlog : .began c ∈ log := by simpa [Ne.symm hd] using h
            simpa [since, hd] using ih hlog
      | _ =>
          have hlog : .began c ∈ log := by simpa using h
          simpa [since] using ih hlog

theorem since_suffix (c : Nat) (log : List Mark) : since c log <:+ log := by
  induction log with
  | nil => exact List.suffix_rfl
  | cons m log ih =>
      cases m with
      | began d =>
          by_cases hd : d = c
          · simp [since, hd]
          · simpa [since, hd] using ih.trans (List.suffix_cons _ log)
      | _ => exact ih.trans (List.suffix_cons _ log)

theorem cycles_since_suffix (c : Nat) (log : List Mark) :
    cycles (since c log) <:+ cycles log := by
  obtain ⟨past, hpast⟩ := since_suffix c log
  exact ⟨cycles past, by rw [← cycles_append, hpast]⟩

/-! ## The log of a run -/

def Event.time? : Event → Option Instant
  | .step _ (.look now) => some now
  | .step _ (.acquire now) => some now
  | .step _ (.settle _ now _) => some now
  | _ => none

def Event.call? : Event → Option Nat
  | .start c => some c
  | .step c _ => some c
  | .drop c => some c
  | .invalidate _ => none

namespace Calls

def mark? (s : Calls) : Event → Option Mark
  | .start c => Mark.ofMove? c (s.call c) ((s.start c).call c)
  | .step c e => Mark.ofMove? c (s.call c) ((s.stepCall c e).call c)
  | .drop c => Mark.ofMove? c (s.call c) ((s.drop c).call c)
  | .invalidate snapshot =>
      if s.cache.accepts snapshot then some (.accepted snapshot.generation) else none

def log (s : Calls) : List Event → List Mark
  | [] => []
  | e :: events => (s.mark? e).toList ++ (s.step e).log events

@[simp] theorem run_nil (s : Calls) : s.run [] = s := rfl

@[simp] theorem run_cons (s : Calls) (e : Event) (events : List Event) :
    s.run (e :: events) = (s.step e).run events := rfl

theorem run_append (s : Calls) (before after : List Event) :
    s.run (before ++ after) = (s.run before).run after :=
  List.foldl_append

theorem run_concat (s : Calls) (events : List Event) (e : Event) :
    s.run (events ++ [e]) = (s.run events).step e := by
  rw [run_append, run_cons, run_nil]

@[simp] theorem log_nil (s : Calls) : s.log [] = [] := rfl

theorem log_append (s : Calls) (before after : List Event) :
    s.log (before ++ after) = s.log before ++ (s.run before).log after := by
  induction before generalizing s with
  | nil => rfl
  | cons e before ih => simp [log, ih, List.append_assoc]

theorem log_concat (s : Calls) (events : List Event) (e : Event) :
    s.log (events ++ [e]) = s.log events ++ ((s.run events).mark? e).toList := by
  rw [log_append]
  simp [log]

/-- A mark in the log was left by one of the steps; what stands before it is the log of the
steps before that one. -/
theorem exists_step_of_log {s : Calls} {events : List Event} {early late : List Mark} {m : Mark}
    (hlog : s.log events = early ++ m :: late) :
    ∃ before e after, events = before ++ e :: after ∧ s.log before = early ∧
      (s.run before).mark? e = some m ∧ (s.run (before ++ [e])).log after = late := by
  induction events generalizing s early with
  | nil => simp at hlog
  | cons e events ih =>
      rw [log] at hlog
      cases hm : s.mark? e with
      | none =>
          rw [hm, Option.toList_none, List.nil_append] at hlog
          obtain ⟨before, e', after, rfl, hearly, hmark, hlate⟩ := ih hlog
          exact ⟨e :: before, e', after, rfl, by simp [log, hm, hearly], hmark, hlate⟩
      | some mark =>
          rw [hm, Option.toList_some, List.singleton_append] at hlog
          cases early with
          | nil =>
              obtain ⟨rfl, hlate⟩ := List.cons_eq_cons.mp hlog
              exact ⟨[], e, events, rfl, rfl, hm, hlate⟩
          | cons first early =>
              obtain ⟨rfl, hrest⟩ := List.cons_eq_cons.mp hlog
              obtain ⟨before, e', after, rfl, hearly, hmark, hlate⟩ := ih hrest
              exact ⟨e :: before, e', after, rfl, by simp [log, hm, hearly], hmark, hlate⟩

end Calls

/-! ## Moments and policies for examples -/

/-- A moment some nanoseconds after the beginning of 1970. -/
def moment (n : UInt8) : Instant where
  localNanos := n.toNat
  offset := .utc
  lower := by
    have hfirst : Time.firstNano ≤ 0 := by decide
    omega
  upper := by
    have hend : 256 ≤ Time.endNano := by decide
    have hsmall := n.toNat_lt
    omega

def Policy.ofAge (n : UInt8) : Policy where
  window := none
  maxAge := some
    { nanos := n.toNat
      lower := by
        have hlower : -((Time.maxSeconds + 1) * Time.second + 999999999) ≤ 0 := by decide
        omega
      upper := by
        have hupper : 256 ≤ Time.maxSeconds * Time.second + 999999999 := by decide
        have hsmall := n.toNat_lt
        omega }

end TileFetch.Auth
