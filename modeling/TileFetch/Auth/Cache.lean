import TileFetch.Auth.Slot

/-!
# The cache of contexts

A cache is a slot with a refresh policy and counters.  The operations here are the steps
between which calls may be suspended: looking for a context, taking a turn once the guard
is held, beginning a refresh, settling it, giving it up, and invalidating a context.
-/

namespace TileFetch.Auth

open Time (Instant)

abbrev Outcome : Type :=
  Except (Handle Provider.Failure) Snapshot

structure Tally where
  attempts : Nat := 0
  successes : Nat := 0
  failures : Nat := 0
  invalidations : Nat := 0
  deriving DecidableEq

structure Cache where
  policy : Policy
  slot : Slot := {}
  tally : Tally := {}
  /-- The number of handles that have been made. -/
  minted : Nat := 0

inductive Turn where
  | share (snapshot : Snapshot)
  | fail (failure : Handle Provider.Failure)
  /-- The context published while it waited is invalid already: it looks again. -/
  | again
  | lead

namespace Cache

def new (policy : Policy) : Cache :=
  { policy }

def state (c : Cache) (now : Instant) : State :=
  c.slot.state now

def peek (c : Cache) : Option Snapshot :=
  c.slot.snapshot?

def turn (c : Cache) (seen : Nat) (now : Instant) : Turn :=
  if c.slot.generation = seen then .lead
  else
    match (c.slot.fresh? now).or c.slot.latest? with
    | some snapshot => .share snapshot
    | none =>
        match c.slot.latestFailure? with
        | some failure => .fail failure
        | none => .again

def beginRefresh (c : Cache) : Cache :=
  { c with
    slot := { c.slot with refreshing := true }
    tally := { c.tally with attempts := c.tally.attempts + 1 } }

/-- A refresh is given up.  Nothing but the flag shows that there was one. -/
def abandon (c : Cache) : Cache :=
  { c with slot := { c.slot with refreshing := false } }

def publish (c : Cache) (context : Context) (now : Instant) (draw : Nat) : Cache :=
  { c with
    slot :=
      { phase := if context.bypass then .bypassed else .valid
        context := some ⟨c.minted, context⟩
        contextGeneration := c.slot.generation + 1
        generation := c.slot.generation + 1
        refreshAt := if context.bypass then none else c.policy.refreshAt context now draw
        lastFailure := none
        refreshing := false }
    tally := { c.tally with successes := c.tally.successes + 1 }
    minted := c.minted + 1 }

def reject (c : Cache) (failure : Provider.Failure) : Cache :=
  { c with
    slot :=
      { c.slot with
        generation := c.slot.generation + 1
        lastFailure := some (c.slot.generation + 1, ⟨c.minted, failure⟩)
        refreshing := false }
    tally := { c.tally with failures := c.tally.failures + 1 }
    minted := c.minted + 1 }

def settle (c : Cache) (result : Except Provider.Failure Context) (now : Instant)
    (draw : Nat) : Cache :=
  match result with
  | .ok context => c.publish context now draw
  | .error failure => c.reject failure

def settled (c : Cache) : Except Provider.Failure Context → Outcome
  | .ok context => .ok ⟨c.slot.generation + 1, ⟨c.minted, context⟩⟩
  | .error failure => .error ⟨c.minted, failure⟩

/-- Is a report against a snapshot accepted?  It is if the snapshot is the published
context and this is the first report against it. -/
def accepts (c : Cache) (s : Snapshot) : Bool :=
  c.slot.phase = .valid && c.slot.contextGeneration = s.generation

def invalidate (c : Cache) (s : Snapshot) : Cache :=
  if c.accepts s then
    { c with
      slot := { c.slot with phase := .stale }
      tally := { c.tally with invalidations := c.tally.invalidations + 1 } }
  else c

end Cache

end TileFetch.Auth
