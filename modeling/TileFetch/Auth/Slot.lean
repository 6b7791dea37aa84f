import TileFetch.Auth.Policy
import TileFetch.Provider.Failure

/-!
# The slot of a cache

The slot holds the context that was published last and counts refresh cycles.  Each cycle
that ends, well or badly, has the next number, its generation.
-/

namespace TileFetch.Auth

open Time (Instant)

/-- A value that is shared: two handles are the same if their numbers are. -/
structure Handle (α : Type) where
  id : Nat
  value : α

inductive Phase where
  | uninitialized
  | valid
  | stale
  /-- It bypasses authentication, for good. -/
  | bypassed
  deriving DecidableEq

/-- A published context with the generation of the cycle that published it. -/
structure Snapshot where
  generation : Nat
  context : Handle Context

def Snapshot.isBypassed (s : Snapshot) : Bool :=
  s.context.value.bypass

structure Slot where
  phase : Phase := .uninitialized
  context : Option (Handle Context) := none
  contextGeneration : Nat := 0
  /-- The number of cycles that have ended. -/
  generation : Nat := 0
  refreshAt : Option Instant := none
  /-- The failure of the last cycle that failed, with its generation. -/
  lastFailure : Option (Nat × Handle Provider.Failure) := none
  refreshing : Bool := false

namespace Slot

def snapshot? (s : Slot) : Option Snapshot :=
  s.context.map (⟨s.contextGeneration, ·⟩)

/-- Is the time for a refresh, if there is one, still ahead? -/
def isAhead (s : Slot) (now : Instant) : Bool :=
  s.refreshAt.all (now.isBefore ·)

def fresh? (s : Slot) (now : Instant) : Option Snapshot :=
  match s.phase with
  | .bypassed => s.snapshot?
  | .valid => if s.isAhead now then s.snapshot? else none
  | _ => none

/-- The context that the last cycle published, even if it is due already. -/
def latest? (s : Slot) : Option Snapshot :=
  match s.phase with
  | .valid | .bypassed => if s.contextGeneration = s.generation then s.snapshot? else none
  | _ => none

def latestFailure? (s : Slot) : Option (Handle Provider.Failure) :=
  match s.lastFailure with
  | some (generation, failure) => if generation = s.generation then some failure else none
  | none => none

def previous (s : Slot) : Context :=
  (s.context.map (·.value)).getD .blank

end Slot

inductive State where
  | uninitialized
  | refreshing
  | valid
  | stale
  | bypassed
  deriving DecidableEq

namespace State

def shown : State → String
  | uninitialized => "Uninitialized"
  | refreshing => "Refreshing"
  | valid => "Valid"
  | stale => "Stale"
  | bypassed => "Bypassed"

end State

def Slot.isDue (s : Slot) (now : Instant) : Bool :=
  s.refreshAt.any (·.notAfter now)

def Slot.state (s : Slot) (now : Instant) : State :=
  if s.refreshing then .refreshing
  else
    match s.phase with
    | .uninitialized => .uninitialized
    | .valid => if s.isDue now then .stale else .valid
    | .stale => .stale
    | .bypassed => .bypassed

end TileFetch.Auth
