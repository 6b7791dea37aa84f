import TileFetch.Auth.Calls
import TileFetch.Simulation.Guard
import TileFetch.Simulation.Tasks

/-!
# Worlds

The world of a simulation holds the calls or fetches, the state of the provider, the row
in front of the guard, and a wall clock.  The wall clock tells the time of tokens; it does
not follow the virtual clock, and moves on with every reading.
-/

namespace TileFetch.Simulation

open Time (Instant)

/-- A world around calls or fetches of type `μ` and a provider with states of type `π`. -/
structure World (μ π : Type) where
  machine : μ
  provider : π
  row : GuardRow := {}
  wall : Instant

def readingTime : Int := 1000

/-- An instant some nanoseconds later; the end of time stays as it is. -/
def later (t : Instant) (nanos : Int) : Instant :=
  ((Time.Span.ofNanos? nanos).bind t.add?).getD t

namespace World

variable {μ π : Type}

def now (w : World μ π) : Instant × World μ π :=
  (w.wall, { w with wall := later w.wall readingTime })

def sleep (w : World μ π) (millis : Nat) : World μ π :=
  { w with wall := later w.wall (millis * Time.millisecond) }

def notify (w : World μ π) : World μ π :=
  { w with row := w.row.notify }

def takeWoken (w : World μ π) : List Nat × World μ π :=
  (w.row.woken, { w with row := { w.row with woken := [] } })

end World

/-- Where the call of a task for a context is, as far as its turn depends on it. -/
inductive Position where
  | looking
  | waiting
  | leading (previous : Auth.Context)
  | ended

def Position.ofCall : Auth.Call → Position
  | .looking => looking
  | .waiting _ => waiting
  | .leading _ previous => leading previous
  | _ => ended

structure Seeking (μ : Type) where
  position : μ → Nat → Position
  isFree : μ → Bool
  step : μ → Nat → Auth.CallStep → μ

namespace Seeking

variable {μ π : Type}

/-- A task gets the guard.  Unless it leads now, the guard is free again. -/
def acquire (k : Seeking μ) (i task : Nat) (w : World μ π) : World μ π :=
  let (now, w) := w.now
  let w := { w with machine := k.step w.machine i (.acquire now), row := w.row.remove task }
  match k.position w.machine i with
  | .leading _ => w
  | _ => w.notify

/-- The call `i` of a task moves on until the task waits for the guard, leads, or is done
with it. -/
def advance (k : Seeking μ) (i task : Nat) : Nat → World μ π → World μ π
  | 0, w => w
  | fuel + 1, w =>
      match k.position w.machine i with
      | .looking =>
          let (now, w) := w.now
          advance k i task fuel { w with machine := k.step w.machine i (.look now) }
      | .waiting =>
          let isAsleep := (w.row.find? task).any (!·.woken)
          if isAsleep then w
          else if k.isFree w.machine then advance k i task fuel (acquire k i task w)
          else { w with row := (w.row.remove task).join task }
      | .leading _ => w
      | .ended => w

end Seeking

def stepLimit : Nat := 64

/-- A call of a provider that is under way since a moment.  `due` is the moment when its
answer is there, if it ever comes, `deadline` the moment when it is no longer waited
for. -/
structure Waiting (π α : Type) where
  since : Nat
  due : Option Nat
  deadline : Option Nat
  finish : Instant → π → π × Except Provider.Failure α

namespace Waiting

variable {π α : Type}

def alarms (c : Waiting π α) : List Alarm :=
  (c.due.toList ++ c.deadline.toList).map (⟨c.since, ·⟩)

/-- What a call has come to at a moment: an answer that is there counts, also at the
deadline. -/
inductive Progress where
  | answered
  | late
  | waiting
  deriving DecidableEq

def progress (c : Waiting π α) (clock : Nat) : Progress :=
  if c.due.any (· ≤ clock) then .answered
  else if c.deadline.any (· ≤ clock) then .late
  else .waiting

end Waiting

end TileFetch.Simulation
