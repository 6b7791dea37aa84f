import TileFetch.Simulation.Serving

/-!
# Served fetches on a clock

Serving leaves open when things happen.  Here a virtual clock says when.  The answer of a call of
the provider is there some time after the call began, and the call is given up once it has taken as
long as calls may take.  The clock stands still while an alarm goes off; apart from that it may go
on at any time, and any fetch may take the next turn.
-/

namespace TileFetch.Simulation

variable {π : Type}

namespace Pending

def progress? (setup : Setup π) (since clock : Nat) : Pending π → Option Waiting.Progress
  | .none => Option.none
  | .context call => some ((setup.limit since call).progress clock)
  | .tile call => some ((setup.limit since call).progress clock)

def alarms (setup : Setup π) (since : Nat) : Pending π → List Alarm
  | .none => []
  | .context call => (setup.limit since call).alarms
  | .tile call => (setup.limit since call).alarms

end Pending

/-- The fetch that may begin a call of the provider when something happens. -/
def Serving.Event.caller? : Serving.Event → Option Nat
  | .turn f _ => some f
  | .expire f _ => some f
  | _ => none

structure Clocked (π : Type) extends Serving π where
  clock : Nat := 0
  /-- When the call of the provider that a fetch waits for began. -/
  since : Nat → Nat := fun _ ↦ 0

namespace Clocked

/-- May this happen now?  A call is answered or given up when its time has come. -/
def Permits (setup : Setup π) (s : Clocked π) : Serving.Event → Prop
  | .turn f _ =>
      s.pending f = .none ∨
        (s.pending f).progress? setup (s.since f) s.clock = some .answered
  | .expire f _ => (s.pending f).progress? setup (s.since f) s.clock = some .late
  | _ => True

def happen (setup : Setup π) (tile : Nat → TileRequest) (s : Clocked π) (e : Serving.Event) :
    Clocked π where
  toServing := s.toServing.step setup tile e
  clock := s.clock
  since f := if e.caller? = some f then s.clock else s.since f

/-- The clock can go on to a moment: no alarm is set for an earlier one. -/
structure Passes (setup : Setup π) (s : Clocked π) (clock : Nat) : Prop where
  le : s.clock ≤ clock
  alarms : ∀ f, ∀ alarm ∈ (s.pending f).alarms setup (s.since f), clock ≤ alarm.moment

/-- What can become of served fetches in the course of time, with what happens to them. -/
inductive Runs (setup : Setup π) (tile : Nat → TileRequest) (s : Clocked π) :
    List Serving.Event → Clocked π → Prop where
  | refl : Runs setup tile s [] s
  | happen {events : List Serving.Event} {t : Clocked π} (e : Serving.Event)
      (h : Runs setup tile s events t) (hpermits : t.Permits setup e) :
      Runs setup tile s (events ++ [e]) (t.happen setup tile e)
  | pass {events : List Serving.Event} {t : Clocked π} (clock : Nat)
      (h : Runs setup tile s events t) (hpasses : t.Passes setup clock) :
      Runs setup tile s events { t with clock }

def ofServing (s : Serving π) : Clocked π where
  toServing := s

end Clocked

end TileFetch.Simulation
