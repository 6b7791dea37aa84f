import TileFetch.Provider.Failure

/-!
# Telemetry

What a broker tells about its flows: counters by outcome, and a record of spans and
events.
-/

namespace TileFetch.Broker

inductive Flow where
  | preAuth
  | tile
  deriving DecidableEq

namespace Flow

def name : Flow → String
  | preAuth => "pre_auth"
  | tile => "tile"

def shown : Flow → String
  | preAuth => "PreAuth"
  | tile => "Tile"

def stage : Flow → String
  | preAuth => "pre_auth"
  | tile => "fetch_tile"

def all : List Flow :=
  [preAuth, tile]

end Flow

inductive FlowOutcome where
  | attempt
  | success
  | failure
  deriving DecidableEq

namespace FlowOutcome

def name : FlowOutcome → String
  | attempt => "attempt"
  | success => "success"
  | failure => "failure"

def shown : FlowOutcome → String
  | attempt => "Attempt"
  | success => "Success"
  | failure => "Failure"

def all : List FlowOutcome :=
  [attempt, success, failure]

def ofResult {ε α : Type} : Except ε α → FlowOutcome
  | .ok _ => success
  | .error _ => failure

end FlowOutcome

def spanName : String := "tile_broker.flow"

def counterName (flow : Flow) (outcome : FlowOutcome) : String :=
  "tile_broker_flow_total[flow=" ++ flow.name ++ ",outcome=" ++ outcome.name ++ "]"

inductive Trace where
  | span (flow : Flow)
  | invalidated (generation : Nat)
  | refreshFailed (failure : Provider.Failure)

namespace Trace

inductive Level where
  | debug
  | warn
  deriving DecidableEq

def Level.name : Level → String
  | debug => "DEBUG"
  | warn => "WARN"

/-- The level and the message of an event; a span has neither. -/
def event? : Trace → Option (Level × String)
  | span _ => none
  | invalidated _ => some (.debug, "authentication context invalidated")
  | refreshFailed _ => some (.warn, "authentication refresh failed")

end Trace

structure Telemetry where
  counts : Flow → FlowOutcome → Nat := fun _ _ ↦ 0
  /-- The record, newest entry first. -/
  traces : List Trace := []

namespace Telemetry

def count (t : Telemetry) (flow : Flow) (outcome : FlowOutcome) : Telemetry :=
  { t with
    counts := fun f o ↦
      if f = flow ∧ o = outcome then t.counts f o + 1 else t.counts f o }

def record (t : Telemetry) (entry : Trace) : Telemetry :=
  { t with traces := entry :: t.traces }

def openFlow (t : Telemetry) (flow : Flow) : Telemetry :=
  (t.record (.span flow)).count flow .attempt

end Telemetry

end TileFetch.Broker
