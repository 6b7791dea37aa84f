import TileFetch.Simulation.BrokerRun
import TileFetch.Simulation.Script

/-!
# Sessions on a broker

A session is a list of commands to one broker.  It holds on to snapshots, so that later
commands can report them as rejected.
-/

namespace TileFetch.Simulation

structure BrokerSession where
  setup : Setup Stage
  world : BrokerWorld Stage
  next : Nat := 0
  held : List Auth.Snapshot := []

inductive BrokerCommand where
  | fetch (request : TileRequest)
  | hold
  | invalidate (index : Nat)
  | describe
  | sleep (millis : Nat)
  /-- Fetches that run together, and the moments of looks from outside.  A task without a
  request only waits for its beginning. -/
  | group (fetches : List (Schedule × Option TileRequest)) (probes : List Nat)

structure FetchEnd where
  moment : Nat
  isDropped : Bool
  /-- What it came to, if there was a request. -/
  result : Option (Except Broker.Fault Image)

inductive BrokerAnswer where
  | fetch (result : FetchEnd)
  | held (generation : Option Nat)
  /-- Was the report accepted?  There is no answer if there is no such snapshot. -/
  | verdict (accepted : Option Bool)
  | description (text : String)
  | slept
  | group (ends : List FetchEnd) (views : List View)

namespace BrokerSession

def initial (setup : Setup Stage) (policy : Auth.Policy) (stage : Stage)
    (wall : Time.Instant) : BrokerSession where
  setup
  world := { machine := .initial setup.service.name policy, provider := stage, wall }

def fetchEnd (r : Nat × Option FetchTaskResult) : FetchEnd where
  moment := r.1
  isDropped := r.2.isNone
  result :=
    match r.2 with
    | some (.fetch result) => some result
    | _ => none

def views (results : List (Nat × Option FetchTaskResult)) : List View :=
  results.filterMap fun r ↦
    match r.2 with
    | some (.probe v) => some v
    | _ => none

/-- Runs fetches and looks from outside.  A look comes before the fetches that go on at the
same moment. -/
def runGroup (s : BrokerSession) (fetches : List (Schedule × Option TileRequest))
    (probes : List Nat) : BrokerSession × List FetchEnd × List View :=
  let state (request : Option TileRequest) : FetchTask Stage :=
    match request with
    | some r => .begin r
    | none => .probe
  let tasks :=
    probes.map (fun moment ↦ Task.resting { startAt := moment } FetchTask.probe) ++
      fetches.map fun f ↦ Task.resting f.1 (state f.2)
  let (world, results) := (s.setup.program s.next).runAll s.world tasks
  ({ s with world, next := s.next + tasks.length },
    (results.drop probes.length).map fetchEnd, views (results.take probes.length))

def shown (s : BrokerSession) : String :=
  Text.shownRecord "TileBroker"
    [("provider", Text.quoted s.setup.service.name), ("env", s.setup.env.shown),
      ("state", (s.world.machine.auth.cache.state s.world.wall).shown)]

def perform (s : BrokerSession) : BrokerCommand → BrokerSession × BrokerAnswer
  | .fetch request =>
      let (s, ends, _) := s.runGroup [({}, some request)] []
      (s, .fetch (ends.headD ⟨0, true, none⟩))
  | .hold =>
      match s.world.machine.auth.cache.peek with
      | none => (s, .held none)
      | some snapshot =>
          ({ s with held := s.held ++ [snapshot] }, .held (some snapshot.generation))
  | .invalidate index =>
      match s.held[index]? with
      | none => (s, .verdict none)
      | some snapshot =>
          let machine := s.world.machine.step (.invalidate snapshot)
          ({ s with world := { s.world with machine } },
            .verdict (some (s.world.machine.auth.cache.accepts snapshot)))
  | .describe => (s, .description s.shown)
  | .sleep millis => ({ s with world := s.world.sleep millis }, .slept)
  | .group fetches probes =>
      let (s, ends, views) := s.runGroup fetches probes
      (s, .group ends views)

def look (s : BrokerSession) : View × BrokerSession :=
  let (now, world) := s.world.now
  (.of world.machine.auth.cache now, { s with world })

def logSince (s earlier : BrokerSession) : List LogEntry :=
  newEntries earlier.world.provider.log.length s.world.provider.log

def tracesSince (s earlier : BrokerSession) : List Broker.Trace :=
  newEntries earlier.world.machine.telemetry.traces.length s.world.machine.telemetry.traces

end BrokerSession

end TileFetch.Simulation
