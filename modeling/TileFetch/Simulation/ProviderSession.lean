import TileFetch.Simulation.Script

/-!
# Sessions with a provider

A session is a list of calls of one provider, one after another, over a transport that
follows a script.  No time limit applies to the calls.
-/

namespace TileFetch.Simulation

structure ProviderSession where
  service : Service Stage
  stage : Stage
  /-- The time on the wall clock, which stands still. -/
  wall : Time.Instant

namespace ProviderSession

def conclude {α : Type} (s : ProviderSession) (call : Begun Stage α × Stage) :
    Except Provider.Failure α × ProviderSession :=
  let (stage, result) := call.1.finish s.wall call.2
  (result, { s with stage })

def preAuth (s : ProviderSession) (previous : Auth.Context) :
    Except Provider.Failure Auth.Context × ProviderSession :=
  s.conclude (s.service.preAuth previous false s.wall s.stage)

def generate (s : ProviderSession) (context : Auth.Context) (request : TileRequest) :
    Except Provider.Failure Image × ProviderSession :=
  s.conclude (s.service.generate context request s.wall s.stage)

def logSince (s earlier : ProviderSession) : List LogEntry :=
  newEntries earlier.stage.log.length s.stage.log

end ProviderSession

end TileFetch.Simulation
