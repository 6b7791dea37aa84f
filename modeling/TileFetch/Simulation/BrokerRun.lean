import TileFetch.Broker.Fetches
import TileFetch.Simulation.CacheRun
import TileFetch.Simulation.Service

/-!
# Running fetches on a broker

Fetches run as tasks on one broker.  Each call of the provider may take as long as the
settings of the client allow; after that the fetch goes on without an answer.
-/

namespace TileFetch.Simulation

open Time (Instant)

abbrev BrokerWorld (π : Type) : Type :=
  World Broker.Fetches π

/-- A task of a group: a fetch, or a look from outside. -/
inductive FetchTask (π : Type) where
  | begin (request : TileRequest)
  | seek (request : TileRequest)
  | refresh (request : TileRequest) (call : Waiting π Auth.Context)
  | generate (request : TileRequest) (call : Waiting π Image)
  | probe

inductive FetchTaskResult where
  | fetch (result : Except Broker.Fault Image)
  | probe (view : View)

def fetchSeeking : Seeking Broker.Fetches where
  position s f :=
    match s.fetch f with
    | .seeking rejected => .ofCall (s.auth.call (Broker.callOf f rejected))
    | _ => .ended
  isFree s := s.auth.holder.isNone
  step s f e := s.stepSeek f e

/-- A provider with the settings that its calls have in common. -/
structure Setup (π : Type) where
  service : Service π
  env : Provider.Env

namespace Setup

variable {π : Type}

def timeout (s : Setup π) : Nat :=
  s.env.settings.timeoutMillis

def limit {α : Type} (s : Setup π) (clock : Nat) (call : Begun π α) : Waiting π α where
  since := clock
  due := call.delay.map (clock + ·)
  deadline := some (clock + s.timeout)
  finish := call.finish

def beginRefresh (s : Setup π) (clock : Nat) (previous : Auth.Context) (overlap : Bool)
    (w : BrokerWorld π) : Waiting π Auth.Context × BrokerWorld π :=
  let (now, w) := w.now
  let (call, provider) := s.service.preAuth previous overlap now w.provider
  (s.limit clock call, { w with provider })

def beginGenerate (s : Setup π) (clock : Nat) (context : Auth.Context)
    (request : TileRequest) (w : BrokerWorld π) : Waiting π Image × BrokerWorld π :=
  let (now, w) := w.now
  let (call, provider) := s.service.generate context request now w.provider
  (s.limit clock call, { w with provider })

def outcome? {α : Type} (s : Setup π) (operation : String) (clock : Nat)
    (call : Waiting π α) (w : BrokerWorld π) :
    Option (Except Provider.Failure α) × BrokerWorld π :=
  match call.progress clock with
  | .answered =>
      let (now, w) := w.now
      let (provider, result) := call.finish now w.provider
      (some result, { w with provider })
  | .late => (some (.error (.ofTimeout operation s.timeout)), w)
  | .waiting => (none, w)

def settle (f : Nat) (result : Except Provider.Failure Auth.Context) (w : BrokerWorld π) :
    BrokerWorld π :=
  let (now, w) := w.now
  { w with machine := w.machine.step (.seek f (.settle result now 0)) }.notify

/-- Fetch `f` moves on until it waits; `fuel` bounds the steps of a turn. -/
def advance (s : Setup π) (f task clock : Nat) :
    Nat → BrokerWorld π → FetchTask π → BrokerWorld π × Poll (FetchTask π) FetchTaskResult
  | 0, w, state => (w, .pending state [])
  | fuel + 1, w, state =>
      match state with
      | .probe =>
          let (now, w) := w.now
          (w, .ready (.probe (.of w.machine.auth.cache now)))
      | .begin request =>
          advance s f task clock fuel { w with machine := w.machine.step (.start f) }
            (.seek request)
      | .seek request =>
          let wasFree := fetchSeeking.isFree w.machine
          let w := fetchSeeking.advance f task stepLimit w
          match w.machine.fetch f with
          | .generating _ snapshot =>
              let (call, w) := s.beginGenerate clock snapshot.context.value request w
              advance s f task clock fuel w (.generate request call)
          | .done result => (w, .ready (.fetch result))
          | _ =>
              match fetchSeeking.position w.machine f with
              | .leading previous =>
                  let (call, w) := s.beginRefresh clock previous (!wasFree) w
                  advance s f task clock fuel w (.refresh request call)
              | _ => (w, .pending state [])
      | .refresh request call =>
          match s.outcome? "pre_auth" clock call w with
          | (none, w) => (w, .pending state call.alarms)
          | (some result, w) => advance s f task clock fuel (settle f result w) (.seek request)
      | .generate request call =>
          match s.outcome? "generate_tile" clock call w with
          | (none, w) => (w, .pending state call.alarms)
          | (some result, w) =>
              advance s f task clock fuel
                { w with machine := w.machine.step (.answer f result) } (.seek request)

def dropTask (f task : Nat) (w : BrokerWorld π) : BrokerWorld π :=
  let wasLeading :=
    match fetchSeeking.position w.machine f with
    | .leading _ => true
    | _ => false
  let w := { w with machine := w.machine.step (.drop f), row := w.row.abandon task }
  if wasLeading then w.notify else w

def program (s : Setup π) (first : Nat) :
    Program (BrokerWorld π) (FetchTask π) FetchTaskResult where
  poll task clock w state := s.advance (first + task) task clock stepLimit w state
  drop task w _ := dropTask (first + task) task w
  takeWoken := World.takeWoken

end Setup

end TileFetch.Simulation
