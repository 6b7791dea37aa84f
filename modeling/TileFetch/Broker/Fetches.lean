import TileFetch.Auth.Calls
import TileFetch.Broker.Fault
import TileFetch.Broker.Telemetry
import TileFetch.Tile.Image

/-!
# Fetches

Any number of fetches run on one broker.  A fetch gets a context and asks the provider for
the tile.  If the provider rejects the context the fetch reports it, gets a context once
more and asks once more.  As with calls for a context, a step is what happens between two
moments at which fetches may be suspended.
-/

namespace TileFetch.Broker

open Time (Instant)

/-- Where a fetch is.  After the first attempt it remembers the snapshot that was
rejected. -/
inductive Fetch where
  | absent
  | seeking (rejected : Option Auth.Snapshot)
  | generating (rejected : Option Auth.Snapshot) (snapshot : Auth.Snapshot)
  | done (result : Except Fault Image)
  | dropped

structure Fetches where
  provider : String
  auth : Auth.Calls
  fetch : Nat → Fetch := fun _ ↦ .absent
  telemetry : Telemetry := {}

inductive Event where
  | start (fetch : Nat)
  | seek (fetch : Nat) (s : Auth.CallStep)
  | answer (fetch : Nat) (result : Except Provider.Failure Image)
  | drop (fetch : Nat)
  /-- A snapshot is reported as rejected, by no fetch. -/
  | invalidate (snapshot : Auth.Snapshot)

/-- The number of a fetch's call for a context: it makes at most two. -/
def callOf (f : Nat) (rejected : Option Auth.Snapshot) : Nat :=
  2 * f + if rejected.isSome then 1 else 0

namespace Fetches

def place (s : Fetches) (f : Nat) (state : Fetch) : Fetches :=
  { s with fetch := fun g ↦ if g = f then state else s.fetch g }

def finish (s : Fetches) (f : Nat) (result : Except Fault Image) : Fetches :=
  { s with telemetry := s.telemetry.count .tile (.ofResult result) }.place f (.done result)

def seek (s : Fetches) (f : Nat) (rejected : Option Auth.Snapshot) : Fetches :=
  { s with auth := s.auth.start (callOf f rejected) }.place f (.seeking rejected)

def start (s : Fetches) (f : Nat) : Fetches :=
  match s.fetch f with
  | .absent => { s with telemetry := s.telemetry.openFlow .tile }.seek f none
  | _ => s

def tell (before after : Auth.Call) (step : Auth.CallStep) (t : Telemetry) : Telemetry :=
  match before, after, step with
  | .waiting _, .leading _ _, _ => t.openFlow .preAuth
  | .leading _ _, .done _, .settle result _ _ =>
      let counted := t.count .preAuth (.ofResult result)
      match result with
      | .ok _ => counted
      | .error failure => counted.record (.refreshFailed failure)
  | _, _, _ => t

/-- A step of the call for a context that a fetch makes.  Once the call is done the fetch
goes on. -/
def stepSeek (s : Fetches) (f : Nat) (step : Auth.CallStep) : Fetches :=
  match s.fetch f with
  | .seeking rejected =>
      let c := callOf f rejected
      let auth := s.auth.stepCall c step
      let told : Fetches :=
        { s with auth, telemetry := tell (s.auth.call c) (auth.call c) step s.telemetry }
      match auth.call c with
      | .done (.ok snapshot) => told.place f (.generating rejected snapshot)
      | .done (.error failure) => told.finish f (.error (.refresh s.provider failure))
      | _ => told
  | _ => s

/-- A snapshot is reported as rejected; an accepted report is told. -/
def invalidate (s : Fetches) (snapshot : Auth.Snapshot) : Fetches :=
  { s with
    auth := { s.auth with cache := s.auth.cache.invalidate snapshot }
    telemetry :=
      if s.auth.cache.accepts snapshot then
        s.telemetry.record (.invalidated snapshot.generation)
      else s.telemetry }

/-- The provider answers.  Only at the first attempt, and only if the context is not
final, a rejected context leads to another attempt. -/
def answer (s : Fetches) (f : Nat) (result : Except Provider.Failure Image) : Fetches :=
  match s.fetch f with
  | .generating rejected snapshot =>
      match result with
      | .ok image => s.finish f (.ok image)
      | .error failure =>
          if failure.isAuthExpired && !snapshot.isBypassed && rejected.isNone then
            (s.invalidate snapshot).seek f (some snapshot)
          else s.finish f (.error (.ofFailure s.provider failure))
  | _ => s

def drop (s : Fetches) (f : Nat) : Fetches :=
  match s.fetch f with
  | .seeking rejected =>
      { s with auth := s.auth.drop (callOf f rejected) }.place f .dropped
  | .generating _ _ => s.place f .dropped
  | _ => s

def step (s : Fetches) : Event → Fetches
  | .start f => s.start f
  | .seek f e => s.stepSeek f e
  | .answer f result => s.answer f result
  | .drop f => s.drop f
  | .invalidate snapshot =>
      { s with auth := { s.auth with cache := s.auth.cache.invalidate snapshot } }

def initial (provider : String) (policy : Auth.Policy) : Fetches :=
  { provider, auth := .initial policy }

def run (s : Fetches) (events : List Event) : Fetches :=
  events.foldl step s

end Fetches

end TileFetch.Broker
