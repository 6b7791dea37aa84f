import TileFetch.Simulation.BrokerRun

/-!
# Serving fetches

Any number of fetches run on one broker, and one provider serves them.  The tasks of a simulation
take turns by a virtual clock; here any fetch may take the next turn.  A fetch takes a turn, is
dropped, or gives up a call of the provider that may take too long.  The only order is that a
fetch waits for the call of the provider that it has begun.
-/

namespace TileFetch.Simulation

open Time (Instant)

inductive Want where
  | context (previous : Auth.Context)
  | tile (context : Auth.Context)

def wanted? (s : Broker.Fetches) (f : Nat) : Option Want :=
  match s.fetch f with
  | .seeking rejected =>
      match s.auth.call (Broker.callOf f rejected) with
      | .leading _ previous => some (.context previous)
      | _ => none
  | .generating _ snapshot => some (.tile snapshot.context.value)
  | _ => none

inductive Pending (π : Type) where
  | none
  | context (call : Begun π Auth.Context)
  | tile (call : Begun π Image)

structure Serving (π : Type) where
  fetches : Broker.Fetches
  provider : π
  pending : Nat → Pending π := fun _ ↦ .none

structure Reading where
  /-- When a context is looked for, the guard is taken, or an answer arrives. -/
  now : Instant
  issuedAt : Instant
  asked : Instant
  draw : Nat

inductive Serving.Event where
  | start (fetch : Nat)
  | turn (fetch : Nat) (reading : Reading)
  | expire (fetch : Nat) (reading : Reading)
  | drop (fetch : Nat)
  | invalidate (snapshot : Auth.Snapshot)

def Begun.mayExceed {π α : Type} (call : Begun π α) (timeout : Nat) : Bool :=
  !call.delay.any (· ≤ timeout)

namespace Serving

variable {π : Type}

def await (s : Serving π) (f : Nat) (call : Pending π) : Serving π :=
  { s with pending := fun g ↦ if g = f then call else s.pending g }

/-- The step of the broker in the next turn of fetch `f`, and the provider after it.  If a call
of the provider is under way, it is its answer. -/
def next? (s : Serving π) (f : Nat) (r : Reading) : Option (Broker.Event × π) :=
  match s.pending f with
  | .context call =>
      call.delay.map fun _ ↦
        let (provider, result) := call.finish r.now s.provider
        (.seek f (.settle result r.issuedAt r.draw), provider)
  | .tile call =>
      call.delay.map fun _ ↦
        let (provider, result) := call.finish r.now s.provider
        (.answer f result, provider)
  | .none =>
      match s.fetches.fetch f with
      | .seeking rejected =>
          match s.fetches.auth.call (Broker.callOf f rejected) with
          | .looking => some (.seek f (.look r.now), s.provider)
          | .waiting _ => some (.seek f (.acquire r.now), s.provider)
          | _ => none
      | _ => none

def late? (s : Serving π) (timeout f : Nat) (r : Reading) : Option Broker.Event :=
  match s.pending f with
  | .context call =>
      if call.mayExceed timeout then
        some (.seek f (.settle (.error (.ofTimeout "pre_auth" timeout)) r.issuedAt r.draw))
      else none
  | .tile call =>
      if call.mayExceed timeout then some (.answer f (.error (.ofTimeout "generate_tile" timeout)))
      else none
  | .none => none

/-- The broker takes a step for fetch `f`, which then begins the call of the provider that it
wants. -/
def proceed (setup : Setup π) (tile : Nat → TileRequest) (s : Serving π) (f : Nat)
    (e : Broker.Event) (asked : Instant) : Serving π :=
  let overlap := s.fetches.auth.holder.isSome
  let s := { s with fetches := s.fetches.step e }
  match wanted? s.fetches f with
  | some (.context previous) =>
      let (call, provider) := setup.service.preAuth previous overlap asked s.provider
      { s with provider }.await f (.context call)
  | some (.tile context) =>
      let (call, provider) := setup.service.generate context (tile f) asked s.provider
      { s with provider }.await f (.tile call)
  | none => s.await f .none

/-- One step, where fetch `f` wants the tile `tile f`; a step that is not possible changes
nothing. -/
def step (setup : Setup π) (tile : Nat → TileRequest) (s : Serving π) : Event → Serving π
  | .start f => { s with fetches := s.fetches.step (.start f) }
  | .turn f r =>
      match s.next? f r with
      | some (e, provider) => { s with provider }.proceed setup tile f e r.asked
      | none => s
  | .expire f r =>
      match s.late? setup.timeout f r with
      | some e => s.proceed setup tile f e r.asked
      | none => s
  | .drop f => { s with fetches := s.fetches.step (.drop f) }.await f .none
  | .invalidate snapshot => { s with fetches := s.fetches.step (.invalidate snapshot) }

def initial (setup : Setup π) (policy : Auth.Policy) (provider : π) : Serving π where
  fetches := .initial setup.service.name policy
  provider

def run (setup : Setup π) (tile : Nat → TileRequest) (s : Serving π)
    (events : List Event) : Serving π :=
  events.foldl (step setup tile) s

end Serving

end TileFetch.Simulation
