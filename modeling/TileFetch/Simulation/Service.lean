import TileFetch.Client.Outgoing
import TileFetch.Provider.Spec
import TileFetch.Simulation.World

/-!
# Services

A service is a provider that can be run: its calls change a state, take some time of the
virtual clock, and have an outcome.
-/

namespace TileFetch.Simulation

open Time (Instant)

/-- A call of a provider that has begun: how long it takes, if it ever ends, and what comes
of it. -/
structure Begun (π α : Type) where
  delay : Option Nat
  finish : Instant → π → π × Except Provider.Failure α

structure Service (π : Type) where
  name : String
  /-- Authentication begins; the truth value says whether another is in flight. -/
  preAuth : Auth.Context → Bool → Instant → π → Begun π Auth.Context × π
  generate : Auth.Context → TileRequest → Instant → π → Begun π Image × π

abbrev Transport (π : Type) : Type :=
  Client.Request → π → (Nat × Except Client.Fault Image) × π

def Begun.ofExchange {π α : Type} (transport : Transport π) (state : π) :
    Provider.Exchange α → Begun π α × π
  | .answer result => (⟨some 0, fun _ s ↦ (s, result)⟩, state)
  | .ask request finish =>
      let ((delay, response), state) := transport request state
      (⟨some delay, fun now s ↦ (s, finish now response)⟩, state)

def Service.ofBuiltIn {π : Type} (p : Provider.BuiltIn) (env : Provider.Env)
    (transport : Transport π) : Service π where
  name := p.name
  preAuth _ _ _ state := Begun.ofExchange transport state (p.preAuth env)
  generate context request now state :=
    Begun.ofExchange transport state (p.generate env context request now)

def Transport.offline {π : Type} : Transport π := fun request state ↦
  ((0, .error (.network ("offline transport cannot reach " ++ request.url.text))), state)

/-- The transport of a machine without a network: what cannot be built fails at once, and
everything else a moment later. -/
def Transport.unreachable {π : Type} (settings : Client.Settings) : Transport π :=
  fun request state ↦
    match Client.buildFault? settings request with
    | some fault => ((0, .error fault), state)
    | none => ((1, .error (.network ("cannot reach " ++ request.url.text))), state)

def tokenText (context : Auth.Context) : String :=
  context.token.getD "none"

def echoText (context : Auth.Context) (request : TileRequest) : String :=
  request.text ++ "@" ++ tokenText context

end TileFetch.Simulation
