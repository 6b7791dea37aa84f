import TileFetch.Simulation.Service

/-!
# The counting provider

A provider that counts its calls.  Each successful authentication issues the next token,
so that an image tells from which one it was made.
-/

namespace TileFetch.Simulation

inductive TileRule where
  | succeed
  /-- Contexts before the given one are rejected. -/
  | expireUntil (limit : Nat)
  | alwaysExpired
  | alwaysFail

structure CountingRules where
  bypass : Bool := false
  /-- The number of authentications that fail before the first success. -/
  failing : Nat := 0
  delay : Nat := 20
  tiles : TileRule := .succeed

structure Counts where
  preAuths : Nat := 0
  tiles : Nat := 0
  issued : Nat := 0

namespace Counts

def numberKey : String := "generation"

def issue (n : Nat) : Auth.Context :=
  (Auth.Context.ofToken ("token-" ++ toString n)).addValue numberKey (toString n)

def numberOf (context : Auth.Context) : Nat :=
  ((context.values.get? numberKey).bind String.toNat?).getD 0

/-- What an authentication comes to that is the call number `call`, counted from zero. -/
def authenticate (rules : CountingRules) (call : Nat) (c : Counts) :
    Counts × Except Provider.Failure Auth.Context :=
  if call < rules.failing then
    (c, .error
      { kind := .fetch
        message := "identity provider unreachable (attempt " ++ toString (call + 1) ++ ")" })
  else if rules.bypass then (c, .ok .bypassing)
  else ({ c with issued := c.issued + 1 }, .ok (issue (c.issued + 1)))

def rejection (context : Auth.Context) : Provider.Failure where
  kind := .authExpired
  message := "context generation " ++ toString (numberOf context) ++ " was rejected"

def reply (rules : CountingRules) (context : Auth.Context) (request : TileRequest) :
    Except Provider.Failure Image :=
  let image := Image.ofString (echoText context request) (some "text/plain")
  match rules.tiles with
  | .succeed => .ok image
  | .expireUntil limit =>
      if numberOf context < limit then .error (rejection context) else .ok image
  | .alwaysExpired => .error (rejection context)
  | .alwaysFail => .error { kind := .fetch, message := "upstream returned garbage" }

end Counts

def Service.counting {π : Type} (rules : CountingRules) (get : π → Counts)
    (set : π → Counts → π) : Service π where
  name := "counting"
  preAuth _ _ _ state :=
    let counts := get state
    let state := set state { counts with preAuths := counts.preAuths + 1 }
    let finish (_ : Time.Instant) (state : π) :=
      let (counts', result) := Counts.authenticate rules counts.preAuths (get state)
      (set state counts', result)
    (⟨some rules.delay, finish⟩, state)
  generate context request _ state :=
    let counts := get state
    let state := set state { counts with tiles := counts.tiles + 1 }
    (⟨some 0, fun _ s ↦ (s, Counts.reply rules context request)⟩, state)

end TileFetch.Simulation
