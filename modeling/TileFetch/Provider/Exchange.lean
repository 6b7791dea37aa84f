import TileFetch.Client.Request
import TileFetch.Provider.Failure
import TileFetch.Tile.Image
import TileFetch.Time.Instant

/-!
# Exchanges

What a provider does when it is asked for something: it answers at once, or it sends one
request and answers from the response.
-/

namespace TileFetch.Provider

structure Env where
  settings : Client.Settings
  messages : Messages

def Env.shown (env : Env) : String :=
  Text.shownPartly "ProviderEnv"
    [("client", env.settings.shown), ("messages", env.messages.shown)]

def Env.default : Env :=
  ⟨.default, .default⟩

/-- A call: an answer, or a request and the answer to each response at the time when it
arrives. -/
inductive Exchange (α : Type) where
  | answer (result : Except Failure α)
  | ask (request : Client.Request)
      (finish : Time.Instant → Except Client.Fault Image → Except Failure α)

namespace Exchange

def request? {α : Type} : Exchange α → Option Client.Request
  | answer _ => none
  | ask request _ => some request

/-- The answer of a call over a transport that gives `response` at the time `now`. -/
def run {α : Type} (now : Time.Instant) (response : Client.Request → Except Client.Fault Image) :
    Exchange α → Except Failure α
  | answer result => result
  | ask request finish => finish now (response request)

end Exchange

end TileFetch.Provider
