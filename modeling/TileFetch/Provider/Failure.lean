import TileFetch.Client.Fault
import TileFetch.Json.Fault
import TileFetch.Json.Record
import TileFetch.Messages
import TileFetch.Url.Basic

/-!
# Failures of providers

A failure has a kind, a message, and possibly a cause.  The kind decides what happens
next: only after `authExpired` is a tile asked for again.
-/

namespace TileFetch.Provider

inductive FailureKind where
  | authExpired
  | fetch
  | invalidResponse
  | timeout
  deriving DecidableEq

namespace FailureKind

def name : FailureKind → String
  | authExpired => "auth_expired"
  | fetch => "fetch"
  | invalidResponse => "invalid_response"
  | timeout => "timeout"

def shown : FailureKind → String
  | authExpired => "AuthExpired"
  | fetch => "Fetch"
  | invalidResponse => "InvalidResponse"
  | timeout => "Timeout"

def all : List FailureKind :=
  [authExpired, fetch, invalidResponse, timeout]

def decoder : Json.Decoder FailureKind :=
  .variant (all.map fun k ↦ (k.name, k))

def ofStatus (code : Nat) : FailureKind :=
  if code = 401 || code = 403 then authExpired else fetch

end FailureKind

inductive Cause where
  | request (fault : Client.Fault)
  | address (fault : Url.UrlFault)
  | document (fault : Json.Fault)
  | other (message : String)

def Cause.messages : Cause → List String
  | request fault => fault.message :: fault.causes
  | address fault => [fault.message]
  | document fault => [fault.message]
  | other message => [message]

structure Failure where
  kind : FailureKind
  message : String
  cause : Option Cause := none

namespace Failure

def causes (f : Failure) : List String :=
  (f.cause.map Cause.messages).getD []

def isAuthExpired (f : Failure) : Bool :=
  f.kind = .authExpired

def ofTimeout (operation : String) (millis : Nat) : Failure where
  kind := .timeout
  message := operation ++ " timed out after " ++ toString millis ++ " ms"

def ofRequest (fault : Client.Fault) : Failure where
  kind :=
    match fault with
    | .timeout _ => .timeout
    | _ => .fetch
  message := fault.message
  cause := some (.request fault)

/-- The failure of a request for a tile.  For an answer with a status there is a message
template. -/
def ofTileRequest (fault : Client.Fault) (provider url : String) (messages : Messages) :
    Failure :=
  match fault.httpStatus with
  | none => ofRequest fault
  | some code =>
      let kind := FailureKind.ofStatus code
      let key := if kind = .authExpired then Messages.authExpired else Messages.fetchFailed
      { kind
        message :=
          messages.render key
            [("provider", provider), ("status", toString code), ("url", url)]
        cause := some (.request fault) }

def ofResponse (messages : Messages) (provider reason : String)
    (cause : Option Cause := none) : Failure where
  kind := .invalidResponse
  message :=
    messages.render Messages.invalidResponse [("provider", provider), ("reason", reason)]
  cause

end Failure

end TileFetch.Provider
