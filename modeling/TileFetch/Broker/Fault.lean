import TileFetch.Auth.Cache
import TileFetch.Provider.Config

/-!
# Failures of fetches
-/

namespace TileFetch.Broker

inductive Fault where
  | config (fault : Provider.ConfigFault)
  /-- No context could be had.  The failure is shared by all who waited for it. -/
  | refresh (provider : String) (failure : Auth.Handle Provider.Failure)
  /-- Even a new context was rejected, or the context is final. -/
  | expired (provider : String) (failure : Provider.Failure)
  | fetch (provider : String) (failure : Provider.Failure)

namespace Fault

def failure? : Fault → Option Provider.Failure
  | config _ => none
  | refresh _ failure => some failure.value
  | expired _ failure => some failure
  | fetch _ failure => some failure

def message : Fault → String
  | config fault => fault.message
  | refresh provider _ => "Provider `" ++ provider ++ "` could not authenticate."
  | expired provider _ =>
      "Provider `" ++ provider ++ "` rejected its authentication context."
  | fetch provider _ => "Provider `" ++ provider ++ "` failed to generate the tile."

def causes (fault : Fault) : List String :=
  match fault with
  | config fault => fault.causes
  | _ => (fault.failure?.map fun f ↦ f.message :: f.causes).getD []

/-- The fault of a failed call for a tile after which no other is made. -/
def ofFailure (provider : String) (failure : Provider.Failure) : Fault :=
  if failure.isAuthExpired then expired provider failure else fetch provider failure

end Fault

end TileFetch.Broker
