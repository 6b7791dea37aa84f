import TileFetch.Json.Decoder
import TileFetch.Provider.Failure
import TileFetch.Template.UrlTemplate

/-!
# Configuration

The parameters of a provider, which are any JSON object until the provider reads them,
and what may be wrong with a configuration.
-/

namespace TileFetch.Provider

inductive ConfigFault where
  | client (cause : Failure)
  | params (fault : Json.Fault)
  | template (fault : TemplateFault)
  | url (field : String) (fault : Url.UrlFault)
  | layer (fault : LayerFault)
  | kind (name : String)

namespace ConfigFault

def message : ConfigFault → String
  | client _ => "HTTP client could not be constructed."
  | params fault => "Provider parameter `" ++ Json.pathText fault.path ++ "` is invalid."
  | template fault => "URL template `" ++ fault.template ++ "` is invalid."
  | url field _ => "The " ++ field ++ " URL is invalid."
  | layer _ => "Layer name is invalid."
  | kind name => "No provider is registered under `" ++ name ++ "`."

def causes : ConfigFault → List String
  | client cause => cause.message :: cause.causes
  | params fault => [fault.message]
  | template fault => [fault.cause.message]
  | url _ fault => [fault.message]
  | layer fault => [fault.message]
  | kind _ => []

end ConfigFault

structure Params where
  members : List (String × Json)

namespace Params

def empty : Params :=
  ⟨[]⟩

/-- The parameters of a JSON value, which has to be an object. -/
def ofJson : Json → Except ConfigFault Params
  | .object members => .ok ⟨members⟩
  | j => .error (.params { cause := .refused ("expected a mapping, found " ++ j.text) })

/-- The parameters of a list of members; of two with one key the later wins. -/
def ofPairs (pairs : List (String × Json)) : Params :=
  ⟨pairs.foldl (fun ms m ↦ putEntry m.1 m.2 ms) []⟩

def set (p : Params) (key : String) (value : Json) : Params :=
  ⟨putEntry key value p.members⟩

def get? (p : Params) (key : String) : Option Json :=
  findEntry key p.members

def isEmpty (p : Params) : Bool :=
  p.members.isEmpty

def json (p : Params) : Json :=
  .object p.members

def decoder : Json.Decoder Params :=
  (Json.Decoder.entries .any).map Params.mk

def read {α : Type} (p : Params) (d : Json.Decoder α) : Except ConfigFault α :=
  (d.ofJson p.json).mapError .params

end Params

end TileFetch.Provider
