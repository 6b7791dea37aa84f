import TileFetch.Provider.Public
import TileFetch.Provider.Tokens

/-!
# Descriptions of providers

A host describes a provider by its name, its kind and its parameters.
-/

namespace TileFetch.Provider

inductive Kind where
  | template
  | token
  deriving DecidableEq

namespace Kind

def name : Kind → String
  | template => "template"
  | token => "token"

def shown : Kind → String
  | template => "Template"
  | token => "Token"

def all : List Kind :=
  [template, token]

def ofName (s : String) : Except ConfigFault Kind :=
  match all.find? (·.name = s) with
  | some kind => .ok kind
  | none => .error (.kind s)

def decoder : Json.Decoder Kind :=
  .variant (all.map fun k ↦ (k.name, k))

end Kind

inductive BuiltIn where
  | plain (server : Public)
  | tokens (server : Tokens)

namespace BuiltIn

def build (kind : Kind) (name : String) (params : Params) : Except ConfigFault BuiltIn :=
  match kind with
  | .template => (Public.ofParams name params).map plain
  | .token => (Tokens.ofParams name params).map tokens

def name : BuiltIn → String
  | plain server => server.name
  | tokens server => server.name

def template : BuiltIn → UrlTemplate
  | plain server => server.template
  | tokens server => server.template

def shown : BuiltIn → String
  | plain server => server.shown
  | tokens server => server.shown

def preAuth (env : Env) : BuiltIn → Exchange Auth.Context
  | plain _ => Public.preAuth
  | tokens server => server.preAuth env

def generate (env : Env) (context : Auth.Context) (r : TileRequest) (now : Time.Instant) :
    BuiltIn → Exchange Image
  | plain server => server.generate env r
  | tokens server => server.generate env context r now

end BuiltIn

structure Spec where
  name : String
  kind : Kind
  params : Params

namespace Spec

def build (s : Spec) : Except ConfigFault BuiltIn :=
  BuiltIn.build s.kind s.name s.params

def json (s : Spec) : Json :=
  .object
    [("name", .string s.name), ("kind", .string s.kind.name), ("params", s.params.json)]

structure Draft where
  name : Option String := none
  kind : Option Kind := none
  params : Option Params := none

def shape : Json.Shape Draft Spec where
  expected := "struct ProviderSpec"
  fields :=
    [.of "name" Draft.name (fun d v ↦ { d with name := v }) false .string,
      .of "kind" Draft.kind (fun d v ↦ { d with kind := v }) false Kind.decoder,
      .of "params" Draft.params (fun d v ↦ { d with params := v }) true Params.decoder]
  closed := false
  blank := {}
  finish d := do
    let name ← Json.required "name" d.name
    let kind ← Json.required "kind" d.kind
    return { name, kind, params := d.params.getD .empty }

def decoder : Json.Decoder Spec :=
  shape.decoder

end Spec

end TileFetch.Provider
