import TileFetch.Auth.Context
import TileFetch.Provider.Config
import TileFetch.Provider.Exchange

/-!
# Public tile servers

A provider that needs no authentication: the address of a tile comes from a template.
-/

namespace TileFetch.Provider

structure Public where
  name : String
  template : UrlTemplate
  headers : List Client.Header

namespace Public

structure Params where
  url : String
  headers : Dict String

structure Draft where
  url : Option String := none
  headers : Option (Dict String) := none

def Params.shape : Json.Shape Draft Params where
  expected := "struct TemplateParams"
  fields :=
    [.of "url" Draft.url (fun d v ↦ { d with url := v }) false .string,
      .of "headers" Draft.headers (fun d v ↦ { d with headers := v }) true (.dict .string)]
  closed := true
  blank := {}
  finish d := do
    let url ← Json.required "url" d.url
    return { url, headers := d.headers.getD .empty }

def ofParams (name : String) (params : Provider.Params) : Except ConfigFault Public := do
  let p ← params.read Params.shape.decoder
  let template ← (UrlTemplate.parse p.url).mapError .template
  return { name, template, headers := p.headers.entries }

def ofTemplate (name : String) (template : UrlTemplate) : Public where
  name
  template
  headers := []

def preAuth : Exchange Auth.Context :=
  .answer (.ok .bypassing)

def generate (p : Public) (env : Env) (r : TileRequest) : Exchange Image :=
  match p.template.renderUrl r with
  | .error fault =>
      .answer (.error
        (.ofResponse env.messages p.name fault.message (some (.address fault))))
  | .ok url =>
      .ask { url, headers := p.headers } fun _ response ↦
        response.mapError (Failure.ofTileRequest · p.name url.text env.messages)

def shown (p : Public) : String :=
  let headers := p.headers.map fun h ↦ "(" ++ Text.quoted h.1 ++ ", " ++ Text.quoted h.2 ++ ")"
  Text.shownRecord "TemplateProvider"
    [("name", Text.quoted p.name), ("template", p.template.shown),
      ("headers", "[" ++ ", ".intercalate headers ++ "]")]

end Public

end TileFetch.Provider
