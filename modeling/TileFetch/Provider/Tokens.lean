import TileFetch.Auth.Context
import TileFetch.Provider.Config
import TileFetch.Provider.Exchange
import TileFetch.Text.Base64

/-!
# Tile servers with tokens

A provider that gets a token for a form and sends it with every request for a tile.
-/

namespace TileFetch.Provider

structure Tokens where
  name : String
  template : UrlTemplate
  tokenUrl : Url
  /-- The value of the header with the client's credentials, if it has any. -/
  basicAuth : Option String
  form : List (String × String)
  /-- The name of the header that carries the token, and what its value begins with. -/
  header : String
  headerPrefix : String

namespace Tokens

/-! ## Parameters -/

structure Params where
  url : String
  tokenUrl : String
  clientId : Option String
  clientSecret : Option String
  form : Dict String
  header : String
  headerPrefix : String

structure Draft where
  url : Option String := none
  tokenUrl : Option String := none
  clientId : Option (Option String) := none
  clientSecret : Option (Option String) := none
  form : Option (Dict String) := none
  header : Option String := none
  headerPrefix : Option String := none

def Params.shape : Json.Shape Draft Params where
  expected := "struct TokenParams"
  fields :=
    [.of "url" Draft.url (fun d v ↦ { d with url := v }) false .string,
      .of "token_url" Draft.tokenUrl (fun d v ↦ { d with tokenUrl := v }) false .string,
      .of "client_id" Draft.clientId (fun d v ↦ { d with clientId := v }) true
        (.option .string),
      .of "client_secret" Draft.clientSecret (fun d v ↦ { d with clientSecret := v }) true
        (.option .string),
      .of "form" Draft.form (fun d v ↦ { d with form := v }) true (.dict .string),
      .of "header" Draft.header (fun d v ↦ { d with header := v }) true .string,
      .of "header_prefix" Draft.headerPrefix (fun d v ↦ { d with headerPrefix := v }) true
        .string]
  closed := true
  blank := {}
  finish d := do
    let url ← Json.required "url" d.url
    let tokenUrl ← Json.required "token_url" d.tokenUrl
    return { url, tokenUrl, clientId := d.clientId.getD none,
             clientSecret := d.clientSecret.getD none, form := d.form.getD .empty,
             header := d.header.getD "Authorization",
             headerPrefix := d.headerPrefix.getD "Bearer " }

def basicHeader (id secret : String) : String :=
  "Basic " ++ String.ofList (Text.Base64.encode (Text.Utf8.bytes (id ++ ":" ++ secret)))

/-- The server that parameters describe.  The address for tokens is looked at before the
template. -/
def ofParams (name : String) (params : Provider.Params) : Except ConfigFault Tokens := do
  let p ← params.read Params.shape.decoder
  let tokenUrl ← (Url.parse p.tokenUrl).mapError (.url "token_url")
  let template ← (UrlTemplate.parse p.url).mapError .template
  return { name, template, tokenUrl,
           basicAuth := p.clientId.map (basicHeader · (p.clientSecret.getD "")),
           form := p.form.entries, header := p.header, headerPrefix := p.headerPrefix }

/-! ## Tokens -/

/-- The answer to a request for a token.  A token may come under two names. -/
structure Response where
  token : Option String
  accessToken : Option String
  /-- The lifetime in seconds. -/
  expiresIn : Option Int

structure ResponseDraft where
  token : Option (Option String) := none
  accessToken : Option (Option String) := none
  expiresIn : Option (Option Int) := none

def Response.shape : Json.Shape ResponseDraft Response where
  expected := "struct TokenResponse"
  fields :=
    [.of "token" ResponseDraft.token (fun d v ↦ { d with token := v }) true (.option .string),
      .of "access_token" ResponseDraft.accessToken (fun d v ↦ { d with accessToken := v }) true
        (.option .string),
      .of "expires_in" ResponseDraft.expiresIn (fun d v ↦ { d with expiresIn := v }) true
        (.option (.signed 64))]
  closed := false
  blank := {}
  finish d := .ok
    { token := d.token.getD none, accessToken := d.accessToken.getD none,
      expiresIn := d.expiresIn.getD none }

def expiry (now : Time.Instant) (lifetime : Int) : Except String Time.Instant :=
  if lifetime ≤ 0 then .error "expires_in must be positive"
  else
    match (Time.Span.ofParts? lifetime 0).bind now.add? with
    | some t => .ok t
    | none => .error "expires_in out of range"

def Response.context (now : Time.Instant) (r : Response) : Except String Auth.Context :=
  match r.token.or r.accessToken with
  | none => .error "token response carried no token"
  | some token =>
      if token.isEmpty then .error "token response carried an empty token"
      else
        match r.expiresIn with
        | none => .ok (.ofToken token)
        | some lifetime => do
            let expiresAt ← expiry now lifetime
            return { Auth.Context.ofToken token with expiresAt := some expiresAt }

/-- The context of the body of an answer.  What follows the JSON value is not read. -/
def readToken (p : Tokens) (env : Env) (now : Time.Instant) (body : List UInt8) :
    Except Failure Auth.Context :=
  match Response.shape.decoder.parseLeading body with
  | .error fault =>
      let reason :=
        "token response at `" ++ Json.pathText fault.path ++ "`: " ++ fault.message
      .error (.ofResponse env.messages p.name reason (some (.document fault)))
  | .ok response => (response.context now).mapError (.ofResponse env.messages p.name ·)

/-- The failure of a request for a token.  A status is never taken for expired
credentials. -/
def authFailure (p : Tokens) (env : Env) (fault : Client.Fault) : Failure where
  kind :=
    match fault with
    | .timeout _ => .timeout
    | _ => .fetch
  message :=
    env.messages.render Messages.authFailed [("provider", p.name), ("reason", fault.message)]
  cause := some (.request fault)

def authHeaders (p : Tokens) : List Client.Header :=
  (p.basicAuth.map ("Authorization", ·)).toList

def preAuth (p : Tokens) (env : Env) : Exchange Auth.Context :=
  .ask { url := p.tokenUrl, form := some p.form, headers := p.authHeaders } fun now response ↦
    match response with
    | .error fault => .error (p.authFailure env fault)
    | .ok image => p.readToken env now image.bytes

/-! ## Tiles -/

def generate (p : Tokens) (env : Env) (context : Auth.Context) (r : TileRequest)
    (now : Time.Instant) : Exchange Image :=
  match context.token with
  | none =>
      .answer (.error
        { kind := .authExpired, message := p.name ++ ": no token has been issued yet" })
  | some token =>
      if context.isExpired now then
        .answer (.error
          { kind := .authExpired, message := p.name ++ ": the issued token has expired" })
      else
        match p.template.renderUrl r with
        | .error fault =>
            .answer (.error
              (.ofResponse env.messages p.name fault.message (some (.address fault))))
        | .ok url =>
            .ask { url, headers := [(p.header, p.headerPrefix ++ token)] } fun _ response ↦
              response.mapError (Failure.ofTileRequest · p.name url.text env.messages)

/-- A one-line description, without the credentials. -/
def shown (p : Tokens) : String :=
  Text.shownRecord "TokenProvider"
    [("name", Text.quoted p.name), ("template", p.template.shown),
      ("token_url", Text.quoted p.tokenUrl.text),
      ("basic_auth_set", Text.shownBool p.basicAuth.isSome), ("header", Text.quoted p.header)]

end Tokens

end TileFetch.Provider
