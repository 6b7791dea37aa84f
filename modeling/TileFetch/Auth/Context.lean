import TileFetch.Json.Record
import TileFetch.Text.Shown
import TileFetch.Time.Instant

/-!
# Authentication contexts

What a provider learned when it authenticated: a token, the time when it expires, and
values of its own.  A context that bypasses authentication is final.
-/

namespace TileFetch.Auth

structure Context where
  bypass : Bool := false
  token : Option String := none
  expiresAt : Option Time.Instant := none
  values : Dict String := .empty
  deriving DecidableEq

def redacted : String := "<redacted>"

def shownToken : String :=
  Text.shownUnder "TokenSecret" (Text.quoted redacted)

namespace Context

def blank : Context :=
  {}

def bypassing : Context :=
  { bypass := true }

def ofToken (token : String) : Context :=
  { token := some token }

def addValue (c : Context) (key value : String) : Context :=
  { c with values := c.values.insert key value }

/-- Has the context expired?  The moment of expiry counts. -/
def isExpired (c : Context) (now : Time.Instant) : Bool :=
  c.expiresAt.any (·.notAfter now)

/-! ## JSON -/

def json (c : Context) : Json :=
  .object
    [("auth_bypass", .bool c.bypass), ("token", .stringOrNull c.token),
      ("expires_at", (c.expiresAt.map Time.Instant.json).getD .null),
      ("values", .ofTexts c.values)]

/-- A context of which not all fields have been read. -/
structure Draft where
  bypass : Option Bool := none
  token : Option (Option String) := none
  expiresAt : Option (Option Time.Instant) := none
  values : Option (Dict String) := none

def shape : Json.Shape Draft Context where
  expected := "struct ProviderContext"
  fields :=
    [.of "auth_bypass" Draft.bypass (fun d v ↦ { d with bypass := v }) false .bool,
      .of "token" Draft.token (fun d v ↦ { d with token := v }) false (.option .string),
      .of "expires_at" Draft.expiresAt (fun d v ↦ { d with expiresAt := v }) false
        (.option Time.Instant.decoder),
      .of "values" Draft.values (fun d v ↦ { d with values := v }) false (.dict .string)]
  closed := false
  blank := {}
  finish d := do
    let bypass ← Json.required "auth_bypass" d.bypass
    let values ← Json.required "values" d.values
    return { bypass, token := d.token.getD none, expiresAt := d.expiresAt.getD none, values }

def decoder : Json.Decoder Context :=
  shape.decoder

/-- A one-line description, without the token. -/
def shown (c : Context) : String :=
  Text.shownRecord "ProviderContext"
    [("auth_bypass", Text.shownBool c.bypass),
      ("token", Text.shownOption (c.token.map fun _ ↦ shownToken)),
      ("expires_at", Text.shownOption (c.expiresAt.map Time.Instant.shown)),
      ("values", Text.shownTexts c.values.entries)]

end Context

end TileFetch.Auth
