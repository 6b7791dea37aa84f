import TileFetch.Json.Record
import TileFetch.Text.CharClass
import TileFetch.Text.Shown
import TileFetch.Time.Span

/-!
# Client settings

What every request of a provider has in common: the time it may take, the user agent, and
headers.  Where these headers and those of the provider have a name in common, one side
wins and the other side's entries of that name are left out.  Names are compared without
regard to the case of ASCII letters.
-/

namespace TileFetch.Client

abbrev Header : Type :=
  String × String

def sameName (a b : String) : Bool :=
  Text.sameAsciiCaseless a.toList b.toList

/-- The side that wins where both have a header. -/
inductive HeaderPolicy where
  | providerOverrides
  | configOverrides
  deriving DecidableEq

namespace HeaderPolicy

def name : HeaderPolicy → String
  | providerOverrides => "provider_overrides"
  | configOverrides => "config_overrides"

def shown : HeaderPolicy → String
  | providerOverrides => "ProviderOverrides"
  | configOverrides => "ConfigOverrides"

def decoder : Json.Decoder HeaderPolicy :=
  .variant ([providerOverrides, configOverrides].map fun p ↦ (p.name, p))

end HeaderPolicy

structure Settings where
  /-- The time that a call may take, in nanoseconds. -/
  timeout : Nat
  userAgent : String
  headers : Dict String
  headerPolicy : HeaderPolicy
  deriving DecidableEq

namespace Settings

/-- Half a minute, and no headers. -/
def default : Settings where
  timeout := 30 * 1000000000
  userAgent := "tile-broker/0.1.0"
  headers := .empty
  headerPolicy := .providerOverrides

def timeoutMillis (s : Settings) : Nat :=
  s.timeout / 1000000

def addHeader (s : Settings) (h : Header) : Settings :=
  { s with headers := s.headers.insert h.1 h.2 }

/-- The entries of the losing side whose names the winning side does not have. -/
def withoutNamesOf (winner loser : List Header) : List Header :=
  loser.filter fun h ↦ !winner.any fun w ↦ sameName w.1 h.1

def mergeHeaders (s : Settings) (extra : List Header) : List Header :=
  match s.headerPolicy with
  | .providerOverrides => withoutNamesOf extra s.headers.entries ++ extra
  | .configOverrides => withoutNamesOf s.headers.entries extra ++ s.headers.entries

/-! ## JSON -/

def maxMillis : Nat := 18446744073709551615

/-- The JSON value of settings: the timeout is written in whole milliseconds. -/
def json (s : Settings) : Json :=
  .object
    [("timeout_ms", .nat (min s.timeoutMillis maxMillis)), ("user_agent", .string s.userAgent),
      ("headers", .ofTexts s.headers), ("header_policy", .string s.headerPolicy.name)]

structure Draft where
  timeout : Option Nat := none
  userAgent : Option String := none
  headers : Option (Dict String) := none
  headerPolicy : Option HeaderPolicy := none

/-- The record that settings are read from.  Every field may be absent. -/
def shape : Json.Shape Draft Settings where
  expected := "struct ClientConfig"
  fields :=
    [.of "timeout_ms" Draft.timeout (fun d v ↦ { d with timeout := v }) true
        ((Json.Decoder.natural 64).map (· * 1000000)),
      .of "user_agent" Draft.userAgent (fun d v ↦ { d with userAgent := v }) true .string,
      .of "headers" Draft.headers (fun d v ↦ { d with headers := v }) true (.dict .string),
      .of "header_policy" Draft.headerPolicy (fun d v ↦ { d with headerPolicy := v }) true
        HeaderPolicy.decoder]
  closed := false
  blank := {}
  finish d := .ok
    { timeout := d.timeout.getD default.timeout
      userAgent := d.userAgent.getD default.userAgent
      headers := d.headers.getD default.headers
      headerPolicy := d.headerPolicy.getD default.headerPolicy }

def decoder : Json.Decoder Settings :=
  shape.decoder

def shown (s : Settings) : String :=
  Text.shownRecord "ClientConfig"
    [("timeout", Time.shownNanos s.timeout), ("user_agent", Text.quoted s.userAgent),
      ("headers", Text.shownTexts s.headers.entries),
      ("header_policy", s.headerPolicy.shown)]

end Settings

end TileFetch.Client
