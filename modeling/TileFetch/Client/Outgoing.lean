import TileFetch.Client.Fault
import TileFetch.Client.Request
import TileFetch.Text.Utf8
import TileFetch.Url.Percent

/-!
# Outgoing requests

What a request needs so that it can be sent: headers that can be written, and an address
that HTTP knows.
-/

namespace TileFetch.Client

def isNameChar (c : Char) : Bool :=
  c.isAlphanum || ['!', '#', '$', '%', '&', '\'', '*', '+', '-', '.', '^', '_', '\x60', '|',
    '~'].contains c

/-- Can the header be written?  Its value has no control characters but the tab. -/
def isWritable (h : Header) : Bool :=
  !h.1.isEmpty && h.1.toList.all isNameChar &&
    (Text.Utf8.bytes h.2).all fun b ↦ (0x20 ≤ b && b ≠ 0x7F) || b = 0x09

def isHostChar (c : Char) : Bool :=
  c.isAlphanum || ['!', '$', '&', '\'', '(', ')', '*', '+', ',', '-', '.', ':', ';', '=', '[',
    ']', '_', '~'].contains c

def maxAddress : Nat := 65534

def isReachable (u : Url) : Bool :=
  (u.scheme = "http".toList || u.scheme = "https".toList) && u.host.text.all isHostChar &&
    u.chars.length ≤ maxAddress

/-- Are there a user name and a password that can be told to a server?  The user name has
to be text, and one of the two has to be text that is there. -/
def hasCredentials (u : Url) : Bool :=
  let text? (cs : List Char) : Option (List Char) :=
    Text.Utf8.decode? (Url.percentDecode cs)
  (text? u.username).isSome &&
    (!u.username.isEmpty || (!u.password.isEmpty && (text? u.password).isSome))

def address (u : Url) : Url :=
  if hasCredentials u then { u with username := [], password := [] } else u

/-- Why a request cannot be sent, if so.  Headers are looked at before the address. -/
def buildFault? (settings : Settings) (r : Request) : Option Fault :=
  let headers := ("user-agent", settings.userAgent) :: settings.mergeHeaders r.headers
  if !headers.all isWritable then some (.build "builder error")
  else if !isReachable (address r.url) then
    some (.build ("builder error for url (" ++ (address r.url).text ++ ")"))
  else none

end TileFetch.Client
