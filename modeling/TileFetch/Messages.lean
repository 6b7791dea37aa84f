import TileFetch.Json.Record
import TileFetch.Template.Scan
import TileFetch.Text.Shown

/-!
# Messages

Templates for the messages of failures, by key.  A key without a template of its own has
the built-in one, and a key that has none either stands for itself.
-/

namespace TileFetch

structure Messages where
  templates : Dict String
  deriving DecidableEq

namespace Messages

def authFailed : String := "auth_failed"

def authExpired : String := "auth_expired"

def fetchFailed : String := "fetch_failed"

def invalidResponse : String := "invalid_response"

def builtIn : Dict String :=
  .ofPairs
    [(authFailed, "\x7bprovider\x7d: authentication failed: \x7breason\x7d"),
      (authExpired,
        "\x7bprovider\x7d: upstream rejected the credentials (HTTP \x7bstatus\x7d)"),
      (fetchFailed, "\x7bprovider\x7d: HTTP \x7bstatus\x7d from \x7burl\x7d"),
      (invalidResponse, "\x7bprovider\x7d: invalid response: \x7breason\x7d")]

def default : Messages :=
  ⟨.empty⟩

def set (m : Messages) (key template : String) : Messages :=
  ⟨m.templates.insert key template⟩

def template? (m : Messages) (key : String) : Option String :=
  (m.templates.get? key).or (builtIn.get? key)

/-- The argument with a name; the first of that name counts. -/
def argument? (args : List (String × String)) (name : List Char) : Option (List Char) :=
  (args.find? fun a ↦ a.1.toList = name).map (·.2.toList)

def render (m : Messages) (key : String) (args : List (String × String)) : String :=
  match m.template? key with
  | none => key
  | some template => String.ofList (Template.expand (argument? args) template.toList)

def json (m : Messages) : Json :=
  .ofTexts m.templates

def decoder : Json.Decoder Messages :=
  (Json.Decoder.dict .string).map Messages.mk

def shown (m : Messages) : String :=
  "ErrorMessages(" ++ Text.shownTexts m.templates.entries ++ ")"

end Messages

end TileFetch
