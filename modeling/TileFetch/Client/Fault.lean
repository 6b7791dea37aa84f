import TileFetch.Text.Utf8

/-!
# Failures of transports

Why a request over HTTP gave no image.  Of the body of an answer that was not a success
only the beginning is kept.
-/

namespace TileFetch.Client

inductive Fault where
  | status (code : Nat) (url : String) (preview : Option String)
  | timeout (url : String)
  | network (cause : String)
  /-- There was no request to send. -/
  | build (reason : String)
  deriving DecidableEq

def previewLimit : Nat := 256

/-- A text that is cut after some characters; an ellipsis marks the cut. -/
def shorten (limit : Nat) (cs : List Char) : List Char :=
  if cs.length ≤ limit then cs else cs.take limit ++ ['…']

/-- The beginning of a body as text, unless it is empty. -/
def preview (body : Option (List UInt8)) : Option String :=
  match body with
  | none => none
  | some [] => none
  | some bytes => some (String.ofList (shorten previewLimit (Text.Utf8.decodeLossy bytes)))

namespace Fault

def ofStatus (code : Nat) (url : String) (body : Option (List UInt8)) : Fault :=
  status code url (preview body)

def message : Fault → String
  | status code url _ => "HTTP " ++ toString code ++ " from " ++ url ++ "."
  | timeout url => "Request to " ++ url ++ " timed out."
  | network _ => "Network error occurred while calling the upstream."
  | build reason => "Request could not be built: " ++ reason ++ "."

def causes : Fault → List String
  | network cause => [cause]
  | _ => []

def httpStatus : Fault → Option Nat
  | status code _ _ => some code
  | _ => none

end Fault

end TileFetch.Client
