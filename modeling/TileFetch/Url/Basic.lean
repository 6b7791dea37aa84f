import TileFetch.Url.Host

/-!
# URLs

The parts of a URL, all of them in their encoded form, and its text.
-/

namespace TileFetch

namespace Url

/-- The path: segments, each of them after a slash, or a text without structure. -/
inductive Path where
  | segments (list : List (List Char))
  | plain (text : List Char)
  deriving DecidableEq

end Url

structure Url where
  scheme : List Char
  username : List Char
  password : List Char
  host : Url.Host
  /-- The port, if it is not the one of the scheme. -/
  port : Option Nat
  path : Url.Path
  query : Option (List Char)
  fragment : Option (List Char)
  deriving DecidableEq

namespace Url

def Path.text : Path → List Char
  | segments list => list.flatMap ('/' :: ·)
  | plain text => text

def credentials (u : Url) : List Char :=
  if u.username.isEmpty && u.password.isEmpty then []
  else if u.password.isEmpty then u.username ++ ['@']
  else u.username ++ ':' :: u.password ++ ['@']

/-- What stands between the scheme and the path.  A path that begins with two slashes is
kept apart from the scheme by a dot. -/
def authority (u : Url) : List Char :=
  match u.host with
  | .absent =>
      match u.path with
      | .segments ([] :: _ :: _) => ['/', '.']
      | _ => []
  | host =>
      '/' :: '/' :: u.credentials ++ host.text ++
        match u.port with
        | none => []
        | some p => ':' :: Nat.toDigits 10 p

def chars (u : Url) : List Char :=
  u.scheme ++ ':' :: u.authority ++ u.path.text ++ (u.query.map ('?' :: ·)).getD [] ++
    (u.fragment.map ('#' :: ·)).getD []

def text (u : Url) : String :=
  String.ofList u.chars

end Url

end TileFetch
