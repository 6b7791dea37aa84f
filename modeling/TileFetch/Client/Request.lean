import TileFetch.Client.Settings
import TileFetch.Url.Basic

/-!
# Requests
-/

namespace TileFetch.Client

structure Request where
  url : Url
  /-- The fields of a form, which is posted; without a form the request only gets. -/
  form : Option (List (String × String)) := none
  headers : List Header

def Request.method (r : Request) : String :=
  if r.form.isSome then "POST" else "GET"

end TileFetch.Client
