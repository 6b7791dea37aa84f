import TileFetch.Proofs.Provider.Schema
import TileFetch.Proofs.Template.Rendering
import TileFetch.Proofs.Text.Base64

/-!
# The credentials of a client

The id and the secret of a client are sent in one text, with a colon between them.  A server splits
the text at its first colon, so that it reads what was sent exactly if there is none in the id:
`credentials_read_back`.
-/

namespace TileFetch.Provider

/-! ## What a server reads -/

def cutAtColon? : List Char → Option (List Char × List Char)
  | [] => none
  | c :: cs =>
      if c = ':' then some ([], cs)
      else (cutAtColon? cs).map fun parts ↦ (c :: parts.1, parts.2)

theorem cutAtColon?_append {front back : List Char} (h : ':' ∉ front) :
    cutAtColon? (front ++ ':' :: back) = some (front, back) := by
  induction front with
  | nil => simp [cutAtColon?]
  | cons c front ih =>
      obtain ⟨hc, hfront⟩ := not_or.mp (List.mem_cons.not.mp h)
      simp [cutAtColon?, Ne.symm hc, ih hfront]

theorem eq_of_cutAtColon? {cs front back : List Char} (h : cutAtColon? cs = some (front, back)) :
    cs = front ++ ':' :: back ∧ ':' ∉ front := by
  induction cs generalizing front with
  | nil => simp [cutAtColon?] at h
  | cons c cs ih =>
      rw [cutAtColon?] at h
      split_ifs at h with hc
      · obtain ⟨rfl, rfl⟩ := Prod.mk.inj (Option.some.inj h)
        simp [hc]
      · obtain ⟨⟨front, back⟩, hcut, heq⟩ := Option.map_eq_some_iff.mp h
        obtain ⟨rfl, rfl⟩ := Prod.mk.inj heq
        obtain ⟨rfl, hfront⟩ := ih hcut
        simp [hfront, Ne.symm hc]

def readBasic? (value : String) : Option (String × String) := do
  let digits ← value.toList.dropPrefix? "Basic ".toList
  let bytes ← Text.Base64.decode? digits
  let text ← Text.Utf8.decode? bytes
  let (id, secret) ← cutAtColon? text
  return (.ofList id, .ofList secret)

namespace Tokens

theorem readBasic?_basicHeader (id secret : String) : readBasic? (basicHeader id secret) =
    (cutAtColon? (id.toList ++ ':' :: secret.toList)).map fun parts ↦
      (.ofList parts.1, .ofList parts.2) := by
  have hdigits : (basicHeader id secret).toList.dropPrefix? "Basic ".toList =
      some (Text.Base64.encode (Text.Utf8.bytes (id ++ ":" ++ secret))) := by
    rw [List.dropPrefix?_eq_some_iff]
    refine ⟨"Basic ".toList, ?_, by simp⟩
    simp only [basicHeader, String.toList_append, String.toList_ofList]
  have htext : Text.Utf8.decode? (Text.Utf8.bytes (id ++ ":" ++ secret)) =
      some (id.toList ++ ':' :: secret.toList) := by
    rw [Text.Utf8.bytes, Text.Utf8.decode?_encode]
    simp
  simp only [readBasic?, hdigits, Text.Base64.decode?_encode, htext, Option.bind_eq_bind,
    Option.bind_some]
  cases cutAtColon? (id.toList ++ ':' :: secret.toList) <;> rfl

/-- What was sent is read exactly if there is no colon in the id. -/
theorem readBasic?_eq_some_iff (id secret : String) :
    readBasic? (basicHeader id secret) = some (id, secret) ↔ ':' ∉ id.toList := by
  rw [readBasic?_basicHeader]
  constructor
  · intro h
    obtain ⟨⟨front, back⟩, hcut, heq⟩ := Option.map_eq_some_iff.mp h
    obtain ⟨rfl, -⟩ := Prod.mk.inj heq
    simpa using (eq_of_cutAtColon? hcut).2
  · intro h
    simp [cutAtColon?_append h]

/-! ## What is sent -/

/-- The server was built from parameters with this client, if they have one. -/
def HasClient (server : Tokens) (client : Option (String × String)) : Prop :=
  ∃ name params p, Schema params p ∧ ofParams name (.ofDict params) = .ok server ∧
    client = p.clientId.map (·, p.clientSecret.getD "")

theorem HasClient.basicAuth_eq {server : Tokens} {client : Option (String × String)}
    (h : server.HasClient client) :
    server.basicAuth = client.map fun client ↦ basicHeader client.1 client.2 := by
  obtain ⟨name, params, p, hschema, hserver, rfl⟩ := h
  rw [ofParams_of_schema name hschema] at hserver
  cases htoken : Url.parse p.tokenUrl <;> cases htemplate : UrlTemplate.parse p.url <;>
    simp [htoken, htemplate, Except.mapError, bind, Except.bind, pure, Except.pure] at hserver
  subst hserver
  simp [Params.server, Function.comp_def]

theorem HasClient.headers_eq {server : Tokens} {client : Option (String × String)}
    (h : server.HasClient client) (env : Env) :
    ∃ request, (server.preAuth env).request? = some request ∧ request.headers =
      (client.map fun client ↦ ("Authorization", basicHeader client.1 client.2)).toList := by
  refine ⟨_, rfl, ?_⟩
  rw [authHeaders, h.basicAuth_eq, Option.map_map]
  rfl

def clientParams (id secret : String) : Dict Json where
  entries :=
    [("client_id", .string id), ("client_secret", .string secret),
      ("token_url", .string "https://[::1]/"), ("url", .string "https://[::1]/")]
  ordered := by
    have hkeys : ["client_id", "client_secret", "token_url", "url"].Pairwise (· < ·) := by decide
    exact List.pairwise_map (f := Prod.fst) |>.mp hkeys

def readClient (id secret : String) : Params where
  url := "https://[::1]/"
  tokenUrl := "https://[::1]/"
  clientId := some id
  clientSecret := some secret
  form := .empty
  header := "Authorization"
  headerPrefix := "Bearer "

theorem schema_clientParams (id secret : String) :
    Schema (clientParams id secret) (readClient id secret) where
  keys := by simp [KeysAmong, clientParams]
  url := rfl
  tokenUrl := rfl
  clientId := .inr ⟨id, rfl, rfl⟩
  clientSecret := .inr ⟨secret, rfl, rfl⟩
  form := .inl ⟨rfl, rfl⟩
  header := .inl ⟨rfl, rfl⟩
  headerPrefix := .inl ⟨rfl, rfl⟩

/-- Parameters are accepted whatever the id and the secret are. -/
theorem exists_hasClient (id secret : String) :
    ∃ server : Tokens, server.HasClient (some (id, secret)) := by
  obtain ⟨url, hurl⟩ : ∃ url, Url.parse "https://[::1]/" = .ok url := ⟨_, rfl⟩
  have hprobe : (UrlTemplate.ofRaw "https://[::1]/").probe = "https://[::1]/".toList := by cbv
  have htemplate : UrlTemplate.parse "https://[::1]/" = .ok (.ofRaw "https://[::1]/") :=
    UrlTemplate.parse_eq_ok_iff.mpr ⟨rfl, url, hprobe ▸ hurl⟩
  have hschema := schema_clientParams id secret
  refine ⟨(readClient id secret).server "tiles" url (.ofRaw "https://[::1]/"), "tiles", _, _,
    hschema, ?_, rfl⟩
  rw [ofParams_of_schema _ hschema]
  dsimp only [readClient]
  rw [hurl, htemplate]
  rfl

/-- A server with tokens that has a client sends one header with its id and secret, and one that
has none sends no header.  What was sent is read back exactly if there is no colon in the id, and
of clients without colons in their ids different ones send different headers. -/
theorem credentials_read_back {server : Tokens} {client : Option (String × String)}
    (h : server.HasClient client) (env : Env) :
    ∃ request, (server.preAuth env).request? = some request ∧
      (client = none → request.headers = []) ∧
      ∀ id secret, client = some (id, secret) → ∃ text,
        request.headers = [("Authorization", "Basic " ++ String.ofList text)] ∧
        Text.Base64.decode? text = some (Text.Utf8.bytes (id ++ ":" ++ secret)) ∧
        (readBasic? ("Basic " ++ String.ofList text) = some (id, secret) ↔ ':' ∉ id.toList) ∧
        ∀ (server' : Tokens) (env' : Env) (id' secret' : String) (request' : Client.Request),
          server'.HasClient (some (id', secret')) →
          (server'.preAuth env').request? = some request' → request'.headers = request.headers →
          ':' ∉ id.toList → ':' ∉ id'.toList → id' = id ∧ secret' = secret := by
  obtain ⟨request, hrequest, hheaders⟩ := h.headers_eq env
  refine ⟨request, hrequest, fun hnone ↦ by simp [hheaders, hnone], ?_⟩
  rintro id secret rfl
  refine ⟨_, hheaders, Text.Base64.decode?_encode _, readBasic?_eq_some_iff id secret, ?_⟩
  intro server' env' id' secret' request' h' hrequest' hsame hid hid'
  obtain ⟨other, hother, hheaders'⟩ := h'.headers_eq env'
  obtain rfl := Option.some.inj (hother.symm.trans hrequest')
  have hvalue : basicHeader id' secret' = basicHeader id secret := by
    simpa [hheaders, hheaders'] using hsame
  have hread := (readBasic?_eq_some_iff id secret).mpr hid
  have hread' := (readBasic?_eq_some_iff id' secret').mpr hid'
  exact Prod.mk.inj (Option.some.inj ((hvalue ▸ hread').symm.trans hread))

/-- A client without a colon in its id and with one in its secret. -/
theorem secret_with_colon_read_back :
    ∃ (server : Tokens) (request : Client.Request) (text : List Char),
      server.HasClient (some ("a", "b:c")) ∧ (server.preAuth .default).request? = some request ∧
      request.headers = [("Authorization", "Basic " ++ String.ofList text)] ∧
      readBasic? ("Basic " ++ String.ofList text) = some ("a", "b:c") := by
  obtain ⟨server, hclient⟩ := exists_hasClient "a" "b:c"
  obtain ⟨request, hrequest, -, hsends⟩ := credentials_read_back hclient .default
  obtain ⟨text, hheaders, -, hread, -⟩ := hsends "a" "b:c" rfl
  exact ⟨server, request, text, hclient, hrequest, hheaders, hread.mpr (by decide)⟩

/-- A colon in the id moves what follows it to the secret, so that two clients send one header. -/
theorem id_with_colon_read_otherwise :
    ∃ (server server' : Tokens) (request request' : Client.Request),
      server.HasClient (some ("a:b", "c")) ∧ server'.HasClient (some ("a", "b:c")) ∧
      (server.preAuth .default).request? = some request ∧
      (server'.preAuth .default).request? = some request' ∧
      request.headers = [("Authorization", "Basic YTpiOmM=")] ∧
      request'.headers = request.headers ∧ readBasic? "Basic YTpiOmM=" = some ("a", "b:c") := by
  obtain ⟨server, hclient⟩ := exists_hasClient "a:b" "c"
  obtain ⟨server', hclient'⟩ := exists_hasClient "a" "b:c"
  obtain ⟨request, hrequest, hheaders⟩ := hclient.headers_eq .default
  obtain ⟨request', hrequest', hheaders'⟩ := hclient'.headers_eq .default
  have hvalue : basicHeader "a:b" "c" = "Basic YTpiOmM=" := by decide +kernel
  have hvalue' : basicHeader "a" "b:c" = "Basic YTpiOmM=" := by decide +kernel
  have hread : readBasic? "Basic YTpiOmM=" = some ("a", "b:c") :=
    hvalue' ▸ (readBasic?_eq_some_iff "a" "b:c").mpr (by decide)
  refine ⟨server, server', request, request', hclient, hclient', hrequest, hrequest', ?_, ?_, hread⟩
  · simp [hheaders, hvalue]
  · simp [hheaders, hheaders', hvalue, hvalue']

end Tokens

end TileFetch.Provider
