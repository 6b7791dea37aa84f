import TileFetch.Proofs.Provider.TokenUse
import TileFetch.Provider.Spec

/-!
# What providers make of failed requests

A tile is asked for if there are credentials to send and its address is a URL: `GetsTile`.  The
kind of a failure says what happened to the request behind it, and the same status means different
things: when a tile is asked for, 401 and 403 say that the context is not accepted any
more; when a token is asked for, they are failures like any other.
-/

namespace TileFetch.Client

def Fault.Refuses (fault : Fault) : Prop :=
  ∃ code url preview, fault = .status code url preview ∧ (code = 401 ∨ code = 403)

def Fault.TimesOut (fault : Fault) : Prop :=
  ∃ url, fault = .timeout url

end TileFetch.Client

namespace TileFetch.Provider

variable {failure : Failure} {fault : Client.Fault} {refused : Prop}

/-- The failure says what happened to a request, which may have been refused. -/
structure Failure.Describes (failure : Failure) (fault : Client.Fault) (refused : Prop) :
    Prop where
  expired_iff : failure.kind = .authExpired ↔ refused
  timeout_iff : failure.kind = .timeout ↔ fault.TimesOut
  fetch_iff : failure.kind = .fetch ↔ ¬ refused ∧ ¬ fault.TimesOut
  cause_eq : failure.cause = some (.request fault)

theorem Failure.describes_ofTileRequest (fault : Client.Fault) (provider url : String)
    (messages : Messages) :
    (Failure.ofTileRequest fault provider url messages).Describes fault fault.Refuses := by
  cases fault with
  | status code own preview =>
      have hrefuses : (Client.Fault.status code own preview).Refuses ↔ code = 401 ∨ code = 403 := by
        simp [Client.Fault.Refuses]
      by_cases hcode : code = 401 ∨ code = 403
      · constructor <;> simp [ofTileRequest, Client.Fault.httpStatus, FailureKind.ofStatus,
          hrefuses, hcode, Client.Fault.TimesOut]
      · constructor <;> simp [ofTileRequest, Client.Fault.httpStatus, FailureKind.ofStatus,
          hrefuses, hcode, Client.Fault.TimesOut]
  | _ =>
      constructor <;> simp [ofTileRequest, Client.Fault.httpStatus, ofRequest,
        Client.Fault.Refuses, Client.Fault.TimesOut]

/-! ## Calls for tiles -/

/-- The image that arrives is the answer, and a failure describes what happened to the request. -/
def HandsOver (finish : Time.Instant → Except Client.Fault Image → Except Failure Image) : Prop :=
  ∀ now, (∀ image, finish now (.ok image) = .ok image) ∧
    ∀ fault, ∃ failure, finish now (.error fault) = .error failure ∧
      failure.Describes fault fault.Refuses

theorem handsOver_mapError (provider url : String) (messages : Messages) :
    HandsOver fun _ response ↦
      response.mapError (Failure.ofTileRequest · provider url messages) := by
  intro now
  refine ⟨fun image ↦ rfl, fun fault ↦ ⟨_, rfl, ?_⟩⟩
  exact Failure.describes_ofTileRequest fault provider url messages

/-- A call for a tile sends one request, which asks for the address with headers it may carry.
It sends none if it may carry no headers at all, for want of credentials, or if there is no
address. -/
structure Exchange.GetsTile (Carries : List Client.Header → Prop)
    (address : Except Url.UrlFault Url) (x : Exchange Image) : Prop where
  unauthorized : (∀ own, ¬ Carries own) → ∃ failure, x = .answer (.error failure) ∧
    failure.kind = .authExpired ∧ failure.cause = none
  unaddressed : ∀ own fault, Carries own → address = .error fault →
    ∃ failure, x = .answer (.error failure) ∧
      failure.kind = .invalidResponse ∧ failure.cause = some (.address fault)
  asks : ∀ own url, Carries own → address = .ok url →
    ∃ finish, x = .ask { url, headers := own } finish ∧ HandsOver finish

theorem Exchange.GetsTile.of_ask {Carries : List Client.Header → Prop}
    {address : Except Url.UrlFault Url} {request : Client.Request}
    {finish : Time.Instant → Except Client.Fault Image → Except Failure Image}
    (h : (Exchange.ask request finish).GetsTile Carries address) :
    request.method = "GET" ∧ HandsOver finish := by
  by_cases hcarries : ∃ own, Carries own
  · obtain ⟨own, hown⟩ := hcarries
    cases haddress : address with
    | error fault =>
        obtain ⟨failure, hanswer, -⟩ := h.unaddressed own fault hown haddress
        cases hanswer
    | ok url =>
        obtain ⟨_, ⟨⟩, hfinish⟩ := h.asks own url hown haddress
        exact ⟨rfl, hfinish⟩
  · obtain ⟨failure, hanswer, -⟩ := h.unauthorized (not_exists.mp hcarries)
    cases hanswer

/-- The headers that a request for a tile may carry: with tokens, the header of one that has not
expired. -/
def BuiltIn.Carries (context : Auth.Context) (now : Time.Instant) :
    BuiltIn → List Client.Header → Prop
  | plain server, own => own = server.headers
  | tokens server, own => ∃ token, context.HasToken now token ∧
      own = [(server.header, server.headerPrefix ++ token)]

theorem Public.getsTile (p : Public) (env : Env) (r : TileRequest) :
    (p.generate env r).GetsTile (· = p.headers) (p.template.renderUrl r) where
  unauthorized hnone := (hnone p.headers rfl).elim
  unaddressed := by
    rintro own fault rfl haddress
    exact ⟨_, by rw [generate, haddress], rfl, rfl⟩
  asks := by
    rintro own url rfl haddress
    exact ⟨_, by rw [generate, haddress], handsOver_mapError p.name url.text env.messages⟩

theorem Tokens.getsTile (p : Tokens) (env : Env) (context : Auth.Context) (r : TileRequest)
    (now : Time.Instant) : (p.generate env context r now).GetsTile
      ((BuiltIn.tokens p).Carries context now) (p.template.renderUrl r) where
  unauthorized hnone :=
    generate_of_no_token p env r fun token htoken ↦ hnone _ ⟨token, htoken, rfl⟩
  unaddressed := by
    rintro own fault ⟨token, htoken, rfl⟩ haddress
    exact ⟨_, generate_of_no_url htoken haddress, rfl, rfl⟩
  asks := by
    rintro own url ⟨token, htoken, rfl⟩ haddress
    exact ⟨_, generate_of_hasToken htoken haddress,
      handsOver_mapError p.name url.text env.messages⟩

theorem BuiltIn.getsTile (p : BuiltIn) (env : Env) (context : Auth.Context) (r : TileRequest)
    (now : Time.Instant) : (p.generate env context r now).GetsTile
      (p.Carries context now) (p.template.renderUrl r) := by
  cases p with
  | plain server => exact server.getsTile env r
  | tokens server => exact server.getsTile env context r now

/-! ## Calls for tokens -/

/-- A call that posts one request for a token, and describes its failure; it is not refused, and
an answer that is of no use is an answer that is not valid. -/
def Exchange.PostsForToken : Exchange Auth.Context → Prop
  | .answer _ => False
  | .ask request finish => request.method = "POST" ∧
      ∀ now, (∀ image failure, finish now (.ok image) = .error failure →
          failure.kind = .invalidResponse) ∧
        ∀ fault, ∃ failure, finish now (.error fault) = .error failure ∧
          failure.Describes fault False

theorem Tokens.describes_authFailure (p : Tokens) (env : Env) (fault : Client.Fault) :
    (p.authFailure env fault).Describes fault False := by
  constructor <;> cases fault <;> simp [authFailure, Client.Fault.TimesOut]

theorem Tokens.kind_of_readToken {p : Tokens} {env : Env} {now : Time.Instant}
    {body : List UInt8} (h : p.readToken env now body = .error failure) :
    failure.kind = .invalidResponse := by
  unfold readToken at h
  split at h
  · obtain rfl := Except.error.inj h
    rfl
  · rename_i response _
    cases hcontext : response.context now with
    | ok context => simp [hcontext, Except.mapError] at h
    | error reason =>
        rw [hcontext] at h
        obtain rfl := Except.error.inj h
        rfl

theorem Tokens.postsForToken (p : Tokens) (env : Env) : (p.preAuth env).PostsForToken := by
  refine ⟨rfl, fun now ↦ ⟨fun image failure h ↦ Tokens.kind_of_readToken h, fun fault ↦ ?_⟩⟩
  exact ⟨_, rfl, p.describes_authFailure env fault⟩

end TileFetch.Provider
