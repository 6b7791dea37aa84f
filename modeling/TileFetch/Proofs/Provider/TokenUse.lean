import Mathlib
import TileFetch.Provider.Tokens

/-!
# What a token is used for

A token is sent while it has not expired, in its header and nowhere else; without one, nothing is
sent.  What becomes of a call does not depend on the text of the token: `token_in_header_only`.
-/

namespace TileFetch.Auth.Context

def HasToken (c : Context) (now : Time.Instant) (token : String) : Prop :=
  c.token = some token ∧ ∀ expiresAt, c.expiresAt = some expiresAt → now.nanos < expiresAt.nanos

variable {c : Context} {now : Time.Instant}

theorem isExpired_eq_false_iff : c.isExpired now = false ↔
    ∀ expiresAt, c.expiresAt = some expiresAt → now.nanos < expiresAt.nanos := by
  cases hexpires : c.expiresAt <;> simp [isExpired, hexpires, Time.Instant.notAfter]

theorem hasToken_iff {token : String} :
    c.HasToken now token ↔ c.token = some token ∧ c.isExpired now = false := by
  rw [HasToken, isExpired_eq_false_iff]

end TileFetch.Auth.Context

namespace TileFetch.Provider.Tokens

open Auth (Context)

variable {p : Tokens} {env : Env} {context : Context} {r : TileRequest} {now : Time.Instant}
  {token : String} {url : Url}

def tileRequest (p : Tokens) (url : Url) (token : String) : Client.Request where
  url
  headers := [(p.header, p.headerPrefix ++ token)]

theorem generate_of_hasToken (htoken : context.HasToken now token)
    (hurl : p.template.renderUrl r = .ok url) :
    p.generate env context r now = .ask (p.tileRequest url token) fun _ response ↦
      response.mapError (Failure.ofTileRequest · p.name url.text env.messages) := by
  obtain ⟨hsome, hexpired⟩ := Context.hasToken_iff.mp htoken
  simp [generate, hsome, hexpired, hurl, tileRequest]

theorem generate_of_no_url {fault : Url.UrlFault} (htoken : context.HasToken now token)
    (hurl : p.template.renderUrl r = .error fault) :
    p.generate env context r now = .answer (.error
      (.ofResponse env.messages p.name fault.message (some (.address fault)))) := by
  obtain ⟨hsome, hexpired⟩ := Context.hasToken_iff.mp htoken
  simp [generate, hsome, hexpired, hurl]

theorem generate_of_no_token (p : Tokens) (env : Env) (r : TileRequest)
    (h : ∀ token, ¬ context.HasToken now token) :
    ∃ failure, p.generate env context r now = .answer (.error failure) ∧
      failure.kind = .authExpired ∧ failure.cause = none := by
  cases htoken : context.token with
  | none => simp [generate, htoken]
  | some token =>
      have hexpired : context.isExpired now = true := by
        simpa [Context.hasToken_iff, htoken] using h token
      simp [generate, htoken, hexpired]

theorem request?_generate_eq_some_iff {request : Client.Request} :
    (p.generate env context r now).request? = some request ↔
      ∃ token url, context.HasToken now token ∧ p.template.renderUrl r = .ok url ∧
        request = p.tileRequest url token := by
  constructor
  · intro hrequest
    by_cases htoken : ∃ token, context.HasToken now token
    · obtain ⟨token, htoken⟩ := htoken
      cases hurl : p.template.renderUrl r with
      | ok url =>
          rw [generate_of_hasToken htoken hurl] at hrequest
          exact ⟨token, url, htoken, rfl, (Option.some.inj hrequest).symm⟩
      | error fault => simp [generate_of_no_url htoken hurl, Exchange.request?] at hrequest
    · obtain ⟨failure, hanswer, -⟩ := generate_of_no_token p env r (not_exists.mp htoken)
      simp [hanswer, Exchange.request?] at hrequest
  · rintro ⟨token, url, htoken, hurl, rfl⟩
    rw [generate_of_hasToken htoken hurl]
    rfl

theorem answer_of_no_request (h : (p.generate env context r now).request? = none) :
    ∃ failure, p.generate env context r now = .answer (.error failure) ∧
      (failure.kind = .authExpired ↔ ∀ token, ¬ context.HasToken now token) ∧
      (failure.kind = .invalidResponse ↔ ∃ token fault, context.HasToken now token ∧
        p.template.renderUrl r = .error fault) := by
  by_cases htoken : ∃ token, context.HasToken now token
  · obtain ⟨token, htoken⟩ := htoken
    cases hurl : p.template.renderUrl r with
    | ok url => simp [generate_of_hasToken htoken hurl, Exchange.request?] at h
    | error fault =>
        refine ⟨_, generate_of_no_url htoken hurl, ?_, ?_⟩
        · simpa [Failure.ofResponse] using ⟨token, htoken⟩
        · simpa [Failure.ofResponse] using ⟨token, htoken⟩
  · rw [not_exists] at htoken
    obtain ⟨failure, hanswer, hkind, -⟩ := generate_of_no_token p env r htoken
    refine ⟨failure, hanswer, ?_, ?_⟩
    · simpa [hkind] using htoken
    · simp [hkind, htoken]

/-- Equal answers to calls that differ in the text of the token have equal outcomes. -/
theorem run_generate_congr {token token' : String} {later : Time.Instant}
    {response response' : Client.Request → Except Client.Fault Image}
    (hsame : ∀ request request',
      (p.generate env { context with token := some token } r now).request? = some request →
      (p.generate env { context with token := some token' } r now).request? = some request' →
        response request = response' request') :
    (p.generate env { context with token := some token } r now).run later response =
      (p.generate env { context with token := some token' } r now).run later response' := by
  -- whether the context has expired does not depend on its token
  have hexpired (token : String) :
      { context with token := some token }.isExpired now = context.isExpired now := rfl
  simp only [generate, hexpired] at hsame ⊢
  by_cases hnow : context.isExpired now = true
  · simp only [hnow, if_true, Exchange.run]
  · cases hurl : p.template.renderUrl r with
    | error fault => simp only [hnow, Bool.false_eq_true, if_false, Exchange.run]
    | ok url =>
        simp only [hnow, hurl, Bool.false_eq_true, if_false] at hsame ⊢
        exact congrArg (Except.mapError _) (hsame _ _ rfl rfl)

/-- A call sends a request exactly if there is a token that has not expired and the template gives
a URL; the request asks for that URL, with the token in its header.  A call that sends nothing
fails, as one that needs another token if there is none to send, else because of the URL.  Where
two contexts differ in the text of the token only, equal answers to what they send have equal
outcomes, be it the image or the failure with all that lies behind it. -/
theorem token_in_header_only (p : Tokens) (env : Env) (context : Context) (r : TileRequest)
    (now : Time.Instant) :
    (∀ request, (p.generate env context r now).request? = some request ↔
        ∃ token url, context.HasToken now token ∧ p.template.renderUrl r = .ok url ∧
          request.method = "GET" ∧ request.url = url ∧
          request.headers = [(p.header, p.headerPrefix ++ token)]) ∧
      ((p.generate env context r now).request? = none →
        ∃ failure, p.generate env context r now = .answer (.error failure) ∧
          (failure.kind = .authExpired ↔ ∀ token, ¬ context.HasToken now token) ∧
          (failure.kind = .invalidResponse ↔ ∃ token fault, context.HasToken now token ∧
            p.template.renderUrl r = .error fault)) ∧
      ∀ (token token' : String) (later : Time.Instant)
        (response response' : Client.Request → Except Client.Fault Image),
        let one := p.generate env { context with token := some token } r now
        let other := p.generate env { context with token := some token' } r now
        (∀ request request', one.request? = some request → other.request? = some request' →
          response request = response' request') →
        one.run later response = other.run later response' := by
  refine ⟨fun request ↦ ?_, answer_of_no_request,
    fun token token' later response response' ↦ run_generate_congr⟩
  rw [request?_generate_eq_some_iff]
  constructor
  · rintro ⟨token, url, htoken, hurl, rfl⟩
    exact ⟨token, url, htoken, hurl, rfl, rfl, rfl⟩
  · rintro ⟨token, url, htoken, hurl, hmethod, rfl, hheaders⟩
    refine ⟨token, request.url, htoken, hurl, ?_⟩
    obtain ⟨url, form, headers⟩ := request
    cases form with
    | none => simpa [tileRequest] using hheaders
    | some form => simp [Client.Request.method] at hmethod

end TileFetch.Provider.Tokens
