import TileFetch.Proofs.Provider.Faults
import TileFetch.Proofs.Serving.Ledger

/-!
# Requests of fetches

A fetch of a built-in provider sends a request for what it asks for, or none.  What a transport
answers decides how the fetch goes on: only after a refused request for a tile it gets another
context, and a failed request for a token ends it.
-/

namespace TileFetch.Broker.Fetches

variable {provider : String} {policy : Auth.Policy} {events : List Event}

/-! ## Contexts that bypass authentication -/

theorem ok_mem_of_generating {f : Nat} {rejected : Option Auth.Snapshot} {snapshot : Auth.Snapshot}
    (hfetch : ((initial provider policy).run events).fetch f = .generating rejected snapshot) :
    .ok snapshot ∈ Auth.cycles ((initial provider policy).authLog events) := by
  have hconsistent := consistent_auth provider policy events
  have hcourse := course_run provider policy events f
  rw [hfetch] at hcourse
  have hcall : ((initial provider policy).run events).auth.call (callOf f rejected) =
      .done (.ok snapshot) := by
    cases rejected with
    | none => exact hcourse.2.1
    | some first =>
        obtain ⟨-, -, -, -, -, hsecond⟩ := hcourse
        exact hsecond
  have hfits := hconsistent.fits (callOf f rejected)
  rw [hcall] at hfits
  exact hfits snapshot rfl

/-- If all contexts bypass authentication, then none is reported. -/
theorem reports_eq_nil_of_bypassed
    (hbypassed : ∀ snapshot, .ok snapshot ∈ Auth.cycles ((initial provider policy).authLog events) →
      snapshot.isBypassed = true) (f : Nat) :
    reports f ((initial provider policy).log events) = [] := by
  induction events using List.reverseRecOn with
  | nil => rfl
  | append_singleton events e ih =>
      have hpast : ∀ snapshot,
          .ok snapshot ∈ Auth.cycles ((initial provider policy).authLog events) →
            snapshot.isBypassed = true := by
        intro snapshot hmem
        apply hbypassed
        rw [authLog_append, Auth.cycles_append]
        exact List.mem_append_left _ hmem
      rw [log_concat, reports_append, ih hpast, List.nil_append]
      have hmove := move_step ((initial provider policy).run events) e
      generalize ((initial provider policy).run events).marks e = marks,
        ((initial provider policy).run events).step e = t,
        ((initial provider policy).run events).authEvents e = authEvents at hmove
      cases hmove with
      | retry g snapshot failure hfetch hexpired hbypass =>
          have htrue := hpast snapshot (ok_mem_of_generating hfetch)
          simp [hbypass] at htrue
      | _ => simp [Mark.reported?]

theorem length_asked_le_one
    (hbypassed : ∀ snapshot, .ok snapshot ∈ Auth.cycles ((initial provider policy).authLog events) →
      snapshot.isBypassed = true) (f : Nat) :
    (asked f ((initial provider policy).log events)).length ≤ 1 := by
  rcases (fits_run provider policy events f).retries with hnone | ⟨first, hone⟩ |
    ⟨first, second, -, ⟨-, accepted, hreports⟩, -⟩
  · simp [hnone]
  · simp [hone]
  · simp [reports_eq_nil_of_bypassed hbypassed] at hreports

end TileFetch.Broker.Fetches

namespace TileFetch.Provider

namespace Exchange

theorem GetsTile.method_eq {Carries : List Client.Header → Prop}
    {address : Except Url.UrlFault Url} {x : Exchange Image} (h : x.GetsTile Carries address)
    {q : Client.Request} (hq : x.request? = some q) : q.method = "GET" := by
  cases x with
  | answer result => simp [request?] at hq
  | ask own finish =>
      obtain rfl : own = q := by simpa [request?] using hq
      exact h.of_ask.1

theorem PostsForToken.method_eq {x : Exchange Auth.Context} (h : x.PostsForToken)
    {q : Client.Request} (hq : x.request? = some q) : q.method = "POST" := by
  cases x with
  | answer result => exact h.elim
  | ask own finish =>
      obtain rfl : own = q := by simpa [request?] using hq
      exact h.1

end Exchange

namespace BuiltIn

theorem method_of_preAuth {p : BuiltIn} {env : Env} {q : Client.Request}
    (hq : (p.preAuth env).request? = some q) : q.method = "POST" := by
  cases p with
  | plain server => simp [preAuth, Public.preAuth, Exchange.request?] at hq
  | tokens server => exact (server.postsForToken env).method_eq hq

end BuiltIn

end TileFetch.Provider

namespace TileFetch.Simulation

variable {π : Type}

def Setup.ofBuiltIn (p : Provider.BuiltIn) (env : Provider.Env) (transport : Transport π) :
    Setup π where
  service := .ofBuiltIn p env transport
  env

section Requests

variable (p : Provider.BuiltIn) (env : Provider.Env) (tile : Nat → TileRequest)

def requestOf? (a : Ask) : Option Client.Request :=
  match a.want with
  | .context _ => (p.preAuth env).request?
  | .tile context => (p.generate env context (tile a.fetch) a.asked).request?

def requestsFor (log : List Ask) : List Client.Request :=
  log.filterMap (requestOf? p env tile)

def requests (f : Nat) (log : List Ask) : List Client.Request :=
  requestsFor p env tile (log.filter (·.fetch = f))

@[simp] theorem requestsFor_nil : requestsFor p env tile [] = [] := rfl

@[simp] theorem requestsFor_cons (a : Ask) (log : List Ask) : requestsFor p env tile (a :: log) =
    (requestOf? p env tile a).toList ++ requestsFor p env tile log := by
  cases hq : requestOf? p env tile a <;> simp [requestsFor, hq]

theorem requests_cons (f : Nat) (a : Ask) (log : List Ask) : requests p env tile f (a :: log) =
    (if a.fetch = f then (requestOf? p env tile a).toList else []) ++
      requests p env tile f log := by
  by_cases hf : a.fetch = f <;> simp [requests, hf]

theorem tilesAsked_cons (f : Nat) (a : Ask) (log : List Ask) : tilesAsked f (a :: log) =
    (if a.fetch = f then a.want.tile?.toList else []) ++ tilesAsked f log := by
  by_cases hf : a.fetch = f
  · cases hw : a.want.tile? <;> simp [tilesAsked, hf, hw]
  · simp [tilesAsked, hf]

theorem contextsAsked_cons (f : Nat) (a : Ask) (log : List Ask) : contextsAsked f (a :: log) =
    (if a.fetch = f then a.want.previous?.toList else []) ++ contextsAsked f log := by
  by_cases hf : a.fetch = f
  · cases hw : a.want.previous? <;> simp [contextsAsked, hf, hw]
  · simp [contextsAsked, hf]

theorem method_of_requestOf? {a : Ask} {q : Client.Request}
    (hq : requestOf? p env tile a = some q) :
    q.method = "GET" ∧ a.want.tile?.isSome ∨ q.method = "POST" ∧ a.want.previous?.isSome := by
  cases hwant : a.want with
  | context previous =>
      have hq : (p.preAuth env).request? = some q := by simpa [requestOf?, hwant] using hq
      exact .inr ⟨Provider.BuiltIn.method_of_preAuth hq, rfl⟩
  | tile own =>
      have hq : (p.generate env own (tile a.fetch) a.asked).request? = some q := by
        simpa [requestOf?, hwant] using hq
      exact .inl ⟨(p.getsTile env own _ _).method_eq hq, rfl⟩

theorem count_requests_le (f : Nat) (log : List Ask) :
    (requests p env tile f log).countP (·.method = "GET") ≤ (tilesAsked f log).length ∧
      (requests p env tile f log).countP (·.method = "POST") ≤ (contextsAsked f log).length := by
  induction log with
  | nil => simp [requests]
  | cons a log ih =>
      obtain ⟨hget, hpost⟩ := ih
      rw [requests_cons, tilesAsked_cons, contextsAsked_cons]
      by_cases hf : a.fetch = f
      · simp only [hf, if_true, List.countP_append, List.length_append]
        cases hq : requestOf? p env tile a with
        | none =>
            simp only [Option.toList_none, List.countP_nil]
            omega
        | some q =>
            rcases method_of_requestOf? p env tile hq with ⟨hmethod, hwant⟩ | ⟨hmethod, hwant⟩
            · obtain ⟨own, hown⟩ := Option.isSome_iff_exists.mp hwant
              simp [hmethod, hown]
              omega
            · obtain ⟨own, hown⟩ := Option.isSome_iff_exists.mp hwant
              simp [hmethod, hown]
              omega
      · simpa [hf] using ⟨hget, hpost⟩

theorem length_requests (f : Nat) (log : List Ask) :
    (requests p env tile f log).length =
      (requests p env tile f log).countP (·.method = "GET") +
        (requests p env tile f log).countP (·.method = "POST") := by
  have hmethods : ∀ q ∈ requests p env tile f log, q.method = "GET" ∨ q.method = "POST" := by
    intro q hq
    obtain ⟨a, -, hrequest⟩ := List.mem_filterMap.mp hq
    exact (method_of_requestOf? p env tile hrequest).imp And.left And.left
  generalize requests p env tile f log = sent at hmethods
  induction sent with
  | nil => rfl
  | cons q sent ih =>
      have hrest := ih fun q' hq' ↦ hmethods q' (List.mem_cons_of_mem q hq')
      rcases hmethods q List.mem_cons_self with hq | hq <;> simp [hq] <;> omega

theorem countP_post_eq_zero (server : Provider.Public) (f : Nat) (log : List Ask) :
    (requests (.plain server) env tile f log).countP (·.method = "POST") = 0 := by
  rw [List.countP_eq_zero]
  intro q hq
  obtain ⟨a, -, hrequest⟩ := List.mem_filterMap.mp hq
  cases hwant : a.want with
  | context previous => simp [requestOf?, hwant, Provider.BuiltIn.preAuth, Provider.Public.preAuth,
      Provider.Exchange.request?] at hrequest
  | tile context =>
      have hget : q.method = "GET" := by
        apply (Provider.BuiltIn.getsTile (.plain server) env context (tile a.fetch)
          a.asked).method_eq
        simpa [requestOf?, hwant] using hrequest
      simp [hget]

end Requests

def Transport.noting (transport : Transport π) : Transport (π × List Client.Request) :=
  fun request state ↦
    let (response, next) := transport request state.1
    (response, (next, state.2 ++ [request]))

section Noting

open Serving

variable (p : Provider.BuiltIn) (env : Provider.Env) (transport : Transport π)
  (tile : Nat → TileRequest)

theorem Begun.finish_ofExchange {α : Type} (transport : Transport π) (state : π)
    (x : Provider.Exchange α) (now : Time.Instant) (later : π) :
    (Begun.ofExchange transport state x).1.delay ≠ none ∧
      ((Begun.ofExchange transport state x).1.finish now later).1 = later := by
  cases x <;> exact ⟨by simp [Begun.ofExchange], rfl⟩

theorem Begun.noted_ofExchange {α : Type} (state : π × List Client.Request)
    (x : Provider.Exchange α) :
    (Begun.ofExchange transport.noting state x).2.2 = state.2 ++ x.request?.toList := by
  cases x <;> simp [Begun.ofExchange, Transport.noting, Provider.Exchange.request?]

variable {p env transport tile} {s t : Serving (π × List Client.Request)} {f : Nat} {r : Reading}
  {e : Event} {event : Broker.Event} {provider : π × List Client.Request}

/-- An answer, or its absence, leaves the transport as it is. -/
theorem Serving.Offer.provider_eq
    (h : s.Offer (.ofBuiltIn p env transport.noting) f r e event provider)
    (hs : s.Backed (.ofBuiltIn p env transport.noting) tile f) : provider = s.provider := by
  cases h with
  | context call hpending =>
      obtain ⟨previous, overlap, asked, state, -, -, -, -, rfl⟩ := hs.of_context hpending
      exact (Begun.finish_ofExchange _ state _ r.now s.provider).2
  | tile call hpending =>
      obtain ⟨asked, state, -, -, -, rfl⟩ := hs.of_tile hpending
      exact (Begun.finish_ofExchange _ state _ r.now s.provider).2
  | _ => rfl

theorem noted_proceed (s : Serving (π × List Client.Request)) (f : Nat) (event : Broker.Event)
    (asked : Time.Instant) :
    (s.proceed (.ofBuiltIn p env transport.noting) tile f event asked).provider.2 =
      s.provider.2 ++ requestsFor p env tile (s.asksAfter f asked event) := by
  cases hwanted : wanted? (s.fetches.step event) f with
  | none =>
      rw [proceed_of_none hwanted, asksAfter, hwanted]
      simp [await]
  | some want =>
      cases want with
      | context previous =>
          rw [proceed_of_context hwanted, asksAfter, hwanted]
          simpa [await, requestOf?, Setup.ofBuiltIn, Service.ofBuiltIn] using
            Begun.noted_ofExchange transport s.provider _
      | tile context =>
          rw [proceed_of_tile hwanted, asksAfter, hwanted]
          simpa [await, requestOf?, Setup.ofBuiltIn, Service.ofBuiltIn] using
            Begun.noted_ofExchange transport s.provider _

/-- The transport gets the requests for what the fetches ask, and no others. -/
theorem noted_run (p : Provider.BuiltIn) (env : Provider.Env) (transport : Transport π)
    (tile : Nat → TileRequest) (policy : Auth.Policy) (state : π) (events : List Event) :
    ((initial (.ofBuiltIn p env transport.noting) policy (state, [])).run
      (.ofBuiltIn p env transport.noting) tile events).provider.2 =
    requestsFor p env tile ((initial (.ofBuiltIn p env transport.noting) policy (state, [])).askLog
      (.ofBuiltIn p env transport.noting) tile events) := by
  induction events using List.reverseRecOn with
  | nil => rfl
  | append_singleton events e ih =>
      have hback := backed_run (.ofBuiltIn p env transport.noting) tile policy (state, []) events
      rw [run_concat, askLog_concat, requestsFor, List.filterMap_append, ← requestsFor, ← ih]
      have hmove : Move (.ofBuiltIn p env transport.noting) tile _ e _ _ _ :=
        move_step ((initial (.ofBuiltIn p env transport.noting) policy (state, [])).run
          (.ofBuiltIn p env transport.noting) tile events) e
      generalize brokerEvents _ _ e = brokerSteps, Serving.step _ _ _ e = t, asks _ _ e = asks
        at hmove ⊢
      cases hmove with
      | proceed f r _ event provider hoffer =>
          obtain rfl := hoffer.provider_eq (hback f)
          exact noted_proceed _ _ _ _
      | _ => simp [await]

end Noting

end TileFetch.Simulation
