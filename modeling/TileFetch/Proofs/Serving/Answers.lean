import TileFetch.Proofs.Serving.Effects
import TileFetch.Proofs.Serving.Requests

/-!
# What the answers of a transport lead to

A refused request for a tile makes a fetch get another context, if it was its first one and the
context does not bypass authentication; all other failures end it.  A failed request for a token
ends every fetch that waited for it, whatever the status was.
-/

namespace TileFetch.Auth.Calls

variable {policy : Policy} {c : Nat} {outcome : Outcome}

theorem done_or_step_of_run (s : Calls) (events : List Event)
    (hdone : (s.run events).call c = .done outcome) :
    s.call c = .done outcome ∨ ∃ step, .step c step ∈ events := by
  induction events generalizing s with
  | nil => exact .inl hdone
  | cons e events ih =>
      rcases ih (s.step e) hdone with hnext | ⟨step, hmem⟩
      · have hmove := s.move_step e
        by_cases hpast : ∃ o, s.call c = .done o
        · rw [hmove.call_eq_of_over (.inr hpast)] at hnext
          exact .inl hnext
        · push Not at hpast
          right
          have hmark := hmove.mark_of_done hpast hnext
          generalize s.mark? e = mark, s.step e = t at hmove hmark
          cases hmove with
          | hit | share | fail | settle =>
              obtain ⟨rfl, -⟩ : _ = c ∧ _ := by simpa using hmark
              exact ⟨_, List.mem_cons_self⟩
          | _ => simp at hmark
      · exact .inr ⟨step, List.mem_cons_of_mem e hmem⟩

theorem error_mem_of_done (events : List Event) {failure : Handle Provider.Failure}
    (hdone : ((initial policy).run events).call c = .done (.error failure)) :
    .error failure ∈ cycles ((initial policy).log events) := by
  induction events using List.reverseRecOn with
  | nil => simp [initial] at hdone
  | append_singleton events e ih =>
      rw [run_concat] at hdone
      rw [log_concat, cycles_append]
      have hmove := move_step ((initial policy).run events) e
      by_cases hpast : ∃ o, ((initial policy).run events).call c = .done o
      · rw [hmove.call_eq_of_over (.inr hpast)] at hdone
        exact List.mem_append_left _ (ih hdone)
      · push Not at hpast
        rcases hmove.mark_of_done hpast hdone with hm | hm
        · rw [hm] at hmove
          have hlast := (consistent_run policy events).returned_error hmove
          have hmem := (cycles_since_suffix c _).mem (List.mem_of_getLast? hlast)
          exact List.mem_append_left _ hmem
        · simp [hm, Mark.cycle?]

end TileFetch.Auth.Calls

namespace TileFetch.Broker.Fetches

variable {provider : String} {policy : Auth.Policy} {s t : Fetches} {e : Event}
  {authEvents : List Auth.Event} {marks : List Mark} {f : Nat} {rejected : Option Auth.Snapshot}
  {failure : Auth.Handle Provider.Failure}

theorem eq_of_callOf_eq {g : Nat} {other : Option Auth.Snapshot}
    (h : callOf f rejected = callOf g other) : f = g := by
  by_contra hne
  exact callOf_ne hne rejected other h

theorem Move.fetch_of_failed (h : s.Move e authEvents marks t)
    (hs : s.auth.call (callOf f rejected) = .done (.error failure) →
      s.fetch f = .done (.error (.refresh s.provider failure)))
    (hdone : t.auth.call (callOf f rejected) = .done (.error failure)) :
    t.fetch f = .done (.error (.refresh s.provider failure)) := by
  have hauth := h.auth_eq
  rw [hauth] at hdone
  rcases Auth.Calls.done_or_step_of_run s.auth authEvents hdone with hpast | ⟨step, hmem⟩
  · exact h.fetch_eq_of_done (hs hpast)
  · -- Only a step of the call itself can have ended it.
    cases h with
    | wait g own other hfetch hcall | ask g own other snapshot hfetch hcall =>
        obtain ⟨hc, rfl⟩ : callOf f rejected = callOf g other ∧ step = own := by simpa using hmem
        rw [hc] at hdone
        simp_all [Auth.Calls.step]
    | fail g own other error hfetch hcall =>
        obtain ⟨hc, rfl⟩ : callOf f rejected = callOf g other ∧ step = own := by simpa using hmem
        obtain rfl := eq_of_callOf_eq hc
        rw [hc] at hdone
        obtain rfl : failure = error := by
          simpa [Auth.Calls.step, hcall, eq_comm] using hdone
        simp
    | _ => simp at hmem

theorem fetch_of_failed_run (events : List Event)
    (hdone : ((initial provider policy).run events).auth.call (callOf f rejected) =
      .done (.error failure)) :
    ((initial provider policy).run events).fetch f =
      .done (.error (.refresh provider failure)) := by
  induction events using List.reverseRecOn with
  | nil => simp [initial, Auth.Calls.initial] at hdone
  | append_singleton events e ih =>
      have hprovider := provider_run (initial provider policy) events
      rw [run_concat] at hdone ⊢
      have hfetch := (move_step _ e).fetch_of_failed (by rwa [hprovider]) hdone
      rwa [hprovider] at hfetch

theorem error_mem_of_done (events : List Event)
    (hdone : ((initial provider policy).run events).auth.call (callOf f rejected) =
      .done (.error failure)) :
    .error failure ∈ Auth.cycles ((initial provider policy).authLog events) := by
  rw [auth_run] at hdone
  exact Auth.Calls.error_mem_of_done _ hdone

end TileFetch.Broker.Fetches

namespace TileFetch.Broker.Fetches

theorem fetch_answer {s : Fetches} {f : Nat} {rejected : Option Auth.Snapshot}
    {snapshot : Auth.Snapshot} (hfetch : s.fetch f = .generating rejected snapshot)
    (failure : Provider.Failure) : (s.answer f (.error failure)).fetch f =
      if failure.isAuthExpired && !snapshot.isBypassed && rejected.isNone then
        .seeking (some snapshot)
      else .done (.error (.ofFailure s.provider failure)) := by
  unfold answer
  rw [hfetch]
  simp only
  split_ifs <;> simp [seek, finish]

end TileFetch.Broker.Fetches

namespace TileFetch.Simulation

variable {π : Type}

/-- What becomes of a fetch when its request for a tile is answered, where `rejected` is the
context that it has reported before. -/
inductive TileAnswered (provider : String) (rejected : Option Auth.Snapshot)
    (snapshot : Auth.Snapshot) : Except Client.Fault Image → Broker.Fetch → Prop where
  | image (image : Image) : TileAnswered provider rejected snapshot (.ok image) (.done (.ok image))
  | again (fault : Client.Fault) (hrefused : fault.Refuses) (hfirst : rejected = none)
      (hbypass : snapshot.isBypassed = false) :
      TileAnswered provider rejected snapshot (.error fault) (.seeking (some snapshot))
  | expired (fault : Client.Fault) (failure : Provider.Failure) (hrefused : fault.Refuses)
      (hlast : rejected ≠ none ∨ snapshot.isBypassed = true)
      (hdescribes : failure.Describes fault fault.Refuses) :
      TileAnswered provider rejected snapshot (.error fault)
        (.done (.error (.expired provider failure)))
  | fetch (fault : Client.Fault) (failure : Provider.Failure) (hrefused : ¬ fault.Refuses)
      (hdescribes : failure.Describes fault fault.Refuses) :
      TileAnswered provider rejected snapshot (.error fault)
        (.done (.error (.fetch provider failure)))

inductive TokenAnswered (provider : String) :
    Except Client.Fault Image → Broker.Fetch → Prop where
  | context (image : Image) (rejected : Option Auth.Snapshot) (snapshot : Auth.Snapshot) :
      TokenAnswered provider (.ok image) (.generating rejected snapshot)
  | unusable (image : Image) (id : Nat) (failure : Provider.Failure)
      (hkind : failure.kind = .invalidResponse) :
      TokenAnswered provider (.ok image) (.done (.error (.refresh provider ⟨id, failure⟩)))
  | failed (fault : Client.Fault) (id : Nat) (failure : Provider.Failure)
      (hdescribes : failure.Describes fault False) :
      TokenAnswered provider (.error fault) (.done (.error (.refresh provider ⟨id, failure⟩)))

theorem tileAnswered_answer {s : Broker.Fetches} {f : Nat} {rejected : Option Auth.Snapshot}
    {snapshot : Auth.Snapshot} (hfetch : s.fetch f = .generating rejected snapshot)
    {finish : Time.Instant → Except Client.Fault Image → Except Provider.Failure Image}
    (hfinish : Provider.HandsOver finish) (now : Time.Instant)
    (response : Except Client.Fault Image) :
    TileAnswered s.provider rejected snapshot response
      ((s.answer f (finish now response)).fetch f) := by
  obtain ⟨hok, herror⟩ := hfinish now
  cases response with
  | ok image =>
      have hplace : (s.answer f (.ok image)).fetch f = .done (.ok image) := by
        simp [Broker.Fetches.answer, hfetch, Broker.Fetches.finish]
      rw [hok, hplace]
      exact .image image
  | error fault =>
      obtain ⟨failure, hfailure, hdescribes⟩ := herror fault
      rw [hfailure, Broker.Fetches.fetch_answer hfetch]
      by_cases hrefused : fault.Refuses
      · have hexpired : failure.isAuthExpired = true := by
          simp [Provider.Failure.isAuthExpired, hdescribes.expired_iff.mpr hrefused]
        split_ifs with hagain
        · obtain ⟨hbypass, hfirst⟩ : snapshot.isBypassed = false ∧ rejected = none := by
            simpa [hexpired] using hagain
          exact .again fault hrefused hfirst hbypass
        · rw [Broker.Fault.ofFailure, if_pos hexpired]
          refine .expired fault failure hrefused ?_ hdescribes
          cases hbypass : snapshot.isBypassed with
          | true => exact .inr rfl
          | false =>
              left
              rintro rfl
              simp [hexpired, hbypass] at hagain
      · have hexpired : failure.isAuthExpired = false := by
          simp [Provider.Failure.isAuthExpired, hdescribes.expired_iff, hrefused]
        rw [Broker.Fault.ofFailure]
        simp only [hexpired, Bool.false_and, Bool.false_eq_true, if_false]
        exact .fetch fault failure hrefused hdescribes

theorem tokenAnswered_settle {s : Broker.Fetches} {f seen : Nat}
    {rejected : Option Auth.Snapshot} {previous : Auth.Context}
    (hfetch : s.fetch f = .seeking rejected)
    (hcall : s.auth.call (Broker.callOf f rejected) = .leading seen previous)
    {request : Client.Request}
    {finish : Time.Instant → Except Client.Fault Image → Except Provider.Failure Auth.Context}
    (hposts : (Provider.Exchange.ask request finish).PostsForToken) (now issuedAt : Time.Instant)
    (draw : Nat) (response : Except Client.Fault Image) :
    TokenAnswered s.provider response
      ((s.step (.seek f (.settle (finish now response) issuedAt draw))).fetch f) := by
  obtain ⟨hunusable, herror⟩ := hposts.2 now
  have hturn := Turn.settle hfetch hcall (finish now response) issuedAt draw
  obtain ⟨-, hasks, hends⟩ := Turn.of_settle hturn hfetch
  cases response with
  | ok image =>
      cases hresult : finish now (.ok image) with
      | ok context =>
          rw [← hresult, hasks context hresult]
          exact .context image _ _
      | error failure =>
          rw [← hresult, hends failure hresult]
          exact .unusable image _ failure (hunusable image failure hresult)
  | error fault =>
      obtain ⟨failure, hfailure, hdescribes⟩ := herror fault
      rw [hends failure hfailure]
      exact .failed fault _ failure hdescribes

section BuiltIn

open Serving

variable (p : Provider.BuiltIn) (env : Provider.Env) (transport : Transport π)
  (tile : Nat → TileRequest)

/-- A fetch that waits for its tile goes on as the answer to its request says, if it takes one. -/
def FollowsTileAnswer (s : Serving π) (f : Nat) : Prop :=
  ∀ call, s.pending f = .tile call → ∃ rejected snapshot asked state,
    s.fetches.fetch f = .generating rejected snapshot ∧
    call = (Begun.ofExchange transport state
      (p.generate env snapshot.context.value (tile f) asked)).1 ∧
    ∀ request finish, p.generate env snapshot.context.value (tile f) asked = .ask request finish →
      ∀ r, TileAnswered p.name rejected snapshot (transport request state).1.2
        ((s.step (.ofBuiltIn p env transport) tile (.turn f r)).fetches.fetch f)

def FollowsTokenAnswer (s : Serving π) (f : Nat) : Prop :=
  ∀ call, s.pending f = .context call → ∃ state, call = (Begun.ofExchange transport state
      (p.preAuth env)).1 ∧
    ∀ request finish, p.preAuth env = .ask request finish →
      ∀ r, TokenAnswered p.name (transport request state).1.2
        ((s.step (.ofBuiltIn p env transport) tile (.turn f r)).fetches.fetch f)

variable {p env transport tile} {s : Serving π} {f : Nat}

theorem followsTileAnswer (hs : s.Backed (.ofBuiltIn p env transport) tile f)
    (hname : s.fetches.provider = p.name) : FollowsTileAnswer p env transport tile s f := by
  intro call hpending
  obtain ⟨asked, state, rejected, snapshot, hfetch, rfl⟩ := hs.of_tile hpending
  refine ⟨rejected, snapshot, asked, state, hfetch, rfl, ?_⟩
  intro request finish hask r
  have hoffer : s.Offer (.ofBuiltIn p env transport) f r _ _ _ :=
    .tile _ hpending (Begun.finish_ofExchange transport state _ r.now s.provider).1
  have hgets := p.getsTile env snapshot.context.value (tile f) asked
  rw [hask] at hgets
  rw [hoffer.fetches_step, ← hname]
  simpa [Setup.ofBuiltIn, Service.ofBuiltIn, Begun.ofExchange, hask, Broker.Fetches.step] using
    tileAnswered_answer hfetch hgets.of_ask.2 r.now (transport request state).1.2

theorem followsTokenAnswer {server : Provider.Tokens}
    (hs : s.Backed (.ofBuiltIn (.tokens server) env transport) tile f)
    (hname : s.fetches.provider = server.name) :
    FollowsTokenAnswer (.tokens server) env transport tile s f := by
  intro call hpending
  obtain ⟨previous, overlap, asked, state, rejected, seen, hfetch, hcall, rfl⟩ :=
    hs.of_context hpending
  refine ⟨state, rfl, ?_⟩
  rintro request finish hask r
  have hoffer : s.Offer (.ofBuiltIn (.tokens server) env transport) f r _ _ _ :=
    .context _ hpending (Begun.finish_ofExchange transport state _ r.now s.provider).1
  have hposts := server.postsForToken env
  rw [show server.preAuth env = _ from hask] at hposts
  rw [hoffer.fetches_step, show (Provider.BuiltIn.tokens server).name = _ from hname.symm]
  simpa [Setup.ofBuiltIn, Service.ofBuiltIn, Begun.ofExchange, hask] using
    tokenAnswered_settle hfetch hcall hposts r.now r.issuedAt r.draw (transport request state).1.2

end BuiltIn

section Refreshes

variable {env : Provider.Env} {transport : Transport π}

theorem bypassed_of_possible {server : Provider.Public} {snapshot : Auth.Snapshot}
    (h : Serving.Possible (.ofBuiltIn (.plain server) env transport)
      (Serving.resultOf (.ok snapshot))) : snapshot.isBypassed = true := by
  rcases h with htimeout | ⟨previous, overlap, asked, state, now, state', hresult⟩
  · simp [Serving.resultOf] at htimeout
  · have hcontext : Auth.Context.bypassing = snapshot.context.value := Except.ok.inj hresult
    rw [Auth.Snapshot.isBypassed, ← hcontext, Auth.Context.bypassing]

/-- A request for a token that has failed does not say that the credentials have expired. -/
theorem kind_ne_of_possible {server : Provider.Tokens} {failure : Auth.Handle Provider.Failure}
    (h : Serving.Possible (.ofBuiltIn (.tokens server) env transport)
      (Serving.resultOf (.error failure))) : failure.value.kind ≠ .authExpired := by
  rcases h with htimeout | ⟨previous, overlap, asked, state, now, state', hresult⟩
  · rw [Except.error.inj htimeout]
    simp [Provider.Failure.ofTimeout]
  · obtain ⟨hunusable, herror⟩ := (server.postsForToken env).2 now
    cases hresponse :
        (transport
          { url := server.tokenUrl, form := some server.form, headers := server.authHeaders }
          state).1.2 with
    | ok image =>
        have hfinish : (server.readToken env now image.bytes) = .error failure.value := by
          simpa [Setup.ofBuiltIn, Service.ofBuiltIn, Begun.ofExchange, Provider.BuiltIn.preAuth,
            Provider.Tokens.preAuth, hresponse, Serving.resultOf] using hresult
        simp [hunusable image failure.value hfinish]
    | error fault =>
        have hfinish : Except.error (server.authFailure env fault) =
            (.error failure.value : Except Provider.Failure Auth.Context) := by
          simpa [Setup.ofBuiltIn, Service.ofBuiltIn, Begun.ofExchange, Provider.BuiltIn.preAuth,
            Provider.Tokens.preAuth, hresponse, Serving.resultOf] using hresult
        rw [← Except.error.inj hfinish]
        exact (server.describes_authFailure env fault).expired_iff.not.mpr not_false

end Refreshes

section Runs

open Serving

variable (env : Provider.Env) (transport : Transport π) (tile : Nat → TileRequest)
  (policy : Auth.Policy) (state : π) (events : List Event)

theorem provider_run_initial (p : Provider.BuiltIn) :
    ((initial (.ofBuiltIn p env transport) policy state).run
      (.ofBuiltIn p env transport) tile events).fetches.provider = p.name := by
  rw [fetches_run_initial]
  exact Broker.Fetches.provider_run _ _

/-- A fetch whose call for a token has failed has ended, and sends no more requests. -/
theorem failed_token_final (server : Provider.Tokens) {f : Nat} {rejected : Option Auth.Snapshot}
    {failure : Auth.Handle Provider.Failure}
    (hfailed : ((initial (.ofBuiltIn (.tokens server) env transport) policy state).run
      (.ofBuiltIn (.tokens server) env transport) tile events).fetches.auth.call
        (Broker.callOf f rejected) = .done (.error failure)) :
    let s := (initial (.ofBuiltIn (.tokens server) env transport) policy state).run
      (.ofBuiltIn (.tokens server) env transport) tile events
    failure.value.kind ≠ .authExpired ∧
      s.fetches.fetch f = .done (.error (.refresh server.name failure)) ∧
      ∀ after, requests (.tokens server) env tile f
        (s.askLog (.ofBuiltIn (.tokens server) env transport) tile after) = [] := by
  intro s
  have hdone : s.fetches.fetch f = .done (.error (.refresh server.name failure)) := by
    rw [fetches_run_initial] at hfailed ⊢
    exact Broker.Fetches.fetch_of_failed_run _ hfailed
  refine ⟨?_, hdone, fun after ↦ ?_⟩
  · rw [fetches_run_initial] at hfailed
    have hmem := Broker.Fetches.error_mem_of_done _ hfailed
    exact kind_ne_of_possible (possible_run _ tile policy state events _ hmem)
  · rw [requests, List.filter_eq_nil_iff.mpr, requestsFor_nil]
    intro a ha
    simpa using fetch_ne_of_done _ tile policy state events after hdone a ha

theorem length_tilesAsked_le_one (server : Provider.Public) (f : Nat) :
    (tilesAsked f ((initial (.ofBuiltIn (.plain server) env transport) policy state).askLog
      (.ofBuiltIn (.plain server) env transport) tile events)).length ≤ 1 := by
  rw [(agrees_run _ tile policy state events f).tiles, List.length_map]
  apply Broker.Fetches.length_asked_le_one
  intro snapshot hmem
  exact bypassed_of_possible (possible_run _ tile policy state events _ hmem)

/-- A tile is asked for wherever there are credentials and an address, and failed requests are told
apart by what they asked for.  A fetch goes on as the answers to its requests say: with tokens it
sends at most two requests for its tile and two for a token, and none after a call for a token has
failed; without authentication it sends one request at most.  A transport gets no other
requests. -/
theorem http_failures_end_to_end :
    (∀ p : Provider.BuiltIn,
      (∀ context r now, (p.generate env context r now).GetsTile
        (p.Carries context now) (p.template.renderUrl r)) ∧
      ∀ events f, FollowsTileAnswer p env transport tile
        ((initial (.ofBuiltIn p env transport) policy state).run
          (.ofBuiltIn p env transport) tile events) f) ∧
    (∀ server : Provider.Tokens, (server.preAuth env).PostsForToken ∧
      ∀ events f,
        let start := initial (.ofBuiltIn (.tokens server) env transport) policy state
        let s := start.run (.ofBuiltIn (.tokens server) env transport) tile events
        let sent := requests (.tokens server) env tile f
          (start.askLog (.ofBuiltIn (.tokens server) env transport) tile events)
        FollowsTokenAnswer (.tokens server) env transport tile s f ∧
        sent.countP (·.method = "GET") ≤ 2 ∧ sent.countP (·.method = "POST") ≤ 2 ∧
        sent.length = sent.countP (·.method = "GET") + sent.countP (·.method = "POST") ∧
        ∀ rejected failure,
          s.fetches.auth.call (Broker.callOf f rejected) = .done (.error failure) →
            failure.value.kind ≠ .authExpired ∧
            s.fetches.fetch f = .done (.error (.refresh server.name failure)) ∧
            ∀ after, requests (.tokens server) env tile f
              (s.askLog (.ofBuiltIn (.tokens server) env transport) tile after) = []) ∧
    (∀ server : Provider.Public, ∀ events f,
      let start := initial (.ofBuiltIn (.plain server) env transport) policy state
      let sent := requests (.plain server) env tile f
        (start.askLog (.ofBuiltIn (.plain server) env transport) tile events)
      sent.length ≤ 1 ∧ sent.length = sent.countP (·.method = "GET")) ∧
    ∀ p : Provider.BuiltIn, ∀ events,
      let start := initial (.ofBuiltIn p env transport.noting) policy (state, [])
      (start.run (.ofBuiltIn p env transport.noting) tile events).provider.2 =
        requestsFor p env tile
          (start.askLog (.ofBuiltIn p env transport.noting) tile events) := by
  refine ⟨?_, ?_, ?_, fun p ↦ noted_run p env transport tile policy state⟩
  · intro p
    refine ⟨p.getsTile env, fun events f ↦ ?_⟩
    apply followsTileAnswer (backed_run _ tile policy state events f)
    exact provider_run_initial env transport tile policy state events p
  · intro server
    refine ⟨server.postsForToken env, fun events f ↦ ?_⟩
    intro start s sent
    obtain ⟨hgets, hposts⟩ := count_requests_le (.tokens server) env tile f
      (start.askLog (.ofBuiltIn (.tokens server) env transport) tile events)
    obtain ⟨htiles, hcontexts⟩ := length_asked_le (.ofBuiltIn (.tokens server) env transport) tile
      policy state events f
    refine ⟨?_, hgets.trans htiles, hposts.trans hcontexts, length_requests _ env tile f _, ?_⟩
    · apply followsTokenAnswer (backed_run _ tile policy state events f)
      exact provider_run_initial env transport tile policy state events (.tokens server)
    · intro rejected failure
      exact failed_token_final env transport tile policy state events server
  · intro server events f start sent
    have hlength := length_requests (.plain server) env tile f
      (start.askLog (.ofBuiltIn (.plain server) env transport) tile events)
    rw [countP_post_eq_zero, Nat.add_zero] at hlength
    refine ⟨?_, hlength⟩
    rw [hlength]
    exact (count_requests_le (.plain server) env tile f _).1.trans
      (length_tilesAsked_le_one env transport tile policy state events server f)

end Runs

end TileFetch.Simulation
