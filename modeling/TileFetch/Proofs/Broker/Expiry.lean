import TileFetch.Proofs.Auth.Renewal
import TileFetch.Proofs.Broker.Retry

/-!
# Many fetches with one rejected context

Any number of fetches may use a context that expires, and each of them reports it.  The cache
accepts one of the reports.  Whether a report comes before, during or after the refresh that
follows the first one, its fetch waits for that refresh or finds its context: a second refresh
would need a failure, a leader that is dropped, or a report against the new context.
-/

namespace TileFetch.Broker.Fetches

variable {s t : Fetches} {e : Event} {authEvents : List Auth.Event} {marks : List Mark} {f : Nat}

/-- When a context is reported and a call begins, it is seen whether the report is accepted;
no refresh is invoked and no call returns. -/
theorem log_report (a : Auth.Calls) (snapshot : Auth.Snapshot) (c : Nat) :
    let log := a.log [.invalidate snapshot, .start c]
    Auth.acceptances log = (if a.cache.accepts snapshot then [snapshot.generation] else []) ∧
      Auth.invocations log = [] ∧ Auth.returns log = [] := by
  intro log
  let b := a.step (.invalidate snapshot)
  have hlog : log = (a.mark? (.invalidate snapshot)).toList ++ (b.mark? (.start c)).toList := by
    simp [log, b, Auth.Calls.log]
  have hbegan : b.mark? (.start c) = none ∨ b.mark? (.start c) = some (.began c) := by
    cases hcall : b.call c <;> simp [Auth.Calls.mark?, Auth.Calls.start, Auth.Mark.ofMove?, hcall]
  have hreported : a.mark? (.invalidate snapshot) =
      if a.cache.accepts snapshot then some (.accepted snapshot.generation) else none := rfl
  rw [hlog, hreported]
  rcases hbegan with hb | hb <;> rw [hb] <;> cases a.cache.accepts snapshot <;>
    exact ⟨rfl, rfl, rfl⟩

/-- The reports of fetches that are accepted are among those that the cache accepts. -/
theorem Move.acceptedReports_sublist (h : s.Move e authEvents marks t) :
    (acceptedReports marks).Sublist (Auth.acceptances (s.auth.log authEvents)) := by
  cases h with
  | retry f snapshot failure =>
      rw [(log_report s.auth snapshot _).1]
      cases s.auth.cache.accepts snapshot <;> exact .refl _
  | _ => exact List.nil_sublist _

theorem acceptedReports_sublist (s : Fetches) (events : List Event) :
    (acceptedReports (s.log events)).Sublist (Auth.acceptances (s.authLog events)) := by
  induction events using List.reverseRecOn with
  | nil => exact .slnil
  | append_singleton events e ih =>
      rw [log_concat, acceptedReports_append, authLog_append, authLog_singleton,
        Auth.acceptances_append]
      exact ih.append (move_step _ e).acceptedReports_sublist

theorem count_acceptedReports_le_one (provider : String) (policy : Auth.Policy)
    (events : List Event) (g : Nat) :
    (acceptedReports ((initial provider policy).log events)).count g ≤ 1 := by
  have hnodup : (Auth.acceptances ((initial provider policy).authLog events)).Nodup :=
    Auth.Calls.acceptances_nodup policy _
  exact ((acceptedReports_sublist _ events).count_le g).trans
    (List.nodup_iff_count_le_one.mp hnodup g)

/-- A step with a report ends a first attempt; in the cache, no refresh is invoked and no call
returns. -/
theorem Move.of_report (h : s.Move e authEvents marks t) (hreport : reports f marks ≠ []) :
    ∃ first accepted, reports f marks = [(first, accepted)] ∧
      t.fetch f = .seeking (some first) ∧
      Auth.invocations (s.auth.log authEvents) = [] ∧
      Auth.returns (s.auth.log authEvents) = [] := by
  cases h with
  | retry g snapshot failure =>
      obtain rfl : g = f := by
        by_contra hne
        simp [Mark.reported?, hne] at hreport
      obtain ⟨-, hinvoked, hreturned⟩ := log_report s.auth snapshot (callOf g (some snapshot))
      refine ⟨snapshot, s.auth.cache.accepts snapshot, ?_, ?_, hinvoked, hreturned⟩
      · simp [Mark.reported?]
      · simp [seek]
  | _ => simp [Mark.reported?] at hreport

theorem Move.of_asked (h : s.Move e authEvents marks t) (hasked : asked f marks ≠ []) :
    ∃ rejected snapshot, asked f marks = [snapshot] ∧ s.fetch f = .seeking rejected ∧
      (s.auth.run authEvents).call (callOf f rejected) = .done (.ok snapshot) := by
  cases h with
  | ask g step rejected snapshot hfetch hcall =>
      obtain rfl : g = f := by
        by_contra hne
        simp [Mark.asked?, hne] at hasked
      exact ⟨rejected, snapshot, by simp [Mark.asked?], hfetch, hcall⟩
  | _ => simp [Mark.asked?] at hasked

/-- The second context of a fetch is what a call for a context returns when the fetch has
asked once. -/
theorem asked_in_window (provider : String) (policy : Auth.Policy) (before window : List Event)
    {first second : Auth.Snapshot} :
    let s := (initial provider policy).run before
    let past := (initial provider policy).log before
    asked f (past ++ s.log window) = [first, second] →
      asked f past = [first, second] ∨
        .ok second ∈ Auth.returns (s.authLog window) := by
  intro s past htwo
  induction window using List.reverseRecOn with
  | nil => exact .inl (by simpa [log] using htwo)
  | append_singleton window e ih =>
      have hmove := move_step (s.run window) e
      rw [log_concat, ← List.append_assoc, asked_append] at htwo
      rw [authLog_append, Auth.returns_append, List.mem_append, authLog_singleton]
      by_cases hasked : asked f ((s.run window).marks e) = []
      · rw [hasked, List.append_nil] at htwo
        exact (ih htwo).imp_right .inl
      · obtain ⟨rejected, snapshot, hnow, hfetch, hcall⟩ := hmove.of_asked hasked
        rw [hnow] at htwo
        obtain ⟨honce, hlast⟩ := List.append_inj' (htwo.trans rfl : _ = [first] ++ [second]) rfl
        obtain rfl := List.singleton_inj.mp hlast
        -- A fetch that has asked once makes its second call, and that one was not done before.
        have hfits := fits_run provider policy (before ++ window) f
        rw [run_append, log_append, hfetch] at hfits
        cases rejected with
        | none =>
            obtain ⟨hnever, -⟩ := hfits
            exact (List.cons_ne_nil _ _ (honce.symm.trans hnever)).elim
        | some x =>
            obtain ⟨-, -, -, hpending⟩ := hfits
            exact .inr (.inr (Auth.Calls.mem_returns_of_done _ _ hpending hcall))

theorem renewal_run {provider : String} {policy : Auth.Policy}
    (hreactive : policy.isReactive = true) (before after : List Event) {g : Nat}
    (hretired : ((initial provider policy).run before).auth.cache.slot.Retired g)
    (hquiet : Auth.Quiet g (((initial provider policy).run before).authLog after)) :
    Auth.Calls.Renewal g (((initial provider policy).run before).authLog after)
      ((initial provider policy).run (before ++ after)).auth := by
  unfold authLog at hquiet ⊢
  rw [auth_run] at hretired hquiet ⊢
  rw [auth_run, authHistory_append]
  exact Auth.Calls.renewal_run hreactive _ _ hretired hquiet

/-- The fetches `F` use contexts of one generation `g`, and the provider rejects them; that
each of them reports its context follows, since it asks twice.  The part `window` of a run goes
from the first of their reports to where all of them have a context to ask with again; it begins
in `s`, and `past` is the log before it. -/
structure Reporting (F : Finset Nat) (g : Nat) (s : Fetches) (past : List Mark)
    (window : List Event) : Prop where
  begins : ∃ e rest, window = e :: rest ∧ ∃ f ∈ F, reports f (s.marks e) ≠ []
  unreported : ∀ f ∈ F, reports f past = []
  retried : ∀ f ∈ F, ∃ first second, asked f (past ++ s.log window) = [first, second] ∧
    first.generation = g

section Window

variable {provider : String} {policy : Auth.Policy} {before window : List Event} {F : Finset Nat}
  {g : Nat}
  (h : Reporting F g ((initial provider policy).run before)
    ((initial provider policy).log before) window)

include h

/-- The first of the reports retires the generation, and nothing is heard of calls in that
step. -/
theorem Reporting.exists_first :
    ∃ e rest, window = e :: rest ∧
      ((initial provider policy).run (before ++ [e])).auth.cache.slot.Retired g ∧
      Auth.invocations (((initial provider policy).run before).authLog [e]) = [] ∧
      Auth.returns (((initial provider policy).run before).authLog [e]) = [] := by
  obtain ⟨e, rest, rfl, f, hf, hreport⟩ := h.begins
  obtain ⟨first, -, -, hfetch, hinvoked, hreturned⟩ := (move_step _ e).of_report hreport
  rw [← authLog_singleton] at hinvoked hreturned
  refine ⟨e, rest, rfl, ?_, hinvoked, hreturned⟩
  have hfits := fits_run provider policy (before ++ [e]) f
  rw [run_concat, hfetch, log_concat] at hfits
  obtain ⟨honce, -, hretired, -⟩ := hfits
  -- The context that it reports is the one with which it asked first.
  obtain ⟨first', second, htwo, hgeneration⟩ := h.retried f hf
  rw [log, ← List.append_assoc, asked_append, honce] at htwo
  obtain ⟨rfl, -⟩ := List.cons_eq_cons.mp htwo
  rw [run_concat, ← hgeneration]
  exact hretired

/-- From the first of the reports on, at most one refresh is begun, and the calls that return a
context all return the same one, which is newer. -/
theorem Reporting.one_refresh (hreactive : policy.isReactive = true) {authLog : List Auth.Mark}
    (hlog : authLog = ((initial provider policy).run before).authLog window)
    (hquiet : Auth.Quiet g authLog) :
    (Auth.invocations authLog).length ≤ 1 ∧ ∀ x ∈ Auth.published (Auth.returns authLog),
      g < x.generation ∧ ∀ y ∈ Auth.published (Auth.returns authLog), y = x := by
  obtain ⟨e, rest, rfl, hretired, hinvoked, hreturned⟩ := h.exists_first
  have hparts : authLog = ((initial provider policy).run before).authLog [e] ++
      ((initial provider policy).run (before ++ [e])).authLog rest := by
    rw [hlog, run_append, ← authLog_append]
    rfl
  rw [hparts] at hquiet ⊢
  -- The generation is retired after the first step, so the renewal is that of the rest.
  have hrenewal := renewal_run hreactive (before ++ [e]) rest hretired
    (Auth.quiet_append.mp hquiet).2
  rw [Auth.invocations_append, Auth.returns_append, hinvoked, hreturned]
  exact hrenewal.one_refresh

theorem Reporting.second_returned {f : Nat} (hf : f ∈ F) :
    ∃ first second,
      asked f ((initial provider policy).log before ++
        ((initial provider policy).run before).log window) = [first, second] ∧
      second ∈ Auth.published
        (Auth.returns (((initial provider policy).run before).authLog window)) := by
  obtain ⟨first, second, htwo, -⟩ := h.retried f hf
  refine ⟨first, second, htwo, ?_⟩
  rcases asked_in_window provider policy before window htwo with hbefore | hreturned
  · -- Who had asked twice before the window would have reported before it.
    obtain ⟨⟨-, accepted, hreport⟩, -⟩ :=
      (fits_run provider policy before f).retries.of_asked_twice hbefore
    exact (List.cons_ne_nil _ _ (hreport.symm.trans (h.unreported f hf))).elim
  · exact Auth.mem_published.mpr hreturned

end Window

/-- One refresh for each generation.  Of all reports against one generation at most one is
accepted.  If fetches report the contexts of one generation, then from the first report on until
all of them ask again at most one refresh is begun, and all of them ask with one newer context,
provided that meanwhile no refresh fails or is given up and no report against a newer context is
accepted. -/
theorem one_refresh_per_generation (provider : String) (policy : Auth.Policy)
    (before window : List Event) (F : Finset Nat) (g : Nat) :
    let s := (initial provider policy).run before
    let past := (initial provider policy).log before
    let log := past ++ s.log window
    (acceptedReports log).count g ≤ 1 ∧
      (policy.isReactive = true → Reporting F g s past window → Auth.Quiet g (s.authLog window) →
        (Auth.invocations (s.authLog window)).length ≤ 1 ∧
        ∃ second, g < second.generation ∧
          ∀ f ∈ F, ∃ first, asked f log = [first, second]) := by
  intro s past log
  constructor
  · simp only [log, past, s]
    rw [← log_append]
    exact count_acceptedReports_le_one provider policy (before ++ window) g
  · intro hreactive hreporting hquiet
    obtain ⟨hone, hsame⟩ := hreporting.one_refresh hreactive rfl hquiet
    refine ⟨hone, ?_⟩
    obtain ⟨-, -, -, f, hf, -⟩ := hreporting.begins
    obtain ⟨-, second, -, hsecond⟩ := hreporting.second_returned hf
    obtain ⟨hlt, hall⟩ := hsame second hsecond
    refine ⟨second, hlt, ?_⟩
    intro other hother
    obtain ⟨first, second', htwo, hsecond'⟩ := hreporting.second_returned hother
    obtain rfl := hall second' hsecond'
    exact ⟨first, htwo⟩

def threeFetches : List Event :=
  [.start 0, .seek 0 (.look (Auth.moment 0)), .seek 0 (.acquire (Auth.moment 0)),
    .seek 0 (.settle (.ok (.ofToken "old")) (Auth.moment 1) 0),
    .start 1, .seek 1 (.look (Auth.moment 2)), .start 2, .seek 2 (.look (Auth.moment 2))]

def rejection : Except Provider.Failure Image :=
  .error ⟨.authExpired, "expired", none⟩

/-- The context is rejected before, during and after the refresh that the first report leads to. -/
def threeRejections : List Event :=
  [.answer 0 rejection, .seek 0 (.look (Auth.moment 3)), .seek 0 (.acquire (Auth.moment 3)),
    .answer 1 rejection, .seek 1 (.look (Auth.moment 4)),
    .seek 0 (.settle (.ok (.ofToken "new")) (Auth.moment 5) 0),
    .seek 1 (.acquire (Auth.moment 6)),
    .answer 2 rejection, .seek 2 (.look (Auth.moment 7))]

theorem three_rejections_one_refresh :
    let s := (initial "tiles" .reactive).run threeFetches
    let log := (initial "tiles" .reactive).log threeFetches ++ s.log threeRejections
    (Auth.invocations (s.authLog threeRejections)).length ≤ 1 ∧
      ∃ second, 1 < second.generation ∧
        ∀ f ∈ ({0, 1, 2} : Finset Nat), ∃ first, asked f log = [first, second] := by
  intro s log
  obtain ⟨-, hone⟩ :=
    one_refresh_per_generation "tiles" .reactive threeFetches threeRejections {0, 1, 2} 1
  let old : Auth.Snapshot := ⟨1, ⟨0, .ofToken "old"⟩⟩
  let new : Auth.Snapshot := ⟨2, ⟨1, .ofToken "new"⟩⟩
  have hfirst : reports 0 (s.marks (.answer 0 rejection)) = [(old, true)] := rfl
  have hunreported : ∀ f ∈ ({0, 1, 2} : Finset Nat),
      reports f ((initial "tiles" .reactive).log threeFetches) = [] := by
    simp only [Finset.forall_mem_insert, Finset.mem_singleton, forall_eq]
    exact ⟨rfl, rfl, rfl⟩
  have hlog : log = (initial "tiles" .reactive).log (threeFetches ++ threeRejections) :=
    (log_append _ _ _).symm
  have hasked : ∀ f ∈ ({0, 1, 2} : Finset Nat), asked f log = [old, new] := by
    rw [hlog]
    simp only [Finset.forall_mem_insert, Finset.mem_singleton, forall_eq]
    exact ⟨rfl, rfl, rfl⟩
  have hquiet : Auth.Quiet 1 (s.authLog threeRejections) := by
    have hall : Auth.Quiet 1
        ((initial "tiles" .reactive).authLog (threeFetches ++ threeRejections)) :=
      ⟨rfl, rfl, fun h hmem ↦ (List.mem_singleton.mp hmem).le⟩
    rw [authLog_append, Auth.quiet_append] at hall
    exact hall.2
  have hreporting :
      Reporting {0, 1, 2} 1 s ((initial "tiles" .reactive).log threeFetches) threeRejections := by
    refine ⟨⟨.answer 0 rejection, _, rfl, 0, by decide, ?_⟩, hunreported, ?_⟩
    · exact ne_of_eq_of_ne hfirst (List.cons_ne_nil _ _)
    · exact fun f hf ↦ ⟨old, new, hasked f hf, rfl⟩
  exact hone rfl hreporting hquiet

end TileFetch.Broker.Fetches
