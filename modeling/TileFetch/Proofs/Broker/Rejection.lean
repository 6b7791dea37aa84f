import TileFetch.Proofs.Broker.Expiry
import TileFetch.Proofs.Broker.Outcome

/-!
# Contexts that were rejected

A fetch whose first context is rejected reports it, and no fetch asks with that context again.
A fetch whose second context is rejected returns, and reports nothing: the cache goes on handing
out the context that was rejected, and the next fetch asks with it.
-/

namespace TileFetch.Broker

variable {f g : Nat} {log marks : List Mark} {first x : Auth.Snapshot}
  {failure : Provider.Failure}

theorem reported_firstAttempt {accepted : Bool} {answer : Except Provider.Failure Image}
    (hmem : .answered g x answer ∈ firstAttempt f first failure accepted) :
    .reported g x accepted ∈ firstAttempt f first failure accepted := by
  obtain ⟨rfl, rfl, -⟩ : g = f ∧ x = first ∧ answer = .error failure := by
    simpa [firstAttempt] using hmem
  simp [firstAttempt]

theorem Begun.reported (h : Begun f marks) {answer : Except Provider.Failure Image}
    (hmem : .answered g x answer ∈ marks) : ∃ accepted, .reported g x accepted ∈ marks := by
  rcases h with rfl | ⟨first, rfl⟩ | ⟨first, failure, accepted, rfl | ⟨second, rfl⟩⟩
  · simp at hmem
  · simp at hmem
  · exact ⟨accepted, reported_firstAttempt hmem⟩
  · have hfirst : .answered g x answer ∈ firstAttempt f first failure accepted := by
      simpa using hmem
    exact ⟨accepted, List.mem_append_left _ (reported_firstAttempt hfirst)⟩

/-- A fetch that ended by itself has reported the context that was rejected, or that was the
context of its retry. -/
theorem Ending.Fits.reported_or_twice {auth : Auth.Calls} {y : Ending} (h : y.Fits f auth)
    (hretriable : Retriable x failure) (hmem : .answered f x (.error failure) ∈ y.marks f) :
    (∃ accepted, .reported f x accepted ∈ y.marks f) ∨
      ∃ first own accepted, y = .twice first own accepted x (.error failure) := by
  cases y with
  | refused error => simp [marks] at hmem
  | once first answer =>
      obtain ⟨hfinal, -⟩ := h
      obtain ⟨rfl, rfl⟩ : x = first ∧ .error failure = answer := by simpa [marks] using hmem
      exact (hfinal failure rfl hretriable).elim
  | stranded first own accepted error => exact .inl ⟨accepted, reported_firstAttempt hmem⟩
  | twice first own accepted second answer =>
      rcases List.mem_append.mp hmem with hfirst | hlast
      · exact .inl ⟨accepted, List.mem_append_left _ (reported_firstAttempt hfirst)⟩
      · obtain ⟨rfl, rfl⟩ : x = second ∧ .error failure = answer := by simpa using hlast
        exact .inr ⟨first, own, accepted, rfl⟩

namespace Fetches

variable {s : Fetches} {e : Event} {snapshot : Auth.Snapshot}

/-- A context that was rejected was reported, or that was the end of a retry. -/
theorem reported_or_retry (provider : String) (policy : Auth.Policy) (events : List Event)
    (hretriable : Retriable x failure)
    (hmem : .answered g x (.error failure) ∈ (initial provider policy).log events) :
    (∃ accepted, .reported g x accepted ∈ (initial provider policy).log events) ∨
      (∃ first, asked g ((initial provider policy).log events) = [first, x]) ∧
        ((initial provider policy).run events).fetch g =
          .done (.error (.expired provider failure)) := by
  have hcourse := course_run provider policy events g
  have hown : .answered g x (.error failure) ∈ own g ((initial provider policy).log events) :=
    mem_own.mpr ⟨hmem, rfl⟩
  by_cases hdone : ∃ result, ((initial provider policy).run events).fetch g = .done result
  · obtain ⟨result, hresult⟩ := hdone
    obtain ⟨y, hmarks, rfl, hfits⟩ := exists_ending provider policy events hresult
    rw [hmarks] at hown
    rcases hfits.reported_or_twice hretriable hown with ⟨accepted, hreported⟩ |
      ⟨first, own', accepted, rfl⟩
    · rw [← hmarks] at hreported
      exact .inl ⟨accepted, (mem_own.mp hreported).1⟩
    · refine .inr ⟨⟨first, ?_⟩, ?_⟩
      · rw [← asked_own, hmarks, Ending.asked_marks, Ending.answers_marks]
        rfl
      · rw [hresult]
        simp [Ending.result, Except.mapError, Fault.ofFailure, hretriable.1]
  · push Not at hdone
    obtain ⟨accepted, hreported⟩ := (hcourse.begun hdone).reported hown
    exact .inl ⟨accepted, (mem_own.mp hreported).1⟩

/-- Once it has been reported, whether the report was accepted or not, a context is retired. -/
theorem retired_of_reported (provider : String) (policy : Auth.Policy) (events : List Event)
    {accepted : Bool}
    (hmem : .reported g x accepted ∈ (initial provider policy).log events) :
    ((initial provider policy).run events).auth.cache.slot.Retired x.generation := by
  induction events using List.reverseRecOn with
  | nil => simp [log] at hmem
  | append_singleton events e ih =>
      rw [log_concat, List.mem_append] at hmem
      rcases hmem with hearlier | hnow
      · rw [run_concat]
        exact (precedes_step provider policy events e).retired (ih hearlier)
      · -- Who has just reported a context seeks another one.
        have hreports := mem_reports.mpr hnow
        obtain ⟨first, own', hone, hfetch, -⟩ :=
          (move_step _ e).of_report (List.ne_nil_of_mem hreports)
        obtain ⟨rfl, -⟩ : x = first ∧ accepted = own' := by simpa [hone] using hreports
        have hfits := fits_run provider policy (events ++ [e]) g
        rw [run_concat, hfetch] at hfits
        obtain ⟨-, -, hretired, -⟩ := hfits
        rwa [run_concat]

/-- A fetch asks with a newer context than all that are retired. -/
theorem lt_generation_of_asked (provider : String) (policy : Auth.Policy) (before : List Event)
    (hasked : .asked f snapshot ∈ ((initial provider policy).run before).marks e) {generation : Nat}
    (hretired : ((initial provider policy).run before).auth.cache.slot.Retired generation) :
    generation < snapshot.generation := by
  have hs := consistent_auth provider policy before
  have hcourse := course_run provider policy before f
  have hmove := move_step ((initial provider policy).run before) e
  generalize (initial provider policy).run before = s at *
  generalize s.step e = t at hmove
  generalize s.marks e = marks at hmove hasked
  generalize s.authEvents e = authEvents at hmove
  cases hmove with
  | ask b step rejected found hfetch hcall =>
      obtain ⟨rfl, rfl⟩ : f = b ∧ snapshot = found := by simpa using hasked
      have hpending : ∀ outcome, s.auth.call (callOf f rejected) ≠ .done outcome := by
        rw [hfetch] at hcourse
        cases rejected with
        | none => exact hcourse.2.1
        | some first =>
            obtain ⟨-, -, -, -, -, hpending⟩ := hcourse
            exact hpending
      exact hs.lt_generation_of_done (Auth.Calls.move_step s.auth (.step _ step)) hretired hpending
        hcall
  | _ => simp at hasked

/-- The contexts with which fetches ask.  One that was reported is not used again.  One that was
rejected may be, but only if it was the context of a retry, which the provider rejected too. -/
theorem asked_after_rejection (provider : String) (policy : Auth.Policy) (before : List Event)
    (e : Event) (f : Nat) (snapshot : Auth.Snapshot)
    (hasked : .asked f snapshot ∈ ((initial provider policy).run before).marks e) :
    let past := (initial provider policy).log before
    (∀ g x accepted, .reported g x accepted ∈ past → x.generation < snapshot.generation) ∧
      ∀ g x (failure : Provider.Failure), .answered g x (.error failure) ∈ past →
        failure.isAuthExpired = true → x.isBypassed = false →
          x.generation < snapshot.generation ∨
            (∃ first, asked g past = [first, x]) ∧
              ((initial provider policy).run before).fetch g =
                .done (.error (.expired provider failure)) := by
  intro past
  have hreported : ∀ g x accepted, .reported g x accepted ∈ past →
      x.generation < snapshot.generation := by
    intro g x accepted hmem
    exact lt_generation_of_asked provider policy before hasked
      (retired_of_reported provider policy before hmem)
  refine ⟨hreported, ?_⟩
  intro g x failure hanswered hexpired hbypass
  rcases reported_or_retry provider policy before ⟨hexpired, hbypass⟩ hanswered with
    ⟨accepted, hmem⟩ | hretry
  · exact .inl (hreported g x accepted hmem)
  · exact .inr hretry

/-- Nothing is told to the cache when the context of a retry is rejected. -/
theorem auth_answer_of_retry (hretry : s.fetch g = .generating (some first) x)
    (answer : Except Provider.Failure Image) : (s.step (.answer g answer)).auth = s.auth := by
  cases answer <;> simp [step, Fetches.answer, hretry, Fetches.finish]

/-- So the next fetch asks with that context, as long as it can be used. -/
theorem asked_with_rejected (provider : String) (policy : Auth.Policy) (before : List Event)
    (hretry : ((initial provider policy).run before).fetch g = .generating (some first) x)
    (hnext : ((initial provider policy).run before).fetch f = .absent) {now : Time.Instant}
    (hfresh : ((initial provider policy).run before).auth.cache.slot.fresh? now = some x)
    (failure : Provider.Failure) :
    .asked f x ∈ ((initial provider policy).run
      (before ++ [.answer g (.error failure), .start f])).marks (.seek f (.look now)) := by
  have hcourse := course_run provider policy before f
  rw [hnext] at hcourse
  obtain ⟨-, hcalls⟩ := hcourse
  rw [run_append, run_cons, run_cons, run_nil]
  generalize (initial provider policy).run before = s at hretry hnext hfresh hcalls ⊢
  have hsame := auth_answer_of_retry hretry (.error failure)
  have hother : (s.step (.answer g (.error failure))).fetch f = .absent := by
    rw [(move_step s _).fetch_eq_of_ne, hnext]
    rintro heq
    obtain rfl : g = f := Option.some.inj heq
    simp [hretry] at hnext
  generalize s.step (.answer g (.error failure)) = u at hsame hother ⊢
  have hlooks : (u.step (.start f)).auth.call (callOf f none) = .looking := by
    simp [step, start, hother, seek, Auth.Calls.start, hsame, hcalls]
  have hcache : (u.step (.start f)).auth.cache = s.auth.cache := by
    simp [step, start, hother, seek, Auth.Calls.start, hsame, hcalls]
  have hseeks : (u.step (.start f)).fetch f = .seeking none := by
    simp [step, start, hother, seek]
  simp [marks, stepSeek, hseeks, Auth.Calls.stepCall, Auth.Calls.look, hlooks, hcache, hfresh]

def retried : List Event :=
  [.start 0, .seek 0 (.look (Auth.moment 0)), .seek 0 (.acquire (Auth.moment 0)),
    .seek 0 (.settle (.ok (.ofToken "old")) (Auth.moment 1) 0), .answer 0 rejection,
    .seek 0 (.look (Auth.moment 2)), .seek 0 (.acquire (Auth.moment 2)),
    .seek 0 (.settle (.ok (.ofToken "new")) (Auth.moment 3) 0)]

/-- The other context is rejected too, and another fetch begins. -/
def rejectedTwice : List Event :=
  retried ++ [.answer 0 rejection, .start 1]

def oldSnapshot : Auth.Snapshot :=
  ⟨1, ⟨0, .ofToken "old"⟩⟩

def newSnapshot : Auth.Snapshot :=
  ⟨2, ⟨1, .ofToken "new"⟩⟩

def nextLook : Event :=
  .seek 1 (.look (Auth.moment 4))

theorem log_rejectedTwice : (initial "tiles" .reactive).log rejectedTwice =
    [.asked 0 oldSnapshot, .answered 0 oldSnapshot rejection, .reported 0 oldSnapshot true,
      .asked 0 newSnapshot, .answered 0 newSnapshot rejection] := rfl

theorem asked_nextLook : .asked 1 newSnapshot ∈
    ((initial "tiles" .reactive).run rejectedTwice).marks nextLook := by
  have hretry : ((initial "tiles" .reactive).run retried).fetch 0 =
      .generating (some oldSnapshot) newSnapshot := rfl
  exact asked_with_rejected "tiles" .reactive retried hretry rfl rfl _

/-- The next fetch asks with a newer context than the one that was reported, but it is the one
that was rejected at the retry. -/
theorem rejected_retry_asked_again :
    let past := (initial "tiles" .reactive).log rejectedTwice
    .asked 1 newSnapshot ∈ ((initial "tiles" .reactive).run rejectedTwice).marks nextLook ∧
      oldSnapshot.generation < newSnapshot.generation ∧
      .answered 0 newSnapshot rejection ∈ past ∧
      ∃ first, asked 0 past = [first, newSnapshot] := by
  intro past
  obtain ⟨hreported, hrejected⟩ :=
    asked_after_rejection "tiles" .reactive rejectedTwice nextLook 1 newSnapshot asked_nextLook
  have hanswered : .answered 0 newSnapshot rejection ∈ past := by
    simp [past, log_rejectedTwice]
  have hlt := hreported 0 oldSnapshot true (by simp [log_rejectedTwice])
  rcases hrejected 0 newSnapshot _ hanswered rfl rfl with hsame | ⟨hretry, -⟩
  · exact (lt_irrefl _ hsame).elim
  · exact ⟨asked_nextLook, hlt, hanswered, hretry⟩

/-- It is not so that no fetch asks with a context that was rejected before, even if no context
bypasses authentication. -/
theorem rejected_context_reused :
    ¬ ∀ (provider : String) (policy : Auth.Policy) (before : List Event) (e : Event),
      (∀ x ∈ Auth.published (Auth.cycles ((initial provider policy).authLog (before ++ [e]))),
        x.isBypassed = false) →
      ∀ f snapshot, .asked f snapshot ∈ ((initial provider policy).run before).marks e →
        ∀ g x (failure : Provider.Failure),
          .answered g x (.error failure) ∈ (initial provider policy).log before →
          failure.isAuthExpired = true → x.generation ≠ snapshot.generation := by
  intro hnever
  have hpublished : Auth.published
      (Auth.cycles ((initial "tiles" .reactive).authLog (rejectedTwice ++ [nextLook]))) =
        [oldSnapshot, newSnapshot] := rfl
  have hbypass : ∀ x ∈ [oldSnapshot, newSnapshot], x.isBypassed = false := by
    simp only [List.forall_mem_cons, List.not_mem_nil, false_imp_iff, implies_true, and_true]
    exact ⟨rfl, rfl⟩
  have hanswered : .answered 0 newSnapshot (.error ⟨.authExpired, "expired", none⟩) ∈
      (initial "tiles" .reactive).log rejectedTwice := by
    simp [log_rejectedTwice, rejection]
  rw [← hpublished] at hbypass
  exact hnever "tiles" .reactive rejectedTwice nextLook hbypass 1 newSnapshot asked_nextLook 0
    newSnapshot _ hanswered rfl rfl

end Fetches

end TileFetch.Broker
