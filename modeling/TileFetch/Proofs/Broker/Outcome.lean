import TileFetch.Proofs.Auth.Demand
import TileFetch.Proofs.Broker.Retry

/-!
# What a fetch returns

What a fetch has done so far is said by its place and by its own marks, whatever the others do.
There are four ways in which it ends by itself, and its result says which one it was.
-/

namespace TileFetch.Broker

/-! ## The marks of one fetch -/

def Mark.answered? (f : Nat) : Mark → Option (Auth.Snapshot × Except Provider.Failure Image)
  | answered g snapshot result => if g = f then some (snapshot, result) else none
  | _ => none

def answers (f : Nat) (log : List Mark) :
    List (Auth.Snapshot × Except Provider.Failure Image) :=
  log.filterMap (Mark.answered? f)

@[simp] theorem answers_nil (f : Nat) : answers f [] = [] := rfl

@[simp] theorem answers_cons (f : Nat) (m : Mark) (log : List Mark) :
    answers f (m :: log) = (m.answered? f).toList ++ answers f log := by
  cases h : m.answered? f <;> simp [answers, h]

def own (f : Nat) (log : List Mark) : List Mark :=
  log.filter (·.fetch = f)

theorem mem_own {f : Nat} {log : List Mark} {m : Mark} :
    m ∈ own f log ↔ m ∈ log ∧ m.fetch = f := by
  simp [own]

theorem own_append (f : Nat) (log more : List Mark) :
    own f (log ++ more) = own f log ++ own f more :=
  List.filter_append ..

theorem own_eq_nil {f : Nat} {log : List Mark} (h : ∀ m ∈ log, m.fetch ≠ f) :
    own f log = [] := by
  simpa [own, List.filter_eq_nil_iff] using h

theorem own_eq_self {f : Nat} {log : List Mark} (h : ∀ m ∈ log, m.fetch = f) :
    own f log = log := by
  simpa [own, List.filter_eq_self] using h

theorem filterMap_own {β : Type} (f : Nat) (log : List Mark) {read : Mark → Option β}
    (h : ∀ m, m.fetch ≠ f → read m = none) :
    (own f log).filterMap read = log.filterMap read := by
  rw [own, List.filterMap_filter]
  apply List.filterMap_congr
  intro m _
  by_cases hm : m.fetch = f
  · simp [hm]
  · simp [hm, h m hm]

theorem asked_own (f : Nat) (log : List Mark) : asked f (own f log) = asked f log := by
  apply filterMap_own
  intro m hm
  cases m <;> simp_all [Mark.asked?, Mark.fetch]

theorem reports_own (f : Nat) (log : List Mark) : reports f (own f log) = reports f log := by
  apply filterMap_own
  intro m hm
  cases m <;> simp_all [Mark.reported?, Mark.fetch]

theorem answers_own (f : Nat) (log : List Mark) : answers f (own f log) = answers f log := by
  apply filterMap_own
  intro m hm
  cases m <;> simp_all [Mark.answered?, Mark.fetch]

/-! ## The course of a fetch -/

/-- After this failure of a first attempt the fetch gets another context. -/
def Retriable (first : Auth.Snapshot) (failure : Provider.Failure) : Prop :=
  failure.isAuthExpired = true ∧ first.isBypassed = false

def firstAttempt (f : Nat) (first : Auth.Snapshot) (failure : Provider.Failure)
    (accepted : Bool) : List Mark :=
  [.asked f first, .answered f first (.error failure), .reported f first accepted]

def Begun (f : Nat) (marks : List Mark) : Prop :=
  marks = [] ∨ (∃ first, marks = [.asked f first]) ∨
    ∃ first failure accepted, marks = firstAttempt f first failure accepted ∨
      ∃ second, marks = firstAttempt f first failure accepted ++ [.asked f second]

inductive Ending where
  | refused (error : Auth.Handle Provider.Failure)
  | once (first : Auth.Snapshot) (answer : Except Provider.Failure Image)
  | stranded (first : Auth.Snapshot) (failure : Provider.Failure) (accepted : Bool)
      (error : Auth.Handle Provider.Failure)
  | twice (first : Auth.Snapshot) (failure : Provider.Failure) (accepted : Bool)
      (second : Auth.Snapshot) (answer : Except Provider.Failure Image)

namespace Ending

def marks (f : Nat) : Ending → List Mark
  | refused _ => []
  | once first answer => [.asked f first, .answered f first answer]
  | stranded first failure accepted _ => firstAttempt f first failure accepted
  | twice first failure accepted second answer =>
      firstAttempt f first failure accepted ++ [.asked f second, .answered f second answer]

def result (provider : String) : Ending → Except Fault Image
  | refused error => .error (.refresh provider error)
  | once _ answer => answer.mapError (.ofFailure provider)
  | stranded _ _ _ error => .error (.refresh provider error)
  | twice _ _ _ _ answer => answer.mapError (.ofFailure provider)

def Fits (f : Nat) (auth : Auth.Calls) : Ending → Prop
  | refused error =>
      auth.call (callOf f none) = .done (.error error) ∧
        ∀ first, auth.call (callOf f (some first)) = .absent
  | once first answer =>
      (∀ failure, answer = .error failure → ¬ Retriable first failure) ∧
        auth.call (callOf f none) = .done (.ok first) ∧
        auth.call (callOf f (some first)) = .absent
  | stranded first failure _ error =>
      Retriable first failure ∧ auth.call (callOf f none) = .done (.ok first) ∧
        auth.call (callOf f (some first)) = .done (.error error)
  | twice first failure _ second _ =>
      Retriable first failure ∧ auth.call (callOf f none) = .done (.ok first) ∧
        auth.call (callOf f (some first)) = .done (.ok second)

def answered : Ending → List (Auth.Snapshot × Except Provider.Failure Image)
  | refused _ => []
  | once first answer => [(first, answer)]
  | stranded first failure _ _ => [(first, .error failure)]
  | twice first failure _ second answer => [(first, .error failure), (second, answer)]

end Ending

/-- What a fetch in some place has done, and what its calls for a context have returned. -/
def Fetch.Course (f : Nat) (provider : String) (auth : Auth.Calls) (marks : List Mark) :
    Fetch → Prop
  | .absent => marks = [] ∧ ∀ rejected, auth.call (callOf f rejected) = .absent
  | .seeking none =>
      marks = [] ∧ (∀ outcome, auth.call (callOf f none) ≠ .done outcome) ∧
        ∀ first, auth.call (callOf f (some first)) = .absent
  | .generating none first =>
      marks = [.asked f first] ∧ auth.call (callOf f none) = .done (.ok first) ∧
        auth.call (callOf f (some first)) = .absent
  | .seeking (some first) =>
      ∃ failure accepted, marks = firstAttempt f first failure accepted ∧
        Retriable first failure ∧ auth.call (callOf f none) = .done (.ok first) ∧
        ∀ outcome, auth.call (callOf f (some first)) ≠ .done outcome
  | .generating (some first) second =>
      ∃ failure accepted, marks = firstAttempt f first failure accepted ++ [.asked f second] ∧
        Retriable first failure ∧ auth.call (callOf f none) = .done (.ok first) ∧
        auth.call (callOf f (some first)) = .done (.ok second)
  | .done result =>
      ∃ ending : Ending, marks = ending.marks f ∧ result = ending.result provider ∧
        ending.Fits f auth
  | .dropped => Begun f marks

theorem Fetch.Course.frame {f : Nat} {provider : String} {auth auth' : Auth.Calls}
    {marks : List Mark} {x : Fetch} (h : x.Course f provider auth marks)
    (hcall : ∀ rejected, auth'.call (callOf f rejected) = auth.call (callOf f rejected)) :
    x.Course f provider auth' marks := by
  have hending : ∀ ending : Ending, ending.Fits f auth → ending.Fits f auth' := by
    intro ending hfits
    cases ending <;> simpa only [Ending.Fits, hcall] using hfits
  match x, h with
  | .absent, h | .seeking none, h | .generating none first, h | .seeking (some first), h
  | .generating (some first) second, h => simpa only [Course, hcall] using h
  | .done result, ⟨ending, hmarks, hresult, hfits⟩ =>
      exact ⟨ending, hmarks, hresult, hending ending hfits⟩
  | .dropped, h => exact h

theorem Fetch.Course.begun {f : Nat} {provider : String} {auth : Auth.Calls} {marks : List Mark}
    {x : Fetch} (h : x.Course f provider auth marks) (hx : ∀ result, x ≠ .done result) :
    Begun f marks := by
  match x, h with
  | .absent, h | .seeking none, h => exact .inl h.1
  | .generating none first, h => exact .inr (.inl ⟨first, h.1⟩)
  | .seeking (some first), ⟨failure, accepted, hmarks, _⟩ =>
      exact .inr (.inr ⟨first, failure, accepted, .inl hmarks⟩)
  | .generating (some first) second, ⟨failure, accepted, hmarks, _⟩ =>
      exact .inr (.inr ⟨first, failure, accepted, .inr ⟨second, hmarks⟩⟩)
  | .done result, _ => exact (hx result rfl).elim
  | .dropped, h => exact h

namespace Fetches

variable {s t : Fetches} {e : Event} {authEvents : List Auth.Event} {marks : List Mark} {f : Nat}

theorem Move.provider_eq (h : s.Move e authEvents marks t) : t.provider = s.provider := by
  cases h <;> rfl

theorem provider_run (s : Fetches) (events : List Event) :
    (s.run events).provider = s.provider := by
  induction events using List.reverseRecOn with
  | nil => rfl
  | append_singleton events e ih =>
      rw [run_concat]
      exact (move_step _ e).provider_eq.trans ih

theorem Move.call_of_done (h : s.Move e authEvents marks t) {c : Nat} {outcome : Auth.Outcome}
    (hdone : s.auth.call c = .done outcome) : t.auth.call c = .done outcome := by
  rw [h.auth_eq, Auth.Calls.call_run_of_over s.auth authEvents (.inr ⟨outcome, hdone⟩), hdone]

theorem call_second_stepCall (auth : Auth.Calls) (f : Nat) (step : Auth.CallStep)
    (first : Auth.Snapshot) :
    (auth.stepCall (callOf f none) step).call (callOf f (some first)) =
      auth.call (callOf f (some first)) :=
  call_second auth (e := .step (callOf f none) step) rfl first

theorem course_fail {past : List Mark} {rejected : Option Auth.Snapshot}
    (h : (Fetch.seeking rejected).Course f s.provider s.auth past)
    (hmove : s.Move e authEvents marks t) {step : Auth.CallStep}
    (ht : t.auth = s.auth.stepCall (callOf f rejected) step)
    {error : Auth.Handle Provider.Failure}
    (hcall : t.auth.call (callOf f rejected) = .done (.error error)) :
    (Fetch.done (.error (.refresh s.provider error))).Course f s.provider t.auth past := by
  cases rejected with
  | none =>
      obtain ⟨hmarks, -, habsent⟩ := h
      refine ⟨.refused error, hmarks, rfl, hcall, ?_⟩
      intro first
      rw [ht, call_second_stepCall]
      exact habsent first
  | some first =>
      obtain ⟨failure, accepted, hmarks, hretriable, hfirst, -⟩ := h
      exact ⟨.stranded first failure accepted error, hmarks, rfl, hretriable,
        hmove.call_of_done hfirst, hcall⟩

theorem course_ask {past : List Mark} {rejected : Option Auth.Snapshot}
    (h : (Fetch.seeking rejected).Course f s.provider s.auth past)
    (hmove : s.Move e authEvents marks t) {step : Auth.CallStep}
    (ht : t.auth = s.auth.stepCall (callOf f rejected) step) {snapshot : Auth.Snapshot}
    (hcall : t.auth.call (callOf f rejected) = .done (.ok snapshot)) :
    (Fetch.generating rejected snapshot).Course f s.provider t.auth
      (past ++ [.asked f snapshot]) := by
  cases rejected with
  | none =>
      obtain ⟨hmarks, -, habsent⟩ := h
      refine ⟨by simp [hmarks], hcall, ?_⟩
      rw [ht, call_second_stepCall]
      exact habsent snapshot
  | some first =>
      obtain ⟨failure, accepted, hmarks, hretriable, hfirst, -⟩ := h
      exact ⟨failure, accepted, by simp [hmarks], hretriable, hmove.call_of_done hfirst, hcall⟩

theorem course_finish {past : List Mark} {rejected : Option Auth.Snapshot}
    {snapshot : Auth.Snapshot}
    (h : (Fetch.generating rejected snapshot).Course f s.provider s.auth past)
    {answer : Except Provider.Failure Image}
    (hlast : ∀ failure, answer = .error failure →
      (failure.isAuthExpired && !snapshot.isBypassed && rejected.isNone) = false) :
    (Fetch.done (answer.mapError (.ofFailure s.provider))).Course f s.provider s.auth
      (past ++ [.answered f snapshot answer]) := by
  cases rejected with
  | none =>
      obtain ⟨hmarks, hfirst, habsent⟩ := h
      refine ⟨.once snapshot answer, by simp [hmarks, Ending.marks], rfl, ?_, hfirst, habsent⟩
      rintro failure hfailure ⟨hexpired, hbypass⟩
      simpa [hexpired, hbypass] using hlast failure hfailure
  | some first =>
      obtain ⟨failure, accepted, hmarks, hretriable, hfirst, hsecond⟩ := h
      exact ⟨.twice first failure accepted snapshot answer, by simp [hmarks, Ending.marks], rfl,
        hretriable, hfirst, hsecond⟩

theorem course_own {past : List Mark} (h : (s.fetch f).Course f s.provider s.auth past)
    (hmove : s.Move e authEvents marks t) (hf : e.fetch? = some f) :
    (t.fetch f).Course f s.provider t.auth (past ++ marks) := by
  cases hmove with
  | idle => simpa using h
  | invalidate => simp [Event.fetch?] at hf
  | start g hfetch =>
      obtain rfl := Option.some.inj hf
      obtain ⟨hmarks, habsent⟩ : Fetch.absent.Course g s.provider s.auth past := hfetch ▸ h
      simp only [seek, fetch_place_self, List.append_nil]
      refine ⟨hmarks, ?_, ?_⟩
      · simp [Auth.Calls.start, habsent none]
      · intro first
        exact (call_second s.auth (e := .start (callOf g none)) rfl first).trans
          (habsent (some first))
  | wait g step rejected hfetch hcall =>
      obtain rfl := Option.some.inj hf
      have hsame : (s.told g rejected step).fetch g = .seeking rejected := hfetch
      rw [hsame, List.append_nil]
      rw [hfetch] at h
      cases rejected with
      | none =>
          obtain ⟨hmarks, -, habsent⟩ := h
          refine ⟨hmarks, hcall, ?_⟩
          intro first
          exact (call_second_stepCall s.auth g step first).trans (habsent first)
      | some first =>
          obtain ⟨failure, accepted, hmarks, hretriable, hfirst, -⟩ := h
          have hstays := (Move.wait g step (some first) hfetch hcall).call_of_done hfirst
          exact ⟨failure, accepted, hmarks, hretriable, hstays, hcall⟩
  | ask g step rejected snapshot hfetch hcall =>
      obtain rfl := Option.some.inj hf
      rw [fetch_place_self]
      exact course_ask (hfetch ▸ h) (.ask g step rejected snapshot hfetch hcall) rfl hcall
  | fail g step rejected error hfetch hcall =>
      obtain rfl := Option.some.inj hf
      rw [List.append_nil]
      simp only [Fetches.finish, fetch_place_self]
      exact course_fail (hfetch ▸ h) (.fail g step rejected error hfetch hcall) rfl hcall
  | finish g rejected snapshot answer hfetch hlast =>
      obtain rfl := Option.some.inj hf
      simp only [Fetches.finish, fetch_place_self]
      exact course_finish (hfetch ▸ h) hlast
  | retry g snapshot failure hfetch hexpired hbypass =>
      obtain rfl := Option.some.inj hf
      obtain ⟨hmarks, hfirst, habsent⟩ :
        (Fetch.generating none snapshot).Course g s.provider s.auth past := hfetch ▸ h
      have hstays := (Move.retry g snapshot failure hfetch hexpired hbypass).call_of_done hfirst
      simp only [seek, fetch_place_self]
      refine ⟨failure, s.auth.cache.accepts snapshot, by simp [hmarks, firstAttempt],
        ⟨hexpired, hbypass⟩, hstays, ?_⟩
      simp [invalidate, Auth.Calls.start, habsent]
  | leave g rejected hfetch | giveUp g rejected snapshot hfetch =>
      obtain rfl := Option.some.inj hf
      rw [fetch_place_self, List.append_nil]
      exact h.begun (by simp [hfetch])

theorem course_run (provider : String) (policy : Auth.Policy) (events : List Event) (f : Nat) :
    (((initial provider policy).run events).fetch f).Course f provider
      ((initial provider policy).run events).auth
      (own f ((initial provider policy).log events)) := by
  induction events using List.reverseRecOn with
  | nil => exact ⟨rfl, fun _ ↦ rfl⟩
  | append_singleton events e ih =>
      have hname : ((initial provider policy).run events).provider = provider :=
        provider_run _ events
      rw [run_concat, log_concat, own_append]
      -- Only the own marks and the own calls count; the steps of others add to neither.
      generalize (initial provider policy).run events = s at ih hname ⊢
      generalize own f ((initial provider policy).log events) = past at ih ⊢
      subst hname
      have hmove := move_step s e
      by_cases hf : e.fetch? = some f
      · have hown : own f (s.marks e) = s.marks e := by
          apply own_eq_self
          intro m hm
          exact Option.some.inj ((hmove.fetch_mark m hm).trans hf)
        rw [hown]
        exact course_own ih hmove hf
      · have hother : own f (s.marks e) = [] := by
          apply own_eq_nil
          rintro m hm rfl
          exact hf (hmove.fetch_mark m hm).symm
        rw [hother, List.append_nil, hmove.fetch_eq_of_ne hf]
        exact ih.frame (hmove.call_auth_eq_of_ne hf)

end Fetches

/-! ## What an ending says -/

section LastAnswer

variable {provider : String} {failure own : Provider.Failure}
  {answer : Except Provider.Failure Image}

theorem ofFailure_eq_expired_iff : Fault.ofFailure provider own = .expired provider failure ↔
    failure.isAuthExpired = true ∧ own = failure := by
  cases hkind : own.isAuthExpired with
  | true =>
      simp only [Fault.ofFailure, hkind, if_true, Fault.expired.injEq, true_and]
      exact ⟨fun h ↦ ⟨h ▸ hkind, h⟩, And.right⟩
  | false =>
      simp only [Fault.ofFailure, hkind, Bool.false_eq_true, if_false, reduceCtorEq, false_iff]
      rintro ⟨hexpired, rfl⟩
      simp [hkind] at hexpired

theorem ofFailure_eq_fetch_iff : Fault.ofFailure provider own = .fetch provider failure ↔
    failure.isAuthExpired = false ∧ own = failure := by
  cases hkind : own.isAuthExpired with
  | true =>
      simp only [Fault.ofFailure, hkind, if_true, reduceCtorEq, false_iff]
      rintro ⟨hother, rfl⟩
      simp [hkind] at hother
  | false =>
      simp only [Fault.ofFailure, hkind, Bool.false_eq_true, if_false, Fault.fetch.injEq, true_and]
      exact ⟨fun h ↦ ⟨h ▸ hkind, h⟩, And.right⟩

theorem mapError_eq_ok_iff {image : Image} :
    answer.mapError (Fault.ofFailure provider) = .ok image ↔ answer = .ok image := by
  cases answer <;> simp [Except.mapError]

theorem mapError_eq_expired_iff :
    answer.mapError (Fault.ofFailure provider) = .error (.expired provider failure) ↔
      failure.isAuthExpired = true ∧ answer = .error failure := by
  cases answer <;> simp [Except.mapError, ofFailure_eq_expired_iff]

theorem mapError_eq_fetch_iff :
    answer.mapError (Fault.ofFailure provider) = .error (.fetch provider failure) ↔
      failure.isAuthExpired = false ∧ answer = .error failure := by
  cases answer <;> simp [Except.mapError, ofFailure_eq_fetch_iff]

theorem mapError_ne_refresh {error : Auth.Handle Provider.Failure} :
    answer.mapError (Fault.ofFailure provider) ≠ .error (.refresh provider error) := by
  cases answer with
  | ok image => simp [Except.mapError]
  | error own => cases hkind : own.isAuthExpired <;> simp [Except.mapError, Fault.ofFailure, hkind]

end LastAnswer

namespace Ending

variable {f : Nat} {provider : String} {auth : Auth.Calls} {x : Ending}

theorem answers_marks (f : Nat) (x : Ending) : answers f (x.marks f) = x.answered := by
  cases x <;> simp [marks, firstAttempt, answered, Mark.answered?]

theorem asked_marks (f : Nat) (x : Ending) :
    asked f (x.marks f) = (answers f (x.marks f)).map Prod.fst := by
  rw [answers_marks]
  cases x <;> simp [marks, firstAttempt, answered, Mark.asked?]

theorem length_answered_le (x : Ending) : x.answered.length ≤ 2 := by
  cases x <;> simp [answered]

theorem length_reports_le (f : Nat) (x : Ending) : (reports f (x.marks f)).length ≤ 1 := by
  cases x <;> simp [marks, firstAttempt, Mark.reported?]

/-- A fetch asks a second time, with `second`, if its first context was rejected and its second
call for a context returned `second`. -/
theorem Fits.twice_iff (h : x.Fits f auth) (first second : Auth.Snapshot) :
    x.answered.map Prod.fst = [first, second] ↔
      (∃ failure, Retriable first failure ∧ x.answered.head? = some (first, .error failure)) ∧
        auth.call (callOf f (some first)) = .done (.ok second) := by
  have hcall : ∀ snapshot, callOf f (some snapshot) = callOf f (some first) := fun _ ↦ rfl
  cases x with
  | refused error => simp [answered]
  | once only answer =>
      obtain ⟨-, -, habsent⟩ := h
      rw [hcall] at habsent
      simp [answered, habsent]
  | stranded own failure accepted error =>
      obtain ⟨-, -, hfailed⟩ := h
      rw [hcall] at hfailed
      simp [answered, hfailed]
  | twice own failure accepted other answer =>
      obtain ⟨hretriable, -, hsecond⟩ := h
      rw [hcall] at hsecond
      simp only [answered, List.map_cons, List.map_nil, List.head?_cons, hsecond]
      constructor
      · rintro h
        obtain ⟨rfl, rfl⟩ : own = first ∧ other = second := by simpa using h
        exact ⟨⟨failure, hretriable, rfl⟩, rfl⟩
      · rintro ⟨⟨failure', -, hhead⟩, hsame⟩
        simp_all

theorem result_eq_ok_iff (x : Ending) (image : Image) :
    x.result provider = .ok image ↔ ∃ last, x.answered.getLast? = some (last, .ok image) := by
  cases x <;> simp [result, answered, mapError_eq_ok_iff]

/-- If a call for a context fails, then its failure is the result, whatever its kind is. -/
theorem Fits.result_eq_refresh_iff (h : x.Fits f auth) (error : Auth.Handle Provider.Failure) :
    x.result provider = .error (.refresh provider error) ↔
      ∃ rejected, auth.call (callOf f rejected) = .done (.error error) := by
  have hcall : ∀ first snapshot, callOf f (some snapshot) = callOf f (some first) :=
    fun _ _ ↦ rfl
  rw [Option.exists]
  cases x with
  | refused own =>
      obtain ⟨hrefused, habsent⟩ := h
      simp [result, hrefused, habsent]
  | once first answer =>
      obtain ⟨-, hfirst, habsent⟩ := h
      simp [result, mapError_ne_refresh, hfirst, hcall first, habsent]
  | stranded first failure accepted own =>
      obtain ⟨-, hfirst, hfailed⟩ := h
      have : Nonempty Auth.Snapshot := ⟨first⟩
      simp [result, hfirst, hcall first, hfailed]
  | twice first failure accepted second answer =>
      obtain ⟨-, hfirst, hsecond⟩ := h
      simp [result, mapError_ne_refresh, hfirst, hcall first, hsecond]

theorem Fits.result_eq_expired_iff (h : x.Fits f auth) (failure : Provider.Failure) :
    x.result provider = .error (.expired provider failure) ↔
      failure.isAuthExpired = true ∧ ∃ last, x.answered.getLast? = some (last, .error failure) ∧
        (last.isBypassed = true ∨ x.answered.length = 2) := by
  cases x with
  | refused error => simp [result, answered]
  | once only answer =>
      obtain ⟨hfinal, -⟩ := h
      simp only [result, mapError_eq_expired_iff, answered, List.getLast?_singleton]
      constructor
      · rintro ⟨hexpired, rfl⟩
        have hbypassed : only.isBypassed = true := by
          by_contra hbypass
          exact hfinal failure rfl ⟨hexpired, Bool.eq_false_iff.mpr hbypass⟩
        exact ⟨hexpired, only, rfl, .inl hbypassed⟩
      · rintro ⟨hexpired, last, hlast, -⟩
        simp_all
  | stranded own other accepted error =>
      -- The failed call for a context is what counts.
      obtain ⟨hretriable, -⟩ := h
      simp [result, answered, hretriable.2]
  | twice own failure accepted other answer => simp [result, answered, mapError_eq_expired_iff]

theorem Fits.result_eq_fetch_iff (h : x.Fits f auth) (failure : Provider.Failure) :
    x.result provider = .error (.fetch provider failure) ↔
      failure.isAuthExpired = false ∧
        ∃ last, x.answered.getLast? = some (last, .error failure) := by
  cases x with
  | stranded own other accepted error =>
      obtain ⟨⟨hexpired, -⟩, -⟩ := h
      simp [result, answered]
      rintro hother rfl
      simp [hexpired] at hother
  | _ => simp [result, answered, mapError_eq_fetch_iff]

theorem result_cases (x : Ending) :
    (∃ image, x.result provider = .ok image) ∨
      (∃ error, x.result provider = .error (.refresh provider error)) ∨
      (∃ failure, x.result provider = .error (.expired provider failure)) ∨
      ∃ failure, x.result provider = .error (.fetch provider failure) := by
  cases x with
  | refused error | stranded _ _ _ error => exact .inr (.inl ⟨error, rfl⟩)
  | once _ answer | twice _ _ _ _ answer =>
      cases answer with
      | ok image => exact .inl ⟨image, rfl⟩
      | error failure =>
          cases hkind : failure.isAuthExpired <;>
            simp [result, Except.mapError, Fault.ofFailure, hkind]

end Ending

namespace Fetches

def refreshesOf (f : Nat) (authLog : List Auth.Mark) : List Nat :=
  (Auth.invocations authLog).filter fun c ↦ c / 2 = f

/-- A fetch refreshes at most twice, since no call refreshes twice. -/
theorem length_refreshesOf_le (provider : String) (policy : Auth.Policy) (events : List Event)
    (f : Nat) : (refreshesOf f ((initial provider policy).authLog events)).length ≤ 2 := by
  have hnodup : (Auth.invocations ((initial provider policy).authLog events)).Nodup :=
    Auth.Calls.invocations_nodup policy _
  have hcalls : ∀ c ∈ refreshesOf f ((initial provider policy).authLog events),
      c ∈ [2 * f, 2 * f + 1] := by
    intro c hc
    obtain ⟨-, hof⟩ := List.mem_filter.mp hc
    simp only [decide_eq_true_eq] at hof
    simp only [List.mem_cons, List.not_mem_nil, or_false]
    omega
  exact (List.subperm_of_subset (hnodup.filter _) hcalls).length_le

/-- How a fetch that is done has ended. -/
theorem exists_ending (provider : String) (policy : Auth.Policy) (events : List Event) {f : Nat}
    {result : Except Fault Image}
    (hdone : ((initial provider policy).run events).fetch f = .done result) :
    ∃ x : Ending, own f ((initial provider policy).log events) = x.marks f ∧
      result = x.result provider ∧ x.Fits f ((initial provider policy).run events).auth := by
  have hcourse := course_run provider policy events f
  rwa [hdone] at hcourse

/-- The outcome of a fetch.  It asks for its tile at most twice, refreshes at most twice and
reports at most one context.  It asks a second time if its first context was rejected, was not
final, and another one could be had.  It returns an image if that was the last answer; if one of
its calls for a context failed, the failure of the cycle, of whatever kind; and else the failure
of the last answer, as expired if the context was rejected. -/
theorem outcome_of_fetch (provider : String) (policy : Auth.Policy) (events : List Event)
    (f : Nat) (result : Except Fault Image)
    (hdone : ((initial provider policy).run events).fetch f = .done result) :
    let auth := ((initial provider policy).run events).auth
    let log := (initial provider policy).log events
    let authLog := (initial provider policy).authLog events
    ((asked f log).length ≤ 2 ∧ (refreshesOf f authLog).length ≤ 2 ∧
      (reports f log).length ≤ 1) ∧
    asked f log = (answers f log).map Prod.fst ∧
    (∀ first second, asked f log = [first, second] ↔
      (∃ failure : Provider.Failure,
        (failure.isAuthExpired = true ∧ first.isBypassed = false) ∧
          (answers f log).head? = some (first, .error failure)) ∧
        auth.call (callOf f (some first)) = .done (.ok second)) ∧
    (∀ image, result = .ok image ↔ ∃ last, (answers f log).getLast? = some (last, .ok image)) ∧
    (∀ error, result = .error (.refresh provider error) ↔
      ∃ rejected, auth.call (callOf f rejected) = .done (.error error)) ∧
    (∀ error, result = .error (.refresh provider error) → .error error ∈ Auth.cycles authLog) ∧
    (∀ failure, result = .error (.expired provider failure) ↔
      failure.isAuthExpired = true ∧
        ∃ last, (answers f log).getLast? = some (last, .error failure) ∧
          (last.isBypassed = true ∨ (answers f log).length = 2)) ∧
    (∀ failure, result = .error (.fetch provider failure) ↔
      failure.isAuthExpired = false ∧
        ∃ last, (answers f log).getLast? = some (last, .error failure)) ∧
    ((∃ image, result = .ok image) ∨ (∃ error, result = .error (.refresh provider error)) ∨
      (∃ failure, result = .error (.expired provider failure)) ∨
      ∃ failure, result = .error (.fetch provider failure)) := by
  intro auth log authLog
  obtain ⟨x, hown, rfl, hfits⟩ := exists_ending provider policy events hdone
  have hanswers : answers f log = x.answered := by
    rw [← answers_own, hown, x.answers_marks]
  have hasked : asked f log = x.answered.map Prod.fst := by
    rw [← asked_own, hown, x.asked_marks, x.answers_marks]
  have hreports : (reports f log).length ≤ 1 := by
    rw [← reports_own, hown]
    exact x.length_reports_le f
  rw [hasked, hanswers]
  refine ⟨⟨?_, length_refreshesOf_le provider policy events f, hreports⟩, rfl, hfits.twice_iff,
    x.result_eq_ok_iff, hfits.result_eq_refresh_iff, ?_, hfits.result_eq_expired_iff,
    hfits.result_eq_fetch_iff, x.result_cases⟩
  · rw [List.length_map]
    exact x.length_answered_le
  · intro error hrefresh
    obtain ⟨rejected, hcall⟩ := (hfits.result_eq_refresh_iff error).mp hrefresh
    rw [auth_run] at hcall
    exact Auth.mem_cycles.mpr (Auth.Calls.exists_ended_of_done policy _ hcall)

/-- A fetch whose context expires, and whose refresh is rejected as expired too. -/
def expiredRefresh : List Event :=
  [.start 0, .seek 0 (.look (Auth.moment 0)), .seek 0 (.acquire (Auth.moment 0)),
    .seek 0 (.settle (.ok (.ofToken "key")) (Auth.moment 1) 0),
    .answer 0 (.error ⟨.authExpired, "expired", none⟩),
    .seek 0 (.look (Auth.moment 2)), .seek 0 (.acquire (Auth.moment 2)),
    .seek 0 (.settle (.error ⟨.authExpired, "denied", none⟩) (Auth.moment 3) 0)]

/-- It returns the failure of the refresh and does not ask again. -/
theorem expired_refresh_final :
    let s := (initial "tiles" .reactive).run expiredRefresh
    let error : Auth.Handle Provider.Failure := ⟨1, ⟨.authExpired, "denied", none⟩⟩
    s.fetch 0 = .done (.error (.refresh "tiles" error)) ∧
      asked 0 ((initial "tiles" .reactive).log expiredRefresh) = [⟨1, ⟨0, .ofToken "key"⟩⟩] ∧
      ∃ rejected, s.auth.call (callOf 0 rejected) = .done (.error error) := by
  intro s error
  have hdone : s.fetch 0 = .done (.error (.refresh "tiles" error)) := rfl
  obtain ⟨-, -, -, -, hrefresh, -⟩ :=
    outcome_of_fetch "tiles" .reactive expiredRefresh 0 _ hdone
  exact ⟨hdone, rfl, (hrefresh error).mp rfl⟩

end Fetches

end TileFetch.Broker
