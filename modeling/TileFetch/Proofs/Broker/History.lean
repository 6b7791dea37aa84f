import TileFetch.Proofs.Auth.Reachable
import TileFetch.Broker.Fetches

/-!
# The history of a broker

A step of a broker leaves marks: a fetch asks the provider for its tile, the provider
answers, a rejected context is reported.  A step also takes some steps of the cache, those
of `authEvents`.  So the cache of a broker after a run is a cache after a run of its own, and
what is proved about caches holds for brokers.
-/

namespace TileFetch.Broker

inductive Mark where
  | asked (fetch : Nat) (snapshot : Auth.Snapshot)
  | answered (fetch : Nat) (snapshot : Auth.Snapshot) (result : Except Provider.Failure Image)
  | reported (fetch : Nat) (snapshot : Auth.Snapshot) (accepted : Bool)

namespace Mark

def fetch : Mark → Nat
  | asked f _ => f
  | answered f _ _ => f
  | reported f _ _ => f

def asked? (f : Nat) : Mark → Option Auth.Snapshot
  | asked g snapshot => if g = f then some snapshot else none
  | _ => none

def accepted? : Mark → Option Nat
  | reported _ snapshot true => some snapshot.generation
  | _ => none

/-- What the fetch `f` reports, and whether the report is accepted. -/
def reported? (f : Nat) : Mark → Option (Auth.Snapshot × Bool)
  | reported g snapshot accepted => if g = f then some (snapshot, accepted) else none
  | _ => none

end Mark

/-! ## Reading a log -/

def asked (f : Nat) (log : List Mark) : List Auth.Snapshot :=
  log.filterMap (Mark.asked? f)

def reports (f : Nat) (log : List Mark) : List (Auth.Snapshot × Bool) :=
  log.filterMap (Mark.reported? f)

def acceptedReports (log : List Mark) : List Nat :=
  log.filterMap Mark.accepted?

@[simp] theorem acceptedReports_append (log more : List Mark) :
    acceptedReports (log ++ more) = acceptedReports log ++ acceptedReports more :=
  List.filterMap_append

@[simp] theorem asked_nil (f : Nat) : asked f [] = [] := rfl

@[simp] theorem asked_cons (f : Nat) (m : Mark) (log : List Mark) :
    asked f (m :: log) = (m.asked? f).toList ++ asked f log := by
  cases h : m.asked? f <;> simp [asked, h]

@[simp] theorem asked_append (f : Nat) (log more : List Mark) :
    asked f (log ++ more) = asked f log ++ asked f more :=
  List.filterMap_append

@[simp] theorem reports_nil (f : Nat) : reports f [] = [] := rfl

@[simp] theorem reports_cons (f : Nat) (m : Mark) (log : List Mark) :
    reports f (m :: log) = (m.reported? f).toList ++ reports f log := by
  cases h : m.reported? f <;> simp [reports, h]

@[simp] theorem reports_append (f : Nat) (log more : List Mark) :
    reports f (log ++ more) = reports f log ++ reports f more :=
  List.filterMap_append

theorem mem_reports {f : Nat} {log : List Mark} {x : Auth.Snapshot} {accepted : Bool} :
    (x, accepted) ∈ reports f log ↔ .reported f x accepted ∈ log := by
  simp only [reports, List.mem_filterMap]
  constructor
  · rintro ⟨m, hm, hreported⟩
    cases m <;> simp [Mark.reported?] at hreported
    obtain ⟨rfl, rfl, rfl⟩ := hreported
    exact hm
  · intro hm
    exact ⟨_, hm, by simp [Mark.reported?]⟩

theorem asked_eq_nil {f : Nat} {log : List Mark} (h : ∀ m ∈ log, m.fetch ≠ f) :
    asked f log = [] := by
  simp only [asked, List.filterMap_eq_nil_iff]
  intro m hm
  have hne := h m hm
  cases m <;> simp_all [Mark.asked?, Mark.fetch]

theorem reports_eq_nil {f : Nat} {log : List Mark} (h : ∀ m ∈ log, m.fetch ≠ f) :
    reports f log = [] := by
  simp only [reports, List.filterMap_eq_nil_iff]
  intro m hm
  have hne := h m hm
  cases m <;> simp_all [Mark.reported?, Mark.fetch]

/-! ## The log of a run -/

def Event.fetch? : Event → Option Nat
  | .start f => some f
  | .seek f _ => some f
  | .answer f _ => some f
  | .drop f => some f
  | .invalidate _ => none

namespace Fetches

def marks (s : Fetches) : Event → List Mark
  | .seek f step =>
      match s.fetch f, (s.stepSeek f step).fetch f with
      | .seeking _, .generating _ snapshot => [.asked f snapshot]
      | _, _ => []
  | .answer f result =>
      match s.fetch f, (s.answer f result).fetch f with
      | .generating _ snapshot, .seeking (some rejected) =>
          [.answered f snapshot result,
            .reported f rejected (s.auth.cache.accepts rejected)]
      | .generating _ snapshot, _ => [.answered f snapshot result]
      | _, _ => []
  | _ => []

def authEvents (s : Fetches) : Event → List Auth.Event
  | .start f =>
      match s.fetch f with
      | .absent => [.start (callOf f none)]
      | _ => []
  | .seek f step =>
      match s.fetch f with
      | .seeking rejected => [.step (callOf f rejected) step]
      | _ => []
  | .answer f result =>
      match s.fetch f, (s.answer f result).fetch f with
      | .generating _ _, .seeking (some rejected) =>
          [.invalidate rejected, .start (callOf f (some rejected))]
      | _, _ => []
  | .drop f =>
      match s.fetch f with
      | .seeking rejected => [.drop (callOf f rejected)]
      | _ => []
  | .invalidate snapshot => [.invalidate snapshot]

def log (s : Fetches) : List Event → List Mark
  | [] => []
  | e :: events => s.marks e ++ (s.step e).log events

def authHistory (s : Fetches) : List Event → List Auth.Event
  | [] => []
  | e :: events => s.authEvents e ++ (s.step e).authHistory events

@[simp] theorem run_nil (s : Fetches) : s.run [] = s := rfl

@[simp] theorem run_cons (s : Fetches) (e : Event) (events : List Event) :
    s.run (e :: events) = (s.step e).run events := rfl

theorem run_append (s : Fetches) (before after : List Event) :
    s.run (before ++ after) = (s.run before).run after :=
  List.foldl_append

theorem run_concat (s : Fetches) (events : List Event) (e : Event) :
    s.run (events ++ [e]) = (s.run events).step e :=
  List.foldl_append

theorem log_append (s : Fetches) (before after : List Event) :
    s.log (before ++ after) = s.log before ++ (s.run before).log after := by
  induction before generalizing s with
  | nil => rfl
  | cons e before ih => simp [log, ih, List.append_assoc]

theorem log_concat (s : Fetches) (events : List Event) (e : Event) :
    s.log (events ++ [e]) = s.log events ++ (s.run events).marks e := by
  rw [log_append]
  simp [log]

theorem authHistory_append (s : Fetches) (before after : List Event) :
    s.authHistory (before ++ after) = s.authHistory before ++ (s.run before).authHistory after := by
  induction before generalizing s with
  | nil => rfl
  | cons e before ih => simp [authHistory, ih, List.append_assoc]

theorem authHistory_concat (s : Fetches) (events : List Event) (e : Event) :
    s.authHistory (events ++ [e]) = s.authHistory events ++ (s.run events).authEvents e := by
  rw [authHistory_append]
  simp [authHistory]

end Fetches

end TileFetch.Broker
