import TileFetch.Simulation.World

/-!
# Running calls on a cache

Calls for a context run as tasks, each with the outcome that its refresh will have if it
comes to that.
-/

namespace TileFetch.Simulation

open Time (Instant)

structure View where
  state : Auth.State
  tally : Auth.Tally
  peek : Option Auth.Snapshot
  now : Instant

def View.of (cache : Auth.Cache) (now : Instant) : View :=
  ⟨cache.state now, cache.tally, cache.peek, now⟩

structure CallPlan where
  /-- The outcome of its refresh at the time when that ends. -/
  refresh : Instant → Except Provider.Failure Auth.Context
  delay : Nat
  thenInvalidate : Bool

structure CallResult where
  outcome : Auth.Outcome
  /-- The context that its refresh began with, if it refreshed. -/
  refreshedFrom : Option Auth.Context
  invalidated : Bool

abbrev CacheWorld : Type :=
  World Auth.Calls Unit

inductive CallTask where
  | call (plan : CallPlan) (refreshing : Option (Nat × Auth.Context)) (isBegun : Bool)
  | probe

inductive CallTaskResult where
  | call (result : CallResult)
  | probe (view : View)

def callSeeking : Seeking Auth.Calls where
  position s c := .ofCall (s.call c)
  isFree s := s.holder.isNone
  step s c e := s.stepCall c e

namespace CacheWorld

def initial (policy : Auth.Policy) (wall : Instant) : CacheWorld where
  machine := .initial policy
  provider := ()
  wall

def view (w : CacheWorld) : View × CacheWorld :=
  let (now, w) := w.now
  (.of w.machine.cache now, w)

def conclude (w : CacheWorld) (c : Nat) (plan : CallPlan) (from? : Option Auth.Context) :
    CacheWorld × Poll CallTask CallTaskResult :=
  match w.machine.call c with
  | .done outcome =>
      match outcome with
      | .ok snapshot =>
          let accepted := plan.thenInvalidate && w.machine.cache.accepts snapshot
          let w :=
            if plan.thenInvalidate then
              { w with machine := w.machine.step (.invalidate snapshot) }
            else w
          (w, .ready (.call ⟨outcome, from?, accepted⟩))
      | .error _ => (w, .ready (.call ⟨outcome, from?, false⟩))
  | _ => (w, .pending (.call plan none true) [])

/-- The refresh of a call goes on, and ends at the moment `due`. -/
def refresh (w : CacheWorld) (c clock : Nat) (plan : CallPlan) (due : Nat)
    (previous : Auth.Context) : CacheWorld × Poll CallTask CallTaskResult :=
  if due ≤ clock then
    let (now, w) := w.now
    let settled := w.machine.step (.step c (.settle (plan.refresh now) now 0))
    conclude ({ w with machine := settled }.notify) c plan (some previous)
  else (w, .pending (.call plan (some (due, previous)) true) [⟨due - plan.delay, due⟩])

def poll (c task clock : Nat) (w : CacheWorld) : CallTask →
    CacheWorld × Poll CallTask CallTaskResult
  | .probe =>
      let (view, w) := view w
      (w, .ready (.probe view))
  | .call plan (some (due, previous)) _ => refresh w c clock plan due previous
  | .call plan none isBegun =>
      let w := if isBegun then w else { w with machine := w.machine.step (.start c) }
      let w := callSeeking.advance c task stepLimit w
      match w.machine.call c with
      | .leading _ previous => refresh w c clock plan (clock + plan.delay) previous
      | _ => conclude w c plan none

def dropTask (c task : Nat) (w : CacheWorld) : CacheWorld :=
  let wasLeading := w.machine.holder = some c
  let w := { w with machine := w.machine.step (.drop c), row := w.row.abandon task }
  if wasLeading then w.notify else w

def program (first : Nat) : Program CacheWorld CallTask CallTaskResult where
  poll task clock w state := poll (first + task) task clock w state
  drop task w _ := dropTask (first + task) task w
  takeWoken := World.takeWoken

end CacheWorld

end TileFetch.Simulation
