import TileFetch.Simulation.CacheRun

/-!
# Sessions on a cache

A session is a list of commands to one cache.  It remembers the snapshots that calls have
obtained, so that later commands can report them as rejected.
-/

namespace TileFetch.Simulation

structure CacheSession where
  world : CacheWorld
  next : Nat := 0
  /-- The snapshots so far, in the order of the calls that obtained them. -/
  snapshots : List Auth.Snapshot := []

inductive CacheCommand where
  | call (plan : CallPlan)
  | invalidate (index : Nat)
  | sleep (millis : Nat)
  | group (calls : List (Schedule × CallPlan)) (probes : List Nat)

structure CallEnd where
  moment : Nat
  /-- What it came to, unless it was dropped. -/
  result : Option CallResult
  /-- The number of snapshots before it. -/
  index : Nat

inductive CacheAnswer where
  | call (result : CallEnd)
  | verdict (accepted : Option Bool)
  | slept
  | group (ends : List CallEnd) (views : List View)

namespace CacheSession

def initial (policy : Auth.Policy) (wall : Time.Instant) : CacheSession where
  world := .initial policy wall

def obtained : Option CallTaskResult → List Auth.Snapshot
  | some (.call ⟨.ok snapshot, _, _⟩) => [snapshot]
  | _ => []

/-- The ends of calls; each remembers how many snapshots there were before it. -/
def callEnds : List Auth.Snapshot → List (Nat × Option CallTaskResult) →
    List CallEnd × List Auth.Snapshot
  | snapshots, [] => ([], snapshots)
  | snapshots, (moment, result) :: rest =>
      let callResult :=
        match result with
        | some (.call r) => some r
        | _ => none
      let (ends, all) := callEnds (snapshots ++ obtained result) rest
      (⟨moment, callResult, snapshots.length⟩ :: ends, all)

def views (results : List (Nat × Option CallTaskResult)) : List View :=
  results.filterMap fun r ↦
    match r.2 with
    | some (.probe v) => some v
    | _ => none

/-- Runs calls and looks from outside.  A look comes before the calls that go on at the
same moment. -/
def runGroup (s : CacheSession) (calls : List (Schedule × CallPlan)) (probes : List Nat) :
    CacheSession × List CallEnd × List View :=
  let tasks :=
    probes.map (fun moment ↦ Task.resting { startAt := moment } CallTask.probe) ++
      calls.map fun c ↦ Task.resting c.1 (.call c.2 none false)
  let (world, results) := (CacheWorld.program s.next).runAll s.world tasks
  let (ends, snapshots) := callEnds s.snapshots (results.drop probes.length)
  ({ world, next := s.next + tasks.length, snapshots }, ends,
    views (results.take probes.length))

def perform (s : CacheSession) : CacheCommand → CacheSession × CacheAnswer
  | .call plan =>
      let (s', ends, _) := s.runGroup [({}, plan)] []
      (s', .call (ends.headD ⟨0, none, s.snapshots.length⟩))
  | .invalidate index =>
      match s.snapshots[index]? with
      | none => (s, .verdict none)
      | some snapshot =>
          let machine := s.world.machine.step (.invalidate snapshot)
          ({ s with world := { s.world with machine } },
            .verdict (some (s.world.machine.cache.accepts snapshot)))
  | .sleep millis => ({ s with world := s.world.sleep millis }, .slept)
  | .group calls probes =>
      let (s, ends, views) := s.runGroup calls probes
      (s, .group ends views)

def look (s : CacheSession) : View × CacheSession :=
  let (view, world) := s.world.view
  (view, { s with world })

end CacheSession

end TileFetch.Simulation
