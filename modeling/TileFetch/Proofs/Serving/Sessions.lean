import TileFetch.Proofs.Serving.Tasks
import TileFetch.Simulation.BrokerSession

/-!
# Sessions serve fetches

The tasks of a group take turns on a virtual clock.  By induction on the turns and the jumps of the
clock, the world of a group is at each moment the world of some run of `Serving`, and so is the
world of a whole session.  What holds of every run of served fetches holds of every session.  If
nothing is under way when a group begins, its run keeps the time: nothing happens in it that the
clock does not permit, and the clock passes no alarm.
-/

namespace TileFetch.Simulation

open Time (Instant)

/-! ## Timers -/

namespace Machine

variable {σ τ ρ : Type} {m : Machine σ τ ρ}

theorem alarms_renewTimers (old : List (Alarm × Nat)) (alarms : List Alarm) (next : Nat) :
    (renewTimers old alarms next).1.map Prod.fst = alarms := by
  induction alarms generalizing next with
  | nil => rfl
  | cons alarm alarms ih =>
      unfold renewTimers
      cases hfound : old.find? (·.1 = alarm) with
      | none => simp [ih]
      | some timer =>
          have hsame : timer.1 = alarm := by simpa using List.find?_some hfound
          simp [ih, hsame]

theorem moment_mem_timers {i : Nat} {task : Task τ ρ} (htask : m.tasks[i]? = some task)
    {alarm : Alarm} (halarm : alarm ∈ task.timers.map Prod.fst) :
    alarm.moment ∈ m.timers.map (·.1) := by
  obtain ⟨⟨alarm, number⟩, htimer, rfl⟩ := List.mem_map.mp halarm
  refine List.mem_map.mpr ⟨(alarm.moment, number, i), ?_, rfl⟩
  have hplace : (task, i) ∈ m.tasks.toList.zipIdx := by
    rw [List.mem_zipIdx_iff_getElem?, Array.getElem?_toList]
    exact htask
  refine List.mem_flatten.mpr ⟨_, List.mem_map.mpr ⟨(task, i), hplace, rfl⟩, ?_⟩
  exact List.mem_map.mpr ⟨_, htimer, rfl⟩

/-- The clock jumps to the moment of the earliest timer, unless that is over. -/
theorem clock_of_jump {later : Machine σ τ ρ} (h : m.jump = some later) :
    ∃ moment, (m.timers.map (·.1)).min? = some moment ∧
      later.clock = max m.clock moment ∧ later.world = m.world ∧ later.tasks = m.tasks := by
  unfold jump at h
  cases hmoment : (m.timers.map (·.1)).min? with
  | none => simp [hmoment] at h
  | some moment =>
      simp only [hmoment] at h
      obtain rfl := Option.some.inj h
      exact ⟨moment, rfl, rfl, rfl, rfl⟩

end Machine

namespace Clocked

variable {π : Type} {setup : Setup π} {tile : Nat → TileRequest} {policy : Auth.Policy} {start : π}
  {s t : Clocked π} {f first count i : Nat} {w : BrokerWorld π}

/-! ## The turns of tasks -/

inductive ShowsState (setup : Setup π) (tile : Nat → TileRequest) (s : Clocked π) (f : Nat) :
    TaskState (FetchTask π) FetchTaskResult → Prop where
  | resting (state : FetchTask π) (h : Shows setup tile s f state)
      (hpending : s.pending f = .none) : ShowsState setup tile s f (.resting state)
  | running (state : FetchTask π) (h : Shows setup tile s f state) :
      ShowsState setup tile s f (.running state)
  | ended (moment : Nat) (result : Option FetchTaskResult)
      (h : ∀ answer, result = some (.fetch answer) → s.fetches.fetch f = .done answer)
      (hpending : s.pending f = .none) : ShowsState setup tile s f (.ended moment result)

structure ShowsTask (setup : Setup π) (tile : Nat → TileRequest) (s : Clocked π) (f : Nat)
    (task : Task (FetchTask π) FetchTaskResult) : Prop where
  state : ShowsState setup tile s f task.state
  alarms : (s.pending f).alarms setup (s.since f) ⊆ task.timers.map Prod.fst

/-- The world of `count` tasks, which show the fetches from `first` on, is that of `s`. -/
structure Hosts (setup : Setup π) (tile : Nat → TileRequest) (first count : Nat) (s : Clocked π)
    (m : Machine (BrokerWorld π) (FetchTask π) FetchTaskResult) : Prop where
  mirrors : s.Mirrors m.world
  clock_eq : s.clock = m.clock
  shows : ∀ i task, m.tasks[i]? = some task → ShowsTask setup tile s (first + i) task
  size_eq : m.tasks.size = count
  absent : ∀ f, first + count ≤ f → s.fetches.fetch f = .absent

structure Timely (setup : Setup π) (first : Nat) (s : Clocked π) : Prop where
  onTime : s.OnTime setup
  idle : ∀ f < first, s.pending f = .none

theorem stepsLeft_le (b : Broker.Fetches) (f : Nat) (state : FetchTask π) :
    stepsLeft b f state ≤ stepLimit := by
  have hremaining : remaining (b.fetch f) ≤ 8 := by
    unfold remaining
    split <;> decide
  cases state <;> simp only [stepsLeft, stepLimit] <;> omega

theorem mirrors_dropTask (h : s.Mirrors w) (f task : Nat) :
    (s.happen setup tile (.drop f)).Mirrors (Setup.dropTask f task w) := by
  unfold Setup.dropTask
  dsimp only
  split <;> exact ⟨congrArg (Broker.Fetches.step · (.drop f)) h.machine_eq, h.provider_eq⟩

variable {m : Machine (BrokerWorld π) (FetchTask π) FetchTaskResult}
  {task : Task (FetchTask π) FetchTaskResult}

theorem ShowsTask.of_eq {g : Nat} (h : ShowsTask setup tile s g task)
    (hfetch : t.fetches.fetch g = s.fetches.fetch g) (hpending : t.pending g = s.pending g)
    (hsince : t.since g = s.since g) : ShowsTask setup tile t g task := by
  obtain ⟨hstate, halarms⟩ := h
  refine ⟨?_, by rwa [hpending, hsince]⟩
  generalize task.state = state at hstate ⊢
  cases hstate with
  | resting state h hnone =>
      exact .resting state (h.of_eq hfetch hpending hsince) (hpending.trans hnone)
  | running state h => exact .running state (h.of_eq hfetch hpending hsince)
  | ended moment result h hnone =>
      exact .ended moment result (fun answer hanswer ↦ hfetch.trans (h answer hanswer))
        (hpending.trans hnone)

theorem alarms_of_idle (h : s.pending f = .none) (alarms : List Alarm) :
    (s.pending f).alarms setup (s.since f) ⊆ alarms := by
  rw [h]
  exact List.nil_subset _

theorem pollState_serves (hs : s.toServing.Reachable setup tile policy start)
    (hmirrors : s.Mirrors m.world) (hclock : s.clock = m.clock)
    (h : ShowsState setup tile s (first + i) task.state) :
    let r := Machine.pollState (setup.program first) m i task
    ∃ t, Onward setup tile (first + i) s t ∧ t.Mirrors r.1 ∧
      ShowsState setup tile t (first + i) r.2.1 ∧
      (t.pending (first + i)).alarms setup (t.since (first + i)) ⊆ r.2.2 := by
  have hrun : ∀ state, Shows setup tile s (first + i) state → TurnServes setup tile s (first + i)
      (setup.advance (first + i) i m.clock stepLimit m.world state) := by
    intro state hshows
    rw [← hclock]
    exact advance_serves policy start _ _ _ s m.world state hs (.shown state hmirrors hshows)
      (stepsLeft_le _ _ _)
  have hpolled : ∀ state, Shows setup tile s (first + i) state →
      let r := Machine.pollState (setup.program first) m i { task with state := .running state }
      ∃ t, Onward setup tile (first + i) s t ∧ t.Mirrors r.1 ∧
        ShowsState setup tile t (first + i) r.2.1 ∧
        (t.pending (first + i)).alarms setup (t.since (first + i)) ⊆ r.2.2 := by
    intro state hshows
    obtain ⟨t, hsteps, hworld, hend⟩ := hrun state hshows
    refine ⟨t, hsteps, ?_⟩
    simp only [Machine.pollState, Setup.program]
    generalize setup.advance _ _ _ _ _ _ = r at hworld hend
    obtain ⟨world, poll⟩ := r
    cases hend with
    | pending state alarms h halarms =>
        exact ⟨hworld, .running state h, List.subset_append_of_subset_left _ halarms⟩
    | fetch result h =>
        have hwanted : wanted? t.fetches (first + i) = none := by simp [wanted?, h]
        have hidle := ((hsteps.reachable hs).backed _).pending_none hwanted
        refine ⟨hworld, .ended _ _ ?_ hidle, alarms_of_idle hidle _⟩
        rintro _ ⟨⟩
        exact h
    | probe view hidle => exact ⟨hworld, .ended _ _ (by simp) hidle, alarms_of_idle hidle _⟩
  obtain ⟨startAt, cancelAt, state, timers⟩ := task
  cases h with
  | running state h => exact hpolled state h
  | ended moment result h hidle =>
      exact ⟨s, .refl, hmirrors, .ended moment result h hidle, alarms_of_idle hidle _⟩
  | resting state h hidle =>
      by_cases hbegun : startAt ≤ m.clock
      · have hrunning := hpolled state h
        simp only [Machine.pollState, hbegun, if_true] at hrunning ⊢
        exact hrunning
      · simp only [Machine.pollState, hbegun, if_false]
        exact ⟨s, .refl, hmirrors, .resting state h hidle, alarms_of_idle hidle _⟩

theorem Timely.onward (h : s.Timely setup first) (hsteps : Onward setup tile (first + i) s t) :
    t.Timely setup first := by
  obtain ⟨events, hruns⟩ := hsteps.runs
  refine ⟨h.onTime.run hruns, fun f hf ↦ ?_⟩
  rw [(hsteps.frame (by omega)).2.1]
  exact h.idle f hf

namespace Hosts

/-- Task `i` has had its turn, in which only its fetch took steps. -/
theorem update (h : Hosts setup tile first count s m) (htask : m.tasks[i]? = some task)
    (hsteps : Onward setup tile (first + i) s t) {world : BrokerWorld π} (hworld : t.Mirrors world)
    {state : TaskState (FetchTask π) FetchTaskResult}
    (hstate : ShowsState setup tile t (first + i) state) {alarms : List Alarm}
    (halarms : (t.pending (first + i)).alarms setup (t.since (first + i)) ⊆ alarms)
    (ready : List Nat) (nextTimer : Nat) :
    Hosts setup tile first count t
      { m with
        world := world.takeWoken.2
        tasks := m.tasks.setIfInBounds i
          { task with state, timers := (Machine.renewTimers task.timers alarms m.nextTimer).1 }
        ready
        nextTimer } where
  mirrors := ⟨hworld.machine_eq, hworld.provider_eq⟩
  clock_eq := hsteps.clock_eq.trans h.clock_eq
  shows j other hother := by
    by_cases hj : j = i
    · subst hj
      have hlt : j < m.tasks.size := (Array.getElem?_eq_some_iff.mp htask).1
      rw [Array.getElem?_setIfInBounds_self_of_lt hlt] at hother
      obtain rfl := Option.some.inj hother
      exact ⟨hstate, by rwa [Machine.alarms_renewTimers]⟩
    · rw [Array.getElem?_setIfInBounds_ne (Ne.symm hj)] at hother
      obtain ⟨hfetch, hpending, hsince⟩ := hsteps.frame (g := first + j) (by omega)
      exact (h.shows j other hother).of_eq hfetch hpending hsince
  size_eq := by rw [Array.size_setIfInBounds, h.size_eq]
  absent g hg := by
    have hlt : i < count := h.size_eq ▸ (Array.getElem?_eq_some_iff.mp htask).1
    rw [(hsteps.frame (by omega)).1]
    exact h.absent g hg

theorem turn (h : Hosts setup tile first count s m)
    (hs : s.toServing.Reachable setup tile policy start) (i : Nat) :
    ∃ t, Onward setup tile (first + i) s t ∧
      Hosts setup tile first count t (m.turn (setup.program first) i) := by
  unfold Machine.turn
  cases htask : m.tasks[i]? with
  | none => exact ⟨s, .refl, h⟩
  | some task =>
      obtain ⟨t, hsteps, hworld, hstate, halarms⟩ :=
        pollState_serves hs h.mirrors h.clock_eq (h.shows i task htask).state
      dsimp only
      generalize Machine.pollState (setup.program first) m i task = r at hworld hstate halarms ⊢
      obtain ⟨world, state, alarms⟩ := r
      cases hstate with
      | resting state hshows hidle =>
          exact ⟨t, hsteps,
            h.update htask hsteps hworld (.resting state hshows hidle) halarms _ _⟩
      | ended moment result hdone hidle =>
          exact ⟨t, hsteps,
            h.update htask hsteps hworld (.ended moment result hdone hidle) halarms _ _⟩
      | running state hshows =>
          by_cases hcancel : task.cancelAt.any (· ≤ m.clock)
          · let dropped := t.happen setup tile (.drop (first + i))
            have hdrop : Onward setup tile (first + i) s dropped :=
              hsteps.tail ⟨.drop (first + i), rfl, trivial, rfl⟩
            have hidle : dropped.pending (first + i) = .none := by
              simp [dropped, happen, Serving.step, Serving.await]
            simp only [hcancel, if_true]
            exact ⟨_, hdrop, h.update htask hdrop (mirrors_dropTask hworld _ i)
              (.ended m.clock none (by simp) hidle) (alarms_of_idle hidle _) _ _⟩
          · simp only [hcancel]
            exact ⟨t, hsteps,
              h.update htask hsteps hworld (.running state hshows) halarms _ _⟩

theorem jump (h : Hosts setup tile first count s m) {later : Machine _ _ _}
    (hjump : m.jump = some later) :
    Hosts setup tile first count { s with clock := later.clock } later := by
  obtain ⟨moment, -, -, hworld, htasks⟩ := Machine.clock_of_jump hjump
  refine ⟨?_, rfl, ?_, ?_, h.absent⟩
  · rw [hworld]
    exact ⟨h.mirrors.machine_eq, h.mirrors.provider_eq⟩
  · rw [htasks]
    exact fun i task htask ↦ (h.shows i task htask).of_eq rfl rfl rfl
  · rw [htasks, h.size_eq]

/-- The clock of a group passes no alarm of a call. -/
theorem passes_of_jump (h : Hosts setup tile first count s m)
    (hs : s.toServing.Reachable setup tile policy start) (htimely : s.Timely setup first)
    {later : Machine _ _ _} (hjump : m.jump = some later) : s.Passes setup later.clock := by
  obtain ⟨moment, hmoment, hclock, -⟩ := Machine.clock_of_jump hjump
  obtain ⟨-, hearliest⟩ := List.min?_eq_some_iff.mp hmoment
  refine ⟨?_, fun f alarm halarm ↦ ?_⟩
  · rw [hclock, h.clock_eq]
    exact le_max_left _ _
  · have hnow := htimely.onTime.alarms f alarm halarm
    rw [hclock, ← h.clock_eq]
    refine max_le hnow (hearliest _ ?_)
    -- Who waits for a call is one of the group, so the alarm is among the timers of its task.
    have hcalls : s.pending f ≠ .none := by
      intro hidle
      simp [hidle, Pending.alarms] at halarm
    have hfirst : first ≤ f := not_lt.mp fun hlt ↦ hcalls (htimely.idle f hlt)
    have hlast : f - first < m.tasks.size := by
      rw [h.size_eq]
      refine not_le.mp fun hle ↦ hcalls ((hs.backed f).pending_none ?_)
      simp [wanted?, h.absent f (by omega)]
    have hshows := h.shows _ _ (Array.getElem?_eq_getElem hlast)
    rw [Nat.add_sub_cancel' hfirst] at hshows
    exact Machine.moment_mem_timers (Array.getElem?_eq_getElem hlast) (hshows.alarms halarm)

/-- The group runs as served fetches do, and keeps the time. -/
theorem run (h : Hosts setup tile first count s m)
    (hs : s.toServing.Reachable setup tile policy start) (fuel : Nat) :
    ∃ t : Clocked π, t.toServing.Reachable setup tile policy start ∧
      Hosts setup tile first count t (m.run (setup.program first) fuel) ∧
      (s.Timely setup first → ∃ events, s.Runs setup tile events t) := by
  induction fuel generalizing s m with
  | zero => exact ⟨s, hs, h, fun _ ↦ ⟨[], .refl⟩⟩
  | succ fuel ih =>
      unfold Machine.run
      cases hready : m.ready with
      | cons i rest =>
          have hrest : Hosts setup tile first count s { m with ready := rest } :=
            ⟨h.mirrors, h.clock_eq, h.shows, h.size_eq, h.absent⟩
          obtain ⟨u, hsteps, hturn⟩ := hrest.turn hs i
          obtain ⟨t, ht, hhosts, hkeeps⟩ := ih hturn (hsteps.reachable hs)
          refine ⟨t, ht, hhosts, fun htimely ↦ ?_⟩
          obtain ⟨events, hruns⟩ := hsteps.runs
          obtain ⟨after, hmore⟩ := hkeeps (htimely.onward hsteps)
          exact ⟨events ++ after, hruns.append hmore⟩
      | nil =>
          cases hjump : m.jump with
          | none => exact ⟨s, hs, h, fun _ ↦ ⟨[], .refl⟩⟩
          | some later =>
              obtain ⟨t, ht, hhosts, hkeeps⟩ := ih (h.jump hjump) hs
              refine ⟨t, ht, hhosts, fun htimely ↦ ?_⟩
              have hpass : s.Runs setup tile [] { s with clock := later.clock } :=
                Runs.refl.pass _ (h.passes_of_jump hs htimely hjump)
              obtain ⟨after, hmore⟩ := hkeeps ⟨htimely.onTime.run hpass, htimely.idle⟩
              exact ⟨[] ++ after, hpass.append hmore⟩

theorem results (h : Hosts setup tile first count s m) {moment : Nat}
    {answer : Except Broker.Fault Image}
    (hresult : m.results[i]? = some (moment, some (.fetch answer))) :
    s.fetches.fetch (first + i) = .done answer := by
  simp only [Machine.results, List.getElem?_map, Array.getElem?_toList] at hresult
  obtain ⟨task, htask, hended⟩ := Option.map_eq_some_iff.mp hresult
  have hstate := (h.shows i task htask).state
  generalize task.state = state at hended hstate
  cases hstate with
  | resting | running => simp at hended
  | ended _ _ hdone =>
      obtain ⟨-, rfl⟩ := Prod.mk.inj hended
      exact hdone answer rfl

end Hosts

/-- The world that tasks leave behind is that of a run, in which their fetches end as they do.  It
keeps the time if nothing is under way at first. -/
theorem runAll_serves {s : Serving π} (hs : s.Reachable setup tile policy start)
    (hmirrors : s.Mirrors w) {tasks : List (Task (FetchTask π) FetchTaskResult)}
    (htasks : ∀ i task, tasks[i]? = some task →
      ShowsTask setup tile (ofServing s) (first + i) task)
    (habsent : ∀ f, first + tasks.length ≤ f → s.fetches.fetch f = .absent) :
    let r := (setup.program first).runAll w tasks
    ∃ t : Clocked π, t.toServing.Reachable setup tile policy start ∧ t.Mirrors r.1 ∧
      (∀ f, first + tasks.length ≤ f → t.fetches.fetch f = .absent) ∧
      (∀ i moment answer, r.2[i]? = some (moment, some (.fetch answer)) →
        t.fetches.fetch (first + i) = .done answer) ∧
      ((∀ f, s.pending f = .none) → ∃ events, (ofServing s).Runs setup tile events t) := by
  have hstart : Hosts setup tile first tasks.length (ofServing s) (Machine.start w 0 tasks) := by
    refine ⟨hmirrors, rfl, fun i task htask ↦ htasks i task ?_, by simp [Machine.start], habsent⟩
    simpa [Machine.start] using htask
  obtain ⟨t, ht, hhosts, hkeeps⟩ := hstart.run hs (turnLimit tasks.length)
  exact ⟨t, ht, hhosts.mirrors, hhosts.absent, fun i moment answer ↦ hhosts.results,
    fun hidle ↦ hkeeps ⟨onTime_ofServing hidle, fun f _ ↦ hidle f⟩⟩

end Clocked

/-! ## Commands -/

/-- What the fetches of a command want, each at its number; some numbers have no fetch. -/
def BrokerCommand.requests : BrokerCommand → List (Option TileRequest)
  | .fetch request => [some request]
  | .group fetches probes => probes.map (fun _ ↦ none) ++ fetches.map Prod.snd
  | _ => []

namespace BrokerSession

open Serving

/-- The session has the world of a run, in which no fetch has begun from `next` on. -/
def Hosted (tile : Nat → TileRequest) (policy : Auth.Policy) (stage : Stage) (b : BrokerSession) :
    Prop :=
  ∃ s : Serving Stage, s.Reachable b.setup tile policy stage ∧ s.Mirrors b.world ∧
    ∀ f, b.next ≤ f → s.fetches.fetch f = .absent

variable {tile : Nat → TileRequest} {policy : Auth.Policy} {stage : Stage} {b : BrokerSession}

def groupTasks (fetches : List (Schedule × Option TileRequest)) (probes : List Nat) :
    List (Task (FetchTask Stage) FetchTaskResult) :=
  probes.map (fun moment ↦ Task.resting { startAt := moment } FetchTask.probe) ++
    fetches.map fun f ↦ Task.resting f.1 (f.2.elim .probe .begin)

theorem runGroup_eq (b : BrokerSession) (fetches : List (Schedule × Option TileRequest))
    (probes : List Nat) :
    let r := (b.setup.program b.next).runAll b.world (groupTasks fetches probes)
    b.runGroup fetches probes =
      ({ b with world := r.1, next := b.next + (groupTasks fetches probes).length },
        (r.2.drop probes.length).map fetchEnd, views (r.2.take probes.length)) := by
  unfold runGroup
  dsimp only
  rw [List.map_congr_left (l := fetches)
    (g := fun f ↦ Task.resting f.1 (f.2.elim FetchTask.probe FetchTask.begin))]
  · rfl
  · rintro ⟨schedule, request⟩ -
    cases request <;> rfl

theorem states_groupTasks (fetches : List (Schedule × Option TileRequest)) (probes : List Nat) :
    (groupTasks fetches probes).map Task.state =
      (BrokerCommand.group fetches probes).requests.map
        fun request ↦ .resting (request.elim .probe .begin) := by
  simp only [groupTasks, BrokerCommand.requests, List.map_append, List.map_map]
  rfl

theorem length_groupTasks (fetches : List (Schedule × Option TileRequest)) (probes : List Nat) :
    (groupTasks fetches probes).length = (BrokerCommand.group fetches probes).requests.length := by
  simpa using congrArg List.length (states_groupTasks fetches probes)

theorem shows_groupTasks {s : Serving Stage} (hs : s.Reachable b.setup tile policy stage)
    (habsent : ∀ f, b.next ≤ f → s.fetches.fetch f = .absent)
    {fetches : List (Schedule × Option TileRequest)} {probes : List Nat}
    (htile : ∀ i request, (BrokerCommand.group fetches probes).requests[i]? = some (some request) →
      tile (b.next + i) = request) (i : Nat) (task : Task (FetchTask Stage) FetchTaskResult)
    (htask : (groupTasks fetches probes)[i]? = some task) :
    Clocked.ShowsTask b.setup tile (.ofServing s) (b.next + i) task := by
  have hidle : (Clocked.ofServing s).pending (b.next + i) = .none := by
    refine (hs.backed _).pending_none ?_
    simp [wanted?, habsent _ (Nat.le_add_right _ _)]
  refine ⟨?_, Clocked.alarms_of_idle hidle _⟩
  have hstate : ((groupTasks fetches probes).map Task.state)[i]? = some task.state := by
    rw [List.getElem?_map, htask, Option.map_some]
  rw [states_groupTasks, List.getElem?_map] at hstate
  obtain ⟨request, hrequest, hstate⟩ := Option.map_eq_some_iff.mp hstate
  rw [← hstate]
  refine .resting _ ?_ hidle
  cases request with
  | none => exact .probe hidle
  | some request =>
      obtain rfl := htile i request hrequest
      exact .begin (habsent _ (Nat.le_add_right _ _))

theorem hosted_runGroup (h : b.Hosted tile policy stage)
    {fetches : List (Schedule × Option TileRequest)} {probes : List Nat}
    (htile : ∀ i request, (BrokerCommand.group fetches probes).requests[i]? = some (some request) →
      tile (b.next + i) = request) :
    (b.runGroup fetches probes).1.Hosted tile policy stage := by
  obtain ⟨s, hs, hmirrors, habsent⟩ := h
  rw [runGroup_eq]
  obtain ⟨t, ht, hworld, hafter, -⟩ := Clocked.runAll_serves hs hmirrors
    (shows_groupTasks hs habsent htile) fun f hf ↦ habsent f (by omega)
  exact ⟨t.toServing, ht, hworld, hafter⟩

theorem next_runGroup (b : BrokerSession) (fetches : List (Schedule × Option TileRequest))
    (probes : List Nat) : (b.runGroup fetches probes).1.next =
      b.next + (BrokerCommand.group fetches probes).requests.length := by
  rw [runGroup_eq, ← length_groupTasks]

theorem perform_fetch (b : BrokerSession) (request : TileRequest) :
    (b.perform (.fetch request)).1 = (b.runGroup [({}, some request)] []).1 := by
  simp only [perform]

theorem perform_group (b : BrokerSession) (fetches : List (Schedule × Option TileRequest))
    (probes : List Nat) :
    (b.perform (.group fetches probes)).1 = (b.runGroup fetches probes).1 := by
  simp only [perform]

-- The time on the wall is given by a name, or it would be computed to compare two worlds.
theorem perform_sleep (b : BrokerSession) (millis : Nat) :
    ∃ wall, (b.perform (.sleep millis)).1 = { b with world := { b.world with wall } } :=
  ⟨later b.world.wall (millis * Time.millisecond), rfl⟩

theorem hosted_perform (h : b.Hosted tile policy stage) {command : BrokerCommand}
    (htile : ∀ i request, command.requests[i]? = some (some request) →
      tile (b.next + i) = request) :
    (b.perform command).1.Hosted tile policy stage := by
  cases command with
  | describe => exact h
  | group fetches probes =>
      rw [perform_group]
      exact hosted_runGroup h htile
  | fetch request =>
      rw [perform_fetch]
      exact hosted_runGroup h htile
  | sleep millis =>
      obtain ⟨s, hs, hmirrors, habsent⟩ := h
      obtain ⟨wall, hperform⟩ := perform_sleep b millis
      rw [hperform]
      exact ⟨s, hs, ⟨hmirrors.machine_eq, hmirrors.provider_eq⟩, habsent⟩
  | hold =>
      simp only [perform]
      split <;> exact h
  | invalidate index =>
      simp only [perform]
      split
      · exact h
      · next snapshot _ =>
        obtain ⟨s, hs, hmirrors, habsent⟩ := h
        refine ⟨_, hs.step (.invalidate snapshot), ⟨?_, hmirrors.provider_eq⟩, habsent⟩
        exact congrArg (Broker.Fetches.step · (.invalidate snapshot)) hmirrors.machine_eq

theorem setup_perform (b : BrokerSession) (command : BrokerCommand) :
    (b.perform command).1.setup = b.setup := by
  cases command with
  | group fetches probes => rw [perform_group, runGroup_eq]
  | fetch request => rw [perform_fetch, runGroup_eq]
  | hold | invalidate =>
      simp only [perform]
      split <;> rfl
  | sleep millis =>
      obtain ⟨wall, hperform⟩ := perform_sleep b millis
      rw [hperform]
  | describe => rfl

theorem next_perform (b : BrokerSession) (command : BrokerCommand) :
    (b.perform command).1.next = b.next + command.requests.length := by
  cases command with
  | group fetches probes => rw [perform_group, next_runGroup]
  | fetch request =>
      rw [perform_fetch, next_runGroup]
      rfl
  | hold | invalidate =>
      simp only [perform]
      split <;> rfl
  | sleep millis =>
      obtain ⟨wall, hperform⟩ := perform_sleep b millis
      rw [hperform]
      rfl
  | describe => rfl

def performAll (b : BrokerSession) (commands : List BrokerCommand) : BrokerSession :=
  commands.foldl (fun b command ↦ (b.perform command).1) b

def tileOf (other : TileRequest) (commands : List BrokerCommand) (f : Nat) : TileRequest :=
  ((commands.flatMap BrokerCommand.requests)[f]?.join).getD other

theorem setup_performAll (b : BrokerSession) (commands : List BrokerCommand) :
    (b.performAll commands).setup = b.setup := by
  induction commands generalizing b with
  | nil => rfl
  | cons command commands ih => exact (ih _).trans (setup_perform b command)

theorem hosted_performAll (h : b.Hosted tile policy stage) {commands : List BrokerCommand}
    (htile : ∀ i request, (commands.flatMap BrokerCommand.requests)[i]? = some (some request) →
      tile (b.next + i) = request) :
    (b.performAll commands).Hosted tile policy stage := by
  induction commands generalizing b with
  | nil => exact h
  | cons command commands ih =>
      have hfirst : ∀ i request, command.requests[i]? = some (some request) →
          tile (b.next + i) = request := by
        intro i request hrequest
        apply htile
        rw [List.flatMap_cons, List.getElem?_append_left]
        · exact hrequest
        · exact (List.getElem?_eq_some_iff.mp hrequest).1
      apply ih (hosted_perform h hfirst)
      intro i request hrequest
      rw [next_perform, Nat.add_assoc]
      apply htile
      rw [List.flatMap_cons, List.getElem?_append_right (Nat.le_add_right _ _),
        Nat.add_sub_cancel_left]
      exact hrequest

/-- However the tasks of a session take turns, its broker and its provider are those of a run. -/
theorem session_serves (setup : Setup Stage) (policy : Auth.Policy) (stage : Stage)
    (wall : Instant) (other : TileRequest) (commands : List BrokerCommand) : ∃ events,
    ((Serving.initial setup policy stage).run setup (tileOf other commands) events).Mirrors
      ((initial setup policy stage wall).performAll commands).world := by
  have hstart : (initial setup policy stage wall).Hosted (tileOf other commands) policy stage :=
    ⟨_, ⟨[], rfl⟩, ⟨rfl, rfl⟩, fun _ _ ↦ rfl⟩
  have htile : ∀ i request, (commands.flatMap BrokerCommand.requests)[i]? = some (some request) →
      tileOf other commands ((initial setup policy stage wall).next + i) = request := by
    intro i request hrequest
    simp [initial, tileOf, hrequest]
  obtain ⟨s, ⟨events, rfl⟩, hmirrors, -⟩ := hosted_performAll hstart htile
  rw [setup_performAll] at hmirrors
  exact ⟨events, hmirrors⟩

theorem eq_of_fetchEnd {r : Nat × Option FetchTaskResult} {answer : Except Broker.Fault Image}
    (h : (fetchEnd r).result = some answer) : r.2 = some (.fetch answer) := by
  obtain ⟨moment, result⟩ := r
  rcases result with _ | ⟨result⟩ | ⟨view⟩ <;> simp_all [fetchEnd]

/-- The group that a session begins with keeps the time, and its fetches end as those of a run. -/
theorem group_keeps_time (setup : Setup Stage) (policy : Auth.Policy) (stage : Stage)
    (wall : Instant) (other : TileRequest) (fetches : List (Schedule × Option TileRequest))
    (probes : List Nat) :
    let r := (initial setup policy stage wall).runGroup fetches probes
    ∃ events t, (Clocked.ofServing (Serving.initial setup policy stage)).Runs setup
        (tileOf other [.group fetches probes]) events t ∧ t.Mirrors r.1.world ∧
      ∀ i (e : FetchEnd) answer, r.2.1[i]? = some e → e.result = some answer →
        t.fetches.fetch (probes.length + i) = .done answer := by
  have htile : ∀ i request,
      (BrokerCommand.group fetches probes).requests[i]? = some (some request) →
        tileOf other [.group fetches probes] (0 + i) = request := by
    intro i request hrequest
    simp [tileOf, hrequest]
  obtain ⟨t, -, hmirrors, -, hdone, hkeeps⟩ := Clocked.runAll_serves
    (w := (initial setup policy stage wall).world) (s := Serving.initial setup policy stage)
    ⟨[], rfl⟩ ⟨rfl, rfl⟩
    (shows_groupTasks (b := initial setup policy stage wall) ⟨[], rfl⟩ (fun _ _ ↦ rfl) htile)
    fun _ _ ↦ rfl
  obtain ⟨events, hruns⟩ := hkeeps fun _ ↦ rfl
  rw [runGroup_eq]
  refine ⟨events, t, hruns, hmirrors, fun i e answer he hanswer ↦ ?_⟩
  rw [List.getElem?_map, List.getElem?_drop] at he
  obtain ⟨⟨moment, result⟩, hresult, rfl⟩ := Option.map_eq_some_iff.mp he
  obtain rfl : result = _ := eq_of_fetchEnd hanswer
  rw [← Nat.zero_add (probes.length + i)]
  exact hdone _ _ _ hresult

end BrokerSession

end TileFetch.Simulation
