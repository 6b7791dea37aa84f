/-!
# Tasks on a virtual clock

Tasks take turns on one thread.  A task runs until it waits for a moment or for another
task; then the next task that is ready runs, in the order in which they became ready.
When all tasks wait, the clock jumps to the next moment that one of them waits for; of the
tasks that wait for one moment the one that has waited for it longest runs first.
-/

namespace TileFetch.Simulation

/-- A moment that a task waits for, and the moment since when it does. -/
structure Alarm where
  since : Nat
  moment : Nat
  deriving DecidableEq

inductive Poll (τ ρ : Type) where
  | ready (result : ρ)
  /-- It waits, also for the given alarms. -/
  | pending (state : τ) (alarms : List Alarm)

/-- How tasks with states of type `τ` run in a world of type `σ`. -/
structure Program (σ τ ρ : Type) where
  poll : Nat → Nat → σ → τ → σ × Poll τ ρ
  drop : Nat → σ → τ → σ
  /-- The tasks that were woken by others, which are ready now. -/
  takeWoken : σ → List Nat × σ

inductive TaskState (τ ρ : Type) where
  | resting (state : τ)
  | running (state : τ)
  /-- It has ended at a moment, without a result if it was dropped. -/
  | ended (moment : Nat) (result : Option ρ)

/-- A task that begins at a moment and may be dropped at another, though not before it has
begun. -/
structure Task (τ ρ : Type) where
  startAt : Nat
  cancelAt : Option Nat
  state : TaskState τ ρ
  /-- The alarms that are set, each with its number in the order in which they were set. -/
  timers : List (Alarm × Nat) := []

/-- When a task begins, and when it is dropped if it has not ended by then. -/
structure Schedule where
  startAt : Nat := 0
  cancelAt : Option Nat := none

def Task.resting {τ ρ : Type} (schedule : Schedule) (state : τ) : Task τ ρ where
  startAt := schedule.startAt
  cancelAt := schedule.cancelAt
  state := .resting state

structure Machine (σ τ ρ : Type) where
  world : σ
  clock : Nat
  tasks : Array (Task τ ρ)
  ready : List Nat
  nextTimer : Nat := 0

namespace Machine

variable {σ τ ρ : Type}

/-- Puts tasks at the end of the row of ready tasks, each once. -/
def enqueue (ready woken : List Nat) : List Nat :=
  woken.foldl (fun row i ↦ if row.contains i then row else row ++ [i]) ready

/-- The timers of a task for the alarms that it waits for; one that is set already keeps
its number. -/
def renewTimers (old : List (Alarm × Nat)) : List Alarm → Nat → List (Alarm × Nat) × Nat
  | [], next => ([], next)
  | alarm :: alarms, next =>
      match old.find? (·.1 = alarm) with
      | some timer =>
          let (timers, next) := renewTimers old alarms next
          (timer :: timers, next)
      | none =>
          let (timers, next) := renewTimers old alarms (next + 1)
          ((alarm, next) :: timers, next)

def pollState (p : Program σ τ ρ) (m : Machine σ τ ρ) (i : Nat) (task : Task τ ρ) :
    σ × TaskState τ ρ × List Alarm :=
  let run (state : τ) : σ × TaskState τ ρ × List Alarm :=
    match p.poll i m.clock m.world state with
    | (world, .ready result) => (world, .ended m.clock (some result), [])
    | (world, .pending state alarms) =>
        (world, .running state, alarms ++ task.cancelAt.toList.map (⟨task.startAt, ·⟩))
  match task.state with
  | .ended moment result => (m.world, .ended moment result, [])
  | .running state => run state
  | .resting state =>
      if task.startAt ≤ m.clock then run state
      else (m.world, .resting state, [⟨0, task.startAt⟩])

/-- The turn of a task.  A task that ends in its turn is not dropped any more. -/
def turn (p : Program σ τ ρ) (m : Machine σ τ ρ) (i : Nat) : Machine σ τ ρ :=
  match m.tasks[i]? with
  | none => m
  | some task =>
      let (world, state, alarms) :=
        match pollState p m i task with
        | (world, .running state, alarms) =>
            if task.cancelAt.any (· ≤ m.clock) then
              (p.drop i world state, .ended m.clock none, [])
            else (world, .running state, alarms)
        | other => other
      let (timers, next) := renewTimers task.timers alarms m.nextTimer
      let (woken, world) := p.takeWoken world
      { m with
        world
        tasks := m.tasks.setIfInBounds i { task with state, timers }
        ready := enqueue m.ready woken
        nextTimer := next }

def timers (m : Machine σ τ ρ) : List (Nat × Nat × Nat) :=
  (m.tasks.toList.zipIdx.map fun (task, i) ↦
    task.timers.map fun (alarm, number) ↦ (alarm.moment, number, i)).flatten

/-- The clock jumps to the next moment; the tasks that wait for it are ready in the order
of their timers. -/
def jump (m : Machine σ τ ρ) : Option (Machine σ τ ρ) :=
  match (m.timers.map (·.1)).min? with
  | none => none
  | some moment =>
      let due := (m.timers.filter (·.1 = moment)).mergeSort (·.2.1 ≤ ·.2.1)
      some { m with clock := max m.clock moment, ready := enqueue [] (due.map (·.2.2)) }

/-- Runs all tasks to their ends; `fuel` bounds the number of turns and jumps. -/
def run (p : Program σ τ ρ) : Nat → Machine σ τ ρ → Machine σ τ ρ
  | 0, m => m
  | fuel + 1, m =>
      match m.ready with
      | i :: rest => run p fuel (turn p { m with ready := rest } i)
      | [] =>
          match m.jump with
          | none => m
          | some m => run p fuel m

def start (world : σ) (clock : Nat) (tasks : List (Task τ ρ)) : Machine σ τ ρ where
  world
  clock
  tasks := tasks.toArray
  ready := List.range tasks.length

def results (m : Machine σ τ ρ) : List (Nat × Option ρ) :=
  m.tasks.toList.map fun task ↦
    match task.state with
    | .ended moment result => (moment, result)
    | _ => (m.clock, none)

end Machine

def turnLimit (count : Nat) : Nat :=
  1000 * (count + 1) * (count + 1)

/-- Runs tasks from the moment zero to their ends: the world after them, the moments at
which they ended, and their results. -/
def Program.runAll {σ τ ρ : Type} (p : Program σ τ ρ) (world : σ) (tasks : List (Task τ ρ)) :
    σ × List (Nat × Option ρ) :=
  let m := (Machine.start world 0 tasks).run p (turnLimit tasks.length)
  (m.world, m.results)

end TileFetch.Simulation
