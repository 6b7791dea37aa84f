/-!
# The row in front of the guard

Tasks that wait for the guard stand in a row.  When the guard becomes free the first one
is woken, but the guard is not kept for it: a task that comes in between may take it, and
then the woken task goes to the end of the row.  No second task is woken as long as one
that was woken has not had its turn.
-/

namespace TileFetch.Simulation

structure Waiter where
  task : Nat
  woken : Bool := false

/-- The row of waiting tasks, and the tasks that have been woken but not yet told. -/
structure GuardRow where
  waiters : List Waiter := []
  woken : List Nat := []

namespace GuardRow

def wakeFirst : List Waiter → List Waiter × List Nat
  | [] => ([], [])
  | w :: rest => ({ w with woken := true } :: rest, [w.task])

/-- The guard is free: the first task is woken, unless one is awake already. -/
def notify (row : GuardRow) : GuardRow :=
  if row.waiters.any (·.woken) then row
  else
    let (waiters, woken) := wakeFirst row.waiters
    { waiters, woken := row.woken ++ woken }

def find? (row : GuardRow) (task : Nat) : Option Waiter :=
  row.waiters.find? (·.task = task)

def join (row : GuardRow) (task : Nat) : GuardRow :=
  { row with waiters := row.waiters ++ [{ task }] }

def remove (row : GuardRow) (task : Nat) : GuardRow :=
  { row with waiters := row.waiters.filter (·.task ≠ task) }

/-- A task leaves the row for good; if it was woken, another is woken in its place. -/
def abandon (row : GuardRow) (task : Nat) : GuardRow :=
  match row.find? task with
  | none => row
  | some w => if w.woken then (row.remove task).notify else row.remove task

end GuardRow

end TileFetch.Simulation
