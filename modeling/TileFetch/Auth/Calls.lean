import TileFetch.Auth.Cache

/-!
# Calls for a context

Any number of calls ask one cache for a context.  A call that finds none remembers the
generation and waits for the guard, which one call at a time can hold; once it has the
guard it shares what happened while it waited, or refreshes.  A step is what happens
between two moments at which calls may be suspended; a run is any list of steps.
-/

namespace TileFetch.Auth

open Time (Instant)

inductive Call where
  | absent
  | looking
  /-- It waits for the guard and remembers a generation. -/
  | waiting (seen : Nat)
  /-- It holds the guard and refreshes the context `previous`. -/
  | leading (seen : Nat) (previous : Context)
  | done (outcome : Outcome)
  | dropped

structure Calls where
  cache : Cache
  holder : Option Nat := none
  call : Nat → Call := fun _ ↦ .absent
  /-- The number of refreshes that were given up. -/
  abandoned : Nat := 0

inductive CallStep where
  | look (now : Instant)
  | acquire (now : Instant)
  /-- Its refresh ends; `draw` is the random number for the time of the next refresh. -/
  | settle (result : Except Provider.Failure Context) (now : Instant) (draw : Nat)

inductive Event where
  | start (call : Nat)
  | step (call : Nat) (s : CallStep)
  | drop (call : Nat)
  | invalidate (snapshot : Snapshot)

namespace Calls

def place (s : Calls) (c : Nat) (state : Call) : Calls :=
  { s with call := fun d ↦ if d = c then state else s.call d }

def look (s : Calls) (c : Nat) (now : Instant) : Calls :=
  match s.call c with
  | .looking =>
      match s.cache.slot.fresh? now with
      | some snapshot => s.place c (.done (.ok snapshot))
      | none => s.place c (.waiting s.cache.slot.generation)
  | _ => s

/-- A call gets the guard, if it waits for it and no other call holds it. -/
def acquire (s : Calls) (c : Nat) (now : Instant) : Calls :=
  match s.call c, s.holder with
  | .waiting seen, none =>
      match s.cache.turn seen now with
      | .share snapshot => s.place c (.done (.ok snapshot))
      | .fail failure => s.place c (.done (.error failure))
      | .again => s.place c .looking
      | .lead =>
          { s with cache := s.cache.beginRefresh, holder := some c }.place c
            (.leading seen s.cache.slot.previous)
  | _, _ => s

def settle (s : Calls) (c : Nat) (result : Except Provider.Failure Context)
    (now : Instant) (draw : Nat) : Calls :=
  match s.call c with
  | .leading _ _ =>
      { s with cache := s.cache.settle result now draw, holder := none }.place c
        (.done (s.cache.settled result))
  | _ => s

def drop (s : Calls) (c : Nat) : Calls :=
  match s.call c with
  | .looking => s.place c .dropped
  | .waiting _ => s.place c .dropped
  | .leading _ _ =>
      { s with cache := s.cache.abandon, holder := none, abandoned := s.abandoned + 1 }.place c
        .dropped
  | _ => s

def start (s : Calls) (c : Nat) : Calls :=
  match s.call c with
  | .absent => s.place c .looking
  | _ => s

/-- A step of one call; a step that is not possible changes nothing. -/
def stepCall (s : Calls) (c : Nat) : CallStep → Calls
  | .look now => s.look c now
  | .acquire now => s.acquire c now
  | .settle result now draw => s.settle c result now draw

def step (s : Calls) : Event → Calls
  | .start c => s.start c
  | .step c e => s.stepCall c e
  | .drop c => s.drop c
  | .invalidate snapshot => { s with cache := s.cache.invalidate snapshot }

def initial (policy : Policy) : Calls :=
  { cache := .new policy }

def run (s : Calls) (events : List Event) : Calls :=
  events.foldl step s

end Calls

end TileFetch.Auth
