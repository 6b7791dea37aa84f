import TileFetch.Simulation.CacheRun

/-!
# Numbers for shared values

Shared contexts and shared failures are told apart by numbers that count them in the order
in which they are first mentioned.
-/

namespace TileFetch.Simulation

/-- Things in the order in which they were first mentioned. -/
structure Mentions where
  known : List Nat := []

namespace Mentions

/-- The number of a thing, and the mentions together with this one. -/
def number (m : Mentions) (thing : Nat) : Nat × Mentions :=
  match m.known.idxOf? thing with
  | some i => (i, m)
  | none => (m.known.length, ⟨m.known ++ [thing]⟩)

end Mentions

structure Numbering where
  contexts : Mentions := {}
  failures : Mentions := {}

namespace Numbering

def context (n : Numbering) (h : Auth.Handle Auth.Context) : Nat × Numbering :=
  let (i, contexts) := n.contexts.number h.id
  (i, { n with contexts })

def failure (n : Numbering) (h : Auth.Handle Provider.Failure) : Nat × Numbering :=
  let (i, failures) := n.failures.number h.id
  (i, { n with failures })

end Numbering

end TileFetch.Simulation
