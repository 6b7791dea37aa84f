import TileFetch.Proofs.Auth.Accounting
import TileFetch.Proofs.Serving.Effects
import TileFetch.Simulation.Counting

/-!
# The tokens of a counting provider

The first `failing` authentications of a counting provider fail and each later one issues the
next token.  So the number of a token is the number of the cycle that published it, less the
number of those that failed.
-/

namespace TileFetch.Simulation

open Time (Instant)

/-- A broker over a counting provider whose first authentications fail and whose first tokens are
rejected.  The broker refreshes no context ahead of time, and waits long enough for the provider. -/
structure Trial where
  failing : Nat
  /-- The tokens before this one are rejected. -/
  limit : Nat
  delay : Nat
  env : Provider.Env
  policy : Auth.Policy
  tile : Nat → TileRequest
  reactive : policy.isReactive = true
  inTime : delay ≤ env.settings.timeoutMillis

namespace Trial

def rules (p : Trial) : CountingRules where
  failing := p.failing
  delay := p.delay
  tiles := .expireUntil p.limit

def setup (p : Trial) : Setup Counts where
  service := .counting p.rules id fun _ counts ↦ counts
  env := p.env

def accepted (p : Trial) : Nat :=
  max p.limit 1

def run (p : Trial) (events : List Serving.Event) : Serving Counts :=
  (Serving.initial p.setup p.policy {}).run p.setup p.tile events

end Trial

namespace Counts

variable {p : Trial} {call n : Nat} {c : Counts} {request : TileRequest}

@[simp] theorem numberOf_issue (n : Nat) : numberOf (issue n) = n := by
  simp [numberOf, issue, Auth.Context.addValue, Auth.Context.ofToken, Dict.get?, Dict.insert,
    Dict.empty, putEntry, findEntry]

@[simp] theorem bypass_issue (n : Nat) : (issue n).bypass = false := rfl

theorem authenticate_of_lt (h : call < p.failing) :
    ∃ failure, authenticate p.rules call c = (c, .error failure) := by
  simp [authenticate, Trial.rules, h]

theorem authenticate_of_le (h : p.failing ≤ call) :
    authenticate p.rules call c =
      ({ c with issued := c.issued + 1 }, .ok (issue (c.issued + 1))) := by
  simp [authenticate, Trial.rules, h]

def imageOf (n : Nat) (request : TileRequest) : Image :=
  .ofString (echoText (issue n) request) (some "text/plain")

theorem reply_of_lt (h : n < p.limit) :
    reply p.rules (issue n) request = .error (rejection (issue n)) := by
  simp [reply, Trial.rules, h]

theorem reply_of_le (h : p.limit ≤ n) :
    reply p.rules (issue n) request = .ok (imageOf n request) := by
  simp [reply, Trial.rules, h, imageOf]

def asked (c : Counts) : Option Want → Counts
  | none => c
  | some (.context _) => { c with preAuths := c.preAuths + 1 }
  | some (.tile _) => { c with tiles := c.tiles + 1 }

@[simp] theorem issued_asked (c : Counts) (want : Option Want) :
    (c.asked want).issued = c.issued := by
  rcases want with - | ⟨previous | context⟩ <;> rfl

theorem preAuths_asked (c : Counts) (want : Option Want) :
    (c.asked want).preAuths = c.preAuths + (want.bind Want.previous?).toList.length := by
  rcases want with - | ⟨previous | context⟩ <;> rfl

end Counts

/-! ## The number of a token -/

namespace Trial

/-- The snapshot holds the token that its cycle issued, where the first `failing` cycles failed. -/
def Numbered (p : Trial) (x : Auth.Snapshot) : Prop :=
  p.failing < x.generation ∧ x.context.value = Counts.issue (x.generation - p.failing)

/-- What a cache holds after cycles of which the first `failing` failed and the others issued
tokens; a token has been reported only if it is one before `limit`. -/
structure HoldsTokens (p : Trial) (c : Auth.Cache) : Prop where
  successes_eq : c.tally.successes = c.slot.generation - p.failing
  phase_of_le : c.slot.generation ≤ p.failing → c.slot.phase = .uninitialized
  context_of_le : c.slot.generation ≤ p.failing → c.slot.context = none
  numbered : ∀ x, c.slot.snapshot? = some x → p.Numbered x
  snapshot_of_lt : p.failing < c.slot.generation →
    ∃ x, c.slot.snapshot? = some x ∧ x.generation = c.slot.generation
  phase_of_lt : p.failing < c.slot.generation →
    c.slot.phase = .valid ∨ c.slot.phase = .stale ∧ c.slot.generation - p.failing < p.limit

namespace HoldsTokens

variable {p : Trial} {c : Auth.Cache} {x : Auth.Snapshot}

theorem new (policy : Auth.Policy) : p.HoldsTokens (.new policy) where
  successes_eq := by simp [Auth.Cache.new]
  phase_of_le _ := rfl
  context_of_le _ := rfl
  numbered x hx := by simp [Auth.Cache.new, Auth.Slot.snapshot?] at hx
  snapshot_of_lt h := by simp [Auth.Cache.new] at h
  phase_of_lt h := by simp [Auth.Cache.new] at h

theorem generation_eq (h : p.HoldsTokens c) (hx : c.slot.snapshot? = some x) :
    x.generation = c.slot.generation := by
  by_cases hlt : p.failing < c.slot.generation
  · obtain ⟨y, hy, hgeneration⟩ := h.snapshot_of_lt hlt
    rw [hx] at hy
    rwa [Option.some.inj hy]
  · simp [Auth.Slot.snapshot?, h.context_of_le (Nat.le_of_not_lt hlt)] at hx

theorem beginRefresh (h : p.HoldsTokens c) : p.HoldsTokens c.beginRefresh where
  successes_eq := h.successes_eq
  phase_of_le := h.phase_of_le
  context_of_le := h.context_of_le
  numbered := h.numbered
  snapshot_of_lt := h.snapshot_of_lt
  phase_of_lt := h.phase_of_lt

theorem reject (h : p.HoldsTokens c) (hlt : c.slot.generation < p.failing)
    (failure : Provider.Failure) : p.HoldsTokens (c.reject failure) where
  successes_eq := by
    have hsuccesses := h.successes_eq
    simp only [Auth.Cache.reject]
    omega
  phase_of_le _ := h.phase_of_le hlt.le
  context_of_le _ := h.context_of_le hlt.le
  numbered := h.numbered
  snapshot_of_lt hlate := by
    simp only [Auth.Cache.reject] at hlate
    omega
  phase_of_lt hlate := by
    simp only [Auth.Cache.reject] at hlate
    omega

theorem publish (h : p.HoldsTokens c) (hle : p.failing ≤ c.slot.generation)
    (now : Instant) (draw : Nat) :
    p.HoldsTokens
      (c.publish (Counts.issue (c.slot.generation - p.failing + 1)) now draw) where
  successes_eq := by
    have hsuccesses := h.successes_eq
    simp only [Auth.Cache.publish]
    omega
  phase_of_le hearly := by
    simp only [Auth.Cache.publish] at hearly
    omega
  context_of_le hearly := by
    simp only [Auth.Cache.publish] at hearly
    omega
  numbered x hx := by
    obtain rfl := Option.some.inj hx
    constructor
    · simp only [Auth.Cache.publish]
      omega
    · simp only [Auth.Cache.publish]
      congr 1
      omega
  snapshot_of_lt _ := ⟨_, rfl, rfl⟩
  phase_of_lt _ := .inl rfl

theorem invalidate (h : p.HoldsTokens c) (hlt : x.generation - p.failing < p.limit) :
    p.HoldsTokens (c.invalidate x) := by
  unfold Auth.Cache.invalidate
  split_ifs with haccepts
  · obtain ⟨hvalid, hgeneration⟩ := Auth.Cache.accepts_iff.mp haccepts
    refine ⟨h.successes_eq, ?_, h.context_of_le, h.numbered, h.snapshot_of_lt, ?_⟩
    · intro hearly
      simp [h.phase_of_le hearly] at hvalid
    · intro hlate
      obtain ⟨y, hy, hnumber⟩ := h.snapshot_of_lt hlate
      have hcontext := (Auth.Slot.snapshot?_eq_some_iff.mp hy).2
      refine .inr ⟨rfl, ?_⟩
      rwa [← hnumber, ← hcontext, hgeneration]
  · exact h

theorem lt_of_standing? (h : p.HoldsTokens c) (hstanding : c.slot.standing? = none) :
    c.slot.generation < p.failing + p.accepted := by
  unfold accepted
  by_cases hlt : p.failing < c.slot.generation
  · rcases h.phase_of_lt hlt with hvalid | ⟨-, hnumber⟩
    · simp [Auth.Slot.standing?, hvalid] at hstanding
    · omega
  · omega

/-- A token that stands is used, if the policy never refreshes it. -/
theorem fresh?_of_valid (h : p.HoldsTokens c) (hnever : c.slot.refreshAt = none)
    (hvalid : c.slot.phase = .valid) (now : Instant) :
    ∃ x, c.slot.fresh? now = some x ∧ x.generation = c.slot.generation := by
  have hlate : p.failing < c.slot.generation := by
    by_contra hearly
    simp [h.phase_of_le (Nat.le_of_not_lt hearly)] at hvalid
  obtain ⟨x, hx, hgeneration⟩ := h.snapshot_of_lt hlate
  have hstanding : c.slot.standing? ≠ none := by simp [Auth.Slot.standing?, hvalid]
  exact ⟨x, by rw [Auth.Slot.fresh?_of_standing? hnever hstanding, hx], hgeneration⟩

theorem fresh?_of_ne_valid (h : p.HoldsTokens c) (hphase : c.slot.phase ≠ .valid)
    (now : Instant) : c.slot.fresh? now = none := by
  by_cases hlate : p.failing < c.slot.generation
  · rcases h.phase_of_lt hlate with hvalid | ⟨hstale, -⟩
    · exact (hphase hvalid).elim
    · simp [Auth.Slot.fresh?, hstale]
  · simp [Auth.Slot.fresh?, h.phase_of_le (Nat.le_of_not_lt hlate)]

theorem valid_of_accepted (h : p.HoldsTokens c)
    (haccepted : c.slot.generation = p.failing + p.accepted) : c.slot.phase = .valid := by
  unfold accepted at haccepted
  rcases h.phase_of_lt (by omega) with hvalid | ⟨-, hlt⟩
  · exact hvalid
  · omega

end HoldsTokens

end Trial

end TileFetch.Simulation
