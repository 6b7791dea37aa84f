import TileFetch.Proofs.Auth.Moves

/-!
# What a slot says about its history

The fields of a slot are written by different operations, and each writes only some of them.
They agree because together they are a view of the history: of the outcomes of the cycles
that have ended, and of the generations against which a report was accepted.  `Reflects` is
this invariant.
-/

namespace TileFetch.Auth

open Time (Instant)

def Phase.after (context? : Option Snapshot) (reported : List Nat) : Phase :=
  match context? with
  | none => .uninitialized
  | some snapshot =>
      if snapshot.isBypassed then .bypassed
      else if snapshot.generation ∈ reported then .stale
      else .valid

theorem Phase.after_eq_uninitialized_iff {context? : Option Snapshot} {reported : List Nat} :
    Phase.after context? reported = .uninitialized ↔ context? = none := by
  cases context? with
  | none => simp [after]
  | some snapshot =>
      simp only [after]
      split_ifs <;> simp

theorem Phase.after_eq_bypassed_iff {context? : Option Snapshot} {reported : List Nat} :
    Phase.after context? reported = .bypassed ↔
      ∃ snapshot, context? = some snapshot ∧ snapshot.isBypassed = true := by
  cases context? with
  | none => simp [after]
  | some snapshot =>
      simp only [after, Option.some.injEq, exists_eq_left']
      split_ifs with hbypass <;> simp [hbypass]

theorem Cache.accepts_iff {c : Cache} {snapshot : Snapshot} :
    c.accepts snapshot = true ↔
      c.slot.phase = .valid ∧ c.slot.contextGeneration = snapshot.generation := by
  simp [accepts]

namespace Slot

def Follows (s : Slot) : Option Outcome → Prop
  | none => s.contextGeneration = 0 ∧ s.lastFailure = none
  | some (.ok snapshot) =>
      s.snapshot? = some snapshot ∧ s.contextGeneration = s.generation ∧ s.lastFailure = none
  | some (.error failure) =>
      s.lastFailure = some (s.generation, failure) ∧ s.contextGeneration < s.generation

/-- The slot is a view of the outcomes of the cycles and of the accepted reports. -/
structure Reflects (s : Slot) (outcomes : List Outcome) (reported : List Nat) : Prop where
  generation_eq : s.generation = outcomes.length
  follows : s.Follows outcomes.getLast?
  snapshot?_eq : s.snapshot? = (published outcomes).getLast?
  contextGeneration_eq_zero : s.context = none → s.contextGeneration = 0
  phase_eq : s.phase = .after s.snapshot? reported
  numbered : ∀ i snapshot, outcomes[i]? = some (.ok snapshot) → snapshot.generation = i + 1
  generation_le : ∀ snapshot, .ok snapshot ∈ outcomes →
    snapshot.generation ≤ s.contextGeneration
  reported_le : ∀ g ∈ reported, g ≤ s.contextGeneration
  not_reported_of_isBypassed : ∀ snapshot, s.snapshot? = some snapshot →
    snapshot.isBypassed = true → snapshot.generation ∉ reported
  refreshAt_eq_none : s.phase = .bypassed → s.refreshAt = none

/-! ## The parts of a slot -/

theorem snapshot?_eq_some_iff {s : Slot} {snapshot : Snapshot} :
    s.snapshot? = some snapshot ↔
      s.context = some snapshot.context ∧ s.contextGeneration = snapshot.generation := by
  obtain ⟨generation, context⟩ := snapshot
  cases h : s.context <;> simp [snapshot?, h, and_comm]

theorem snapshot?_eq_none_iff {s : Slot} : s.snapshot? = none ↔ s.context = none := by
  simp [snapshot?]

/-- The two tests of the time for a refresh agree, also where there is none. -/
@[simp] theorem isAhead_eq_not_isDue (s : Slot) (now : Instant) :
    s.isAhead now = !s.isDue now := by
  unfold isAhead isDue
  cases s.refreshAt with
  | none => rfl
  | some u =>
      rw [Option.all_some, Option.any_some, Instant.isBefore, Instant.notAfter, ← decide_not]
      simp only [not_le]

theorem snapshot?_of_fresh? {s : Slot} {now : Instant} {snapshot : Snapshot}
    (h : s.fresh? now = some snapshot) :
    s.snapshot? = some snapshot ∧
      (s.phase = .bypassed ∨ s.phase = .valid ∧ s.isDue now = false) := by
  cases hphase : s.phase with
  | bypassed => exact ⟨by simpa [fresh?, hphase] using h, .inl rfl⟩
  | valid =>
      cases hdue : s.isDue now with
      | true => simp [fresh?, hphase, hdue] at h
      | false => exact ⟨by simpa [fresh?, hphase, hdue] using h, .inr ⟨rfl, rfl⟩⟩
  | _ => simp [fresh?, hphase] at h

theorem snapshot?_of_latest? {s : Slot} {snapshot : Snapshot} (h : s.latest? = some snapshot) :
    s.snapshot? = some snapshot ∧ s.contextGeneration = s.generation ∧
      (s.phase = .bypassed ∨ s.phase = .valid) := by
  unfold latest? at h
  split at h
  · rename_i hphase
    split at h
    · rename_i heq
      exact ⟨h, heq, .inr hphase⟩
    · simp at h
  · rename_i hphase
    split at h
    · rename_i heq
      exact ⟨h, heq, .inl hphase⟩
    · simp at h
  · simp at h

theorem latestFailure?_eq_some_iff {s : Slot} {failure : Handle Provider.Failure} :
    s.latestFailure? = some failure ↔ s.lastFailure = some (s.generation, failure) := by
  cases h : s.lastFailure with
  | none => simp [latestFailure?, h]
  | some entry =>
      obtain ⟨generation, last⟩ := entry
      by_cases hg : generation = s.generation <;> simp [latestFailure?, h, hg]

theorem Follows.contextGeneration_le {s : Slot} {last : Option Outcome} (h : s.Follows last) :
    s.contextGeneration ≤ s.generation := by
  match last, h with
  | none, h => exact h.1 ▸ Nat.zero_le _
  | some (.ok _), h => exact Nat.le_of_eq h.2.1
  | some (.error _), h => exact Nat.le_of_lt h.2

/-! ## What the operations of the cache keep -/

theorem reflects_empty : Slot.Reflects {} [] [] where
  generation_eq := rfl
  follows := ⟨rfl, rfl⟩
  snapshot?_eq := rfl
  contextGeneration_eq_zero := fun _ ↦ rfl
  phase_eq := rfl
  numbered := by simp
  generation_le := by simp
  reported_le := by simp
  not_reported_of_isBypassed := by simp
  refreshAt_eq_none := fun _ ↦ rfl

variable {s : Slot} {outcomes : List Outcome} {reported : List Nat}

theorem Reflects.withFlag (h : s.Reflects outcomes reported) (flag : Bool) :
    Slot.Reflects { s with refreshing := flag } outcomes reported where
  generation_eq := h.generation_eq
  follows := h.follows
  snapshot?_eq := h.snapshot?_eq
  contextGeneration_eq_zero := h.contextGeneration_eq_zero
  phase_eq := h.phase_eq
  numbered := h.numbered
  generation_le := h.generation_le
  reported_le := h.reported_le
  not_reported_of_isBypassed := h.not_reported_of_isBypassed
  refreshAt_eq_none := h.refreshAt_eq_none

theorem Reflects.numbered_concat (h : s.Reflects outcomes reported) {outcome : Outcome}
    (hnext : ∀ snapshot, outcome = .ok snapshot → snapshot.generation = s.generation + 1)
    (i : Nat) (snapshot : Snapshot) (hi : (outcomes ++ [outcome])[i]? = some (.ok snapshot)) :
    snapshot.generation = i + 1 := by
  rcases Nat.lt_or_ge i outcomes.length with hlt | hge
  · rw [List.getElem?_append_left hlt] at hi
    exact h.numbered i snapshot hi
  · rw [List.getElem?_append_right hge] at hi
    have hzero : i - outcomes.length = 0 := by
      by_contra hne
      obtain ⟨k, hk⟩ := Nat.exists_eq_succ_of_ne_zero hne
      simp [hk] at hi
    have houtcome : outcome = .ok snapshot := by simpa [hzero] using hi
    have hgeneration := h.generation_eq
    have hsnapshot := hnext snapshot houtcome
    omega

theorem Reflects.publish {c : Cache} (h : c.slot.Reflects outcomes reported)
    (context : Context) (now : Instant) (draw : Nat) :
    (c.publish context now draw).slot.Reflects (outcomes ++ [c.settled (.ok context)])
      reported := by
  have hle := h.follows.contextGeneration_le
  have hreported : c.slot.generation + 1 ∉ reported := by
    intro hmem
    have := h.reported_le _ hmem
    omega
  refine ⟨?_, ?_, ?_, ?_, ?_, ?_, ?_, ?_, ?_, ?_⟩
  · simp [Cache.publish, h.generation_eq]
  · simp [Cache.publish, Cache.settled, Slot.Follows, Slot.snapshot?]
  · simp [Cache.publish, Cache.settled, Slot.snapshot?]
  · simp [Cache.publish]
  · cases hbypass : context.bypass <;>
      simp [Cache.publish, Slot.snapshot?, Phase.after, Snapshot.isBypassed, hbypass, hreported]
  · exact h.numbered_concat (by rintro _ ⟨⟩; rfl)
  · intro snapshot hmem
    rcases List.mem_append.mp hmem with hmem | hmem
    · have := h.generation_le snapshot hmem
      simp only [Cache.publish]
      omega
    · obtain rfl : snapshot = ⟨c.slot.generation + 1, ⟨c.minted, context⟩⟩ := by
        simpa [Cache.settled] using hmem
      exact Nat.le_refl _
  · intro g hg
    have := h.reported_le g hg
    simp only [Cache.publish]
    omega
  · rintro snapshot hsnapshot -
    obtain ⟨-, hgeneration⟩ := snapshot?_eq_some_iff.mp hsnapshot
    rw [← hgeneration]
    exact hreported
  · cases hbypass : context.bypass <;> simp [Cache.publish, hbypass]

theorem Reflects.reject {c : Cache} (h : c.slot.Reflects outcomes reported)
    (failure : Provider.Failure) :
    (c.reject failure).slot.Reflects (outcomes ++ [c.settled (.error failure)]) reported where
  generation_eq := by simp [Cache.reject, h.generation_eq]
  follows := by
    have hle := h.follows.contextGeneration_le
    simp [Cache.reject, Cache.settled, Slot.Follows, Nat.lt_succ_of_le hle]
  snapshot?_eq := by
    rw [Cache.settled, published_append, published_cons_error, published_nil, List.append_nil]
    exact h.snapshot?_eq
  contextGeneration_eq_zero := h.contextGeneration_eq_zero
  phase_eq := h.phase_eq
  numbered := h.numbered_concat (by rintro _ ⟨⟩)
  generation_le := by
    intro snapshot hmem
    exact h.generation_le snapshot (by simpa [Cache.settled] using hmem)
  reported_le := h.reported_le
  not_reported_of_isBypassed := h.not_reported_of_isBypassed
  refreshAt_eq_none := h.refreshAt_eq_none

theorem Reflects.settle {c : Cache} (h : c.slot.Reflects outcomes reported)
    (result : Except Provider.Failure Context) (now : Instant) (draw : Nat) :
    (c.settle result now draw).slot.Reflects (outcomes ++ [c.settled result]) reported := by
  cases result with
  | ok context => exact h.publish context now draw
  | error failure => exact h.reject failure

theorem Reflects.invalidate {c : Cache} (h : c.slot.Reflects outcomes reported)
    {snapshot : Snapshot} (haccepts : c.accepts snapshot = true) :
    (c.invalidate snapshot).slot.Reflects outcomes (reported ++ [snapshot.generation]) := by
  obtain ⟨hvalid, hgeneration⟩ := Cache.accepts_iff.mp haccepts
  have hphase := h.phase_eq
  rw [hvalid] at hphase
  obtain ⟨context, hcontext⟩ : ∃ context, c.slot.snapshot? = some context := by
    cases hs : c.slot.snapshot? with
    | none => simp [hs, Phase.after] at hphase
    | some context => exact ⟨context, rfl⟩
  have hbypass : context.isBypassed = false := by
    cases hbypassed : context.isBypassed with
    | false => rfl
    | true => simp [hcontext, Phase.after, hbypassed] at hphase
  have hsame : context.generation = snapshot.generation :=
    (snapshot?_eq_some_iff.mp hcontext).2.symm.trans hgeneration
  have hslot : (c.invalidate snapshot).slot = { c.slot with phase := .stale } := by
    simp [Cache.invalidate, haccepts]
  rw [hslot]
  refine ⟨h.generation_eq, h.follows, h.snapshot?_eq, h.contextGeneration_eq_zero, ?_,
    h.numbered, h.generation_le, ?_, ?_, ?_⟩
  · change Phase.stale = .after c.slot.snapshot? _
    simp [hcontext, Phase.after, hbypass, hsame]
  · intro g hg
    rcases List.mem_append.mp hg with hg | hg
    · exact h.reported_le g hg
    · obtain rfl : g = snapshot.generation := by simpa using hg
      exact Nat.le_of_eq hgeneration.symm
  · intro other hother hbypassed
    obtain rfl : context = other := Option.some.inj (hcontext.symm.trans hother)
    simp [hbypass] at hbypassed
  · simp

/-! ## What the history says about the context -/

theorem Reflects.ok_mem (h : s.Reflects outcomes reported) {snapshot : Snapshot}
    (hs : s.snapshot? = some snapshot) : .ok snapshot ∈ outcomes := by
  have hlast : (published outcomes).getLast? = some snapshot := by
    rw [← h.snapshot?_eq, hs]
  exact mem_published.mp (List.mem_of_getLast? hlast)

theorem Reflects.eq_of_generation_eq (h : s.Reflects outcomes reported) {x y : Snapshot}
    (hx : .ok x ∈ outcomes) (hy : .ok y ∈ outcomes) (hxy : x.generation = y.generation) :
    x = y := by
  obtain ⟨i, hi⟩ := List.getElem?_of_mem hx
  obtain ⟨j, hj⟩ := List.getElem?_of_mem hy
  have hix := h.numbered i x hi
  have hjy := h.numbered j y hj
  have hij : i = j := by omega
  rw [hij, hj] at hi
  exact (Except.ok.inj (Option.some.inj hi)).symm

/-- A published snapshot that is as new as the context of the slot is that context. -/
theorem Reflects.snapshot?_of_generation_eq (h : s.Reflects outcomes reported) {x : Snapshot}
    (hx : .ok x ∈ outcomes) (hgeneration : x.generation = s.contextGeneration) :
    s.snapshot? = some x := by
  cases hs : s.snapshot? with
  | none =>
      have hzero := h.contextGeneration_eq_zero (snapshot?_eq_none_iff.mp hs)
      obtain ⟨i, hi⟩ := List.getElem?_of_mem hx
      have hpos := h.numbered i x hi
      omega
  | some y =>
      have hy := (snapshot?_eq_some_iff.mp hs).2
      rw [h.eq_of_generation_eq hx (h.ok_mem hs) (hgeneration.trans hy)]

theorem Reflects.not_reported (h : s.Reflects outcomes reported) {snapshot : Snapshot}
    (hs : s.snapshot? = some snapshot) (hphase : s.phase = .bypassed ∨ s.phase = .valid) :
    snapshot.generation ∉ reported := by
  cases hbypass : snapshot.isBypassed with
  | true => exact h.not_reported_of_isBypassed snapshot hs hbypass
  | false =>
      intro hmem
      have hstale : s.phase = .stale := by
        rw [h.phase_eq, hs]
        simp [Phase.after, hbypass, hmem]
      rcases hphase with hphase | hphase <;> simp [hphase] at hstale

theorem Reflects.phase_eq_bypassed_iff (h : s.Reflects outcomes reported) :
    s.phase = .bypassed ↔ ∃ snapshot, s.snapshot? = some snapshot ∧
      snapshot.isBypassed = true := by
  rw [h.phase_eq, Phase.after_eq_bypassed_iff]

theorem Reflects.phase_eq_uninitialized_iff (h : s.Reflects outcomes reported) :
    s.phase = .uninitialized ↔ s.context = none := by
  rw [h.phase_eq, Phase.after_eq_uninitialized_iff, snapshot?_eq_none_iff]

theorem Reflects.exists_snapshot? (h : s.Reflects outcomes reported)
    (hphase : s.phase ≠ .uninitialized) : ∃ snapshot, s.snapshot? = some snapshot := by
  apply Option.ne_none_iff_exists'.mp
  rw [Ne, snapshot?_eq_none_iff, ← h.phase_eq_uninitialized_iff]
  exact hphase

theorem Reflects.context_eq_none_iff (h : s.Reflects outcomes reported) :
    s.context = none ↔ s.contextGeneration = 0 := by
  constructor
  · exact h.contextGeneration_eq_zero
  · intro hzero
    by_contra hne
    obtain ⟨snapshot, hs⟩ := Option.ne_none_iff_exists'.mp
      (mt snapshot?_eq_none_iff.mp hne)
    obtain ⟨i, hi⟩ := List.getElem?_of_mem (h.ok_mem hs)
    have hpos := h.numbered i snapshot hi
    have hsame := (snapshot?_eq_some_iff.mp hs).2
    omega

/-! ## Slots one after another -/

/-- A context with this generation will not be handed out again: a newer one was published,
or a report against it was accepted. -/
def Retired (s : Slot) (g : Nat) : Prop :=
  g < s.contextGeneration ∨ g = s.contextGeneration ∧ s.phase = .stale

/-- After a report its snapshot is retired, whether the report was accepted or not: else it was
superseded or reported before. -/
theorem Reflects.retired_invalidate {c : Cache} (h : c.slot.Reflects outcomes reported)
    {snapshot : Snapshot} (hmem : .ok snapshot ∈ outcomes) (hbypass : snapshot.isBypassed = false) :
    (c.invalidate snapshot).slot.Retired snapshot.generation := by
  have hcontext : (c.invalidate snapshot).slot.contextGeneration = c.slot.contextGeneration := by
    cases haccepts : c.accepts snapshot <;> simp [Cache.invalidate, haccepts]
  rcases Nat.lt_or_eq_of_le (h.generation_le snapshot hmem) with hlt | heq
  · left
    rwa [hcontext]
  · right
    refine ⟨heq.trans hcontext.symm, ?_⟩
    have hphase := h.phase_eq
    rw [h.snapshot?_of_generation_eq hmem heq] at hphase
    by_cases hreported : snapshot.generation ∈ reported
    · have hstale : c.slot.phase = .stale := by
        simpa [Phase.after, hbypass, hreported] using hphase
      simp [Cache.invalidate, Cache.accepts, hstale]
    · have hvalid : c.slot.phase = .valid := by
        simpa [Phase.after, hbypass, hreported] using hphase
      simp [Cache.invalidate, Cache.accepts, hvalid, heq]

/-- What never changes back from one slot to a later one. -/
structure Precedes (s t : Slot) : Prop where
  generation_le : s.generation ≤ t.generation
  contextGeneration_le : s.contextGeneration ≤ t.contextGeneration
  initialized : s.phase ≠ .uninitialized → t.phase ≠ .uninitialized
  stale : s.phase = .stale → t.contextGeneration = s.contextGeneration → t.phase = .stale

theorem Precedes.refl (s : Slot) : s.Precedes s where
  generation_le := Nat.le_refl _
  contextGeneration_le := Nat.le_refl _
  initialized := id
  stale := fun h _ ↦ h

theorem Precedes.trans {s t u : Slot} (hst : s.Precedes t) (htu : t.Precedes u) :
    s.Precedes u where
  generation_le := hst.generation_le.trans htu.generation_le
  contextGeneration_le := hst.contextGeneration_le.trans htu.contextGeneration_le
  initialized := htu.initialized ∘ hst.initialized
  stale := by
    intro hstale heq
    have hle := hst.contextGeneration_le
    have hle' := htu.contextGeneration_le
    have heq' : t.contextGeneration = s.contextGeneration := by omega
    exact htu.stale (hst.stale hstale heq') (by omega)

theorem Precedes.retired {s t : Slot} (h : s.Precedes t) {g : Nat} (hg : s.Retired g) :
    t.Retired g := by
  have hle := h.contextGeneration_le
  rcases hg with hlt | ⟨heq, hstale⟩
  · exact .inl (hlt.trans_le hle)
  · rcases Nat.lt_or_ge s.contextGeneration t.contextGeneration with hlt | hge
    · exact .inl (heq ▸ hlt)
    · have hsame := Nat.le_antisymm hge hle
      exact .inr ⟨heq.trans hsame.symm, h.stale hstale hsame⟩

theorem precedes_withFlag (s : Slot) (flag : Bool) :
    s.Precedes { s with refreshing := flag } where
  generation_le := Nat.le_refl _
  contextGeneration_le := Nat.le_refl _
  initialized := id
  stale := fun h _ ↦ h

theorem precedes_settle {c : Cache} (hle : c.slot.contextGeneration ≤ c.slot.generation)
    (result : Except Provider.Failure Context) (now : Instant) (draw : Nat) :
    c.slot.Precedes (c.settle result now draw).slot := by
  cases result with
  | ok context =>
      refine ⟨?_, ?_, ?_, ?_⟩
      · exact Nat.le_succ _
      · exact hle.trans (Nat.le_succ _)
      · intro _
        cases hbypass : context.bypass <;> simp [Cache.settle, Cache.publish, hbypass]
      · intro _ heq
        have hnew : c.slot.generation + 1 = c.slot.contextGeneration := heq
        omega
  | error failure => exact ⟨Nat.le_succ _, Nat.le_refl _, id, fun h _ ↦ h⟩

theorem precedes_invalidate (c : Cache) (snapshot : Snapshot) :
    c.slot.Precedes (c.invalidate snapshot).slot := by
  cases h : c.accepts snapshot with
  | true =>
      have hslot : (c.invalidate snapshot).slot = { c.slot with phase := .stale } := by
        simp [Cache.invalidate, h]
      rw [hslot]
      exact ⟨Nat.le_refl _, Nat.le_refl _, fun _ ↦ by simp, fun _ _ ↦ rfl⟩
  | false =>
      have hcache : c.invalidate snapshot = c := by simp [Cache.invalidate, h]
      rw [hcache]
      exact .refl _

end Slot

end TileFetch.Auth
