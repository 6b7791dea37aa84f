import TileFetch.Proofs.Auth.Demand
import TileFetch.Proofs.Auth.SharedFailure
import TileFetch.Proofs.Auth.SingleFlight

/-!
# How often a call looks again

A call that gets the guard looks again when a cycle has ended since it looked and left neither a
context nor a failure to share.  Then that cycle published a context, against which a report was
accepted while the call waited: no report is against a generation that is still to come.  So each
time a call looks again it has used up one more report.
-/

namespace TileFetch.Auth

open Time (Instant)

section Reflects

variable {s : Slot} {outcomes : List Outcome} {reported : List Nat}

theorem Slot.Reflects.mem_reported (h : s.Reflects outcomes reported) {snapshot : Snapshot}
    (hs : s.snapshot? = some snapshot) (hphase : s.phase = .stale) :
    snapshot.generation ∈ reported := by
  by_contra hnot
  have hsame := h.phase_eq
  rw [hs, hphase, Phase.after] at hsame
  split_ifs at hsame

/-- If cycles have ended and there is neither a context nor a failure to share, then the last
cycle published a context that was reported. -/
theorem Slot.Reflects.stale_of_not_shared (h : s.Reflects outcomes reported)
    (hne : outcomes ≠ []) (hlatest : s.latest? = none) (hfailure : s.latestFailure? = none) :
    ∃ snapshot, outcomes.getLast? = some (.ok snapshot) ∧ s.snapshot? = some snapshot ∧
      s.contextGeneration = s.generation ∧ s.lastFailure = none ∧ s.phase = .stale := by
  obtain ⟨last, hlast⟩ := Option.ne_none_iff_exists'.mp (mt List.getLast?_eq_none_iff.mp hne)
  have hfollows := h.follows
  rw [hlast] at hfollows
  cases last with
  | error failure => simp [latestFailure?, hfollows.1] at hfailure
  | ok snapshot =>
      obtain ⟨hs, hgeneration, hnone⟩ := hfollows
      refine ⟨snapshot, hlast, hs, hgeneration, hnone, ?_⟩
      cases hphase : s.phase with
      | uninitialized =>
          have hcontext := h.phase_eq_uninitialized_iff.mp hphase
          simp [snapshot?, hcontext] at hs
      | valid | bypassed => simp [latest?, hphase, hgeneration, hs] at hlatest
      | stale => rfl

end Reflects

def wait (c : Nat) (late : List Mark) : List Mark :=
  late.takeWhile (·.call? ≠ some c)

theorem wait_of_forall {c : Nat} {late : List Mark} (h : ∀ m ∈ late, m.call? ≠ some c) :
    wait c late = late := by
  apply List.takeWhile_eq_self_iff.mpr
  intro m hm
  exact decide_eq_true (h m hm)

theorem acceptances_wait_of_append {c : Nat} {late more : List Mark}
    (h : acceptances (wait c (late ++ more)) = []) : acceptances (wait c late) = [] := by
  unfold wait at h ⊢
  rw [List.takeWhile_append] at h
  split_ifs at h with hall
  · rw [acceptances_append, List.append_eq_nil_iff] at h
    rw [(List.takeWhile_prefix _).eq_of_length hall]
    exact h.1
  · exact h

theorem acceptances_since_subset (c : Nat) (log more : List Mark) :
    acceptances (since c log) ⊆ acceptances (since c (log ++ more)) := by
  induction log with
  | nil => exact List.nil_subset _
  | cons m log ih =>
      cases m with
      | began d =>
          by_cases hd : d = c
          · simp [since, hd]
          · simpa [since, hd] using ih
      | _ => exact ih

namespace Calls

variable {s t : Calls} {log early late : List Mark} {e : Event} {m : Option Mark} {c seen : Nat}

/-! ## Why a call looks again -/

/-- The context of the last cycle, which was published after there were `seen` cycles, has been
reported. -/
structure Withdrawn (s : Calls) (log : List Mark) (seen : Nat) (snapshot : Snapshot) : Prop where
  getLast?_eq : (cycles log).getLast? = some (.ok snapshot)
  lastFailure_eq : s.cache.slot.lastFailure = none
  peek_eq : s.cache.peek = some snapshot
  phase_eq : s.cache.slot.phase = .stale
  generation_eq : snapshot.generation = s.cache.slot.generation
  lt : seen < snapshot.generation
  reported : snapshot.generation ∈ acceptances log

theorem Move.of_retried (h : s.Move e (some (.retried c)) t) :
    ∃ now seen, e = .step c (.acquire now) ∧ s.call c = .waiting seen ∧
      s.cache.slot.generation ≠ seen ∧ s.cache.slot.latest? = none ∧
      s.cache.slot.latestFailure? = none ∧ t = s.place c .looking := by
  cases h with
  | again c now seen hcall hfree hseen hcontext hfailure =>
      obtain ⟨-, hlatest⟩ := Option.or_eq_none_iff.mp hcontext
      exact ⟨now, seen, rfl, hcall, hseen, hlatest, hfailure, rfl⟩

theorem move_again (hcall : s.call c = .waiting seen) (hfree : s.holder = none) {now : Instant}
    (hturn : s.cache.turn seen now = .again) :
    s.Move (.step c (.acquire now)) (some (.retried c)) (s.place c .looking) := by
  unfold Cache.turn at hturn
  split_ifs at hturn with hseen
  cases hcontext : (s.cache.slot.fresh? now).or s.cache.slot.latest? with
  | some snapshot => simp [hcontext] at hturn
  | none =>
      cases hfailure : s.cache.slot.latestFailure? with
      | some failure => simp [hcontext, hfailure] at hturn
      | none => exact .again c now seen hcall hfree hseen hcontext hfailure

theorem Consistent.withdrawn (h : s.Consistent log) (hmove : s.Move e (some (.retried c)) t)
    (hcall : s.call c = .waiting seen) : ∃ snapshot, s.Withdrawn log seen snapshot := by
  obtain ⟨now, read, -, hread, hseen, hlatest, hfailure, -⟩ := hmove.of_retried
  obtain rfl : read = seen := Call.waiting.inj (hread.symm.trans hcall)
  have hlt : read < s.cache.slot.generation :=
    lt_of_le_of_ne (h.seen_le hcall) (Ne.symm hseen)
  have hne : cycles log ≠ [] := by
    apply List.ne_nil_of_length_pos
    rw [← h.slot.generation_eq]
    omega
  obtain ⟨snapshot, hlast, hs, hlatest, hnone, hphase⟩ :=
    h.slot.stale_of_not_shared hne hlatest hfailure
  have hgeneration : snapshot.generation = s.cache.slot.generation :=
    (Slot.snapshot?_eq_some_iff.mp hs).2.symm.trans hlatest
  exact ⟨snapshot, hlast, hnone, hs, hphase, hgeneration, hgeneration ▸ hlt,
    h.slot.mem_reported hs hphase⟩

/-! ## The log since some moment -/

theorem Consistent.accepted_le (h : s.Consistent log) : ∀ g ∈ acceptances log,
    g ≤ (cycles log).length := by
  intro g hg
  rw [← h.slot.generation_eq]
  exact (h.slot.reported_le g hg).trans h.slot.follows.contextGeneration_le

theorem mem_acceptances_of_lt (policy : Policy) (events : List Event)
    (hlog : (initial policy).log events = early ++ late) {g : Nat}
    (hg : g ∈ acceptances ((initial policy).log events)) (hlt : (cycles early).length < g) :
    g ∈ acceptances late := by
  have hearly : g ∉ acceptances early := by
    intro hmem
    have hle : g ≤ (cycles early).length := by
      cases late with
      | nil =>
          rw [List.append_nil] at hlog
          exact hlog ▸ (consistent_run policy events).accepted_le g hg
      | cons m late =>
          obtain ⟨before, e, after, -, rfl, -⟩ := exists_step_of_log hlog
          exact (consistent_run policy before).accepted_le g hmem
    omega
  rw [hlog, acceptances_append, List.mem_append] at hg
  exact hg.resolve_left hearly

theorem Move.eq_of_missed (h : s.Move e (some (.missed c seen)) t) :
    s.cache.slot.generation = seen := by
  cases h with
  | miss c now hcall => rfl

/-- The context whose report makes a call look again was published and reported while the call
waited. -/
theorem Withdrawn.while_waiting {policy : Policy} {events : List Event} {snapshot : Snapshot}
    (h : ((initial policy).run events).Withdrawn ((initial policy).log events) seen snapshot)
    (hlog : (initial policy).log events = early ++ .missed c seen :: late) :
    .ok snapshot ∈ cycles late ∧ snapshot.generation ∈ acceptances late := by
  obtain ⟨before, e, after, -, rfl, hmark, -⟩ := exists_step_of_log hlog
  have hmove := move_step ((initial policy).run before) e
  rw [hmark] at hmove
  have hread : (cycles ((initial policy).log before)).length = seen := by
    rw [← (consistent_run policy before).slot.generation_eq]
    exact hmove.eq_of_missed
  refine ⟨?_, ?_⟩
  · have hcycles : cycles ((initial policy).log events) =
        cycles ((initial policy).log before) ++ cycles late := by
      rw [hlog, cycles_append]
      rfl
    have hne : cycles late ≠ [] := by
      intro hnil
      have hcount := (consistent_run policy events).slot.generation_eq
      rw [hcycles, hnil, List.append_nil, hread] at hcount
      have hnew := h.lt
      rw [h.generation_eq] at hnew
      omega
    apply List.mem_of_getLast?
    rw [← h.getLast?_eq, hcycles, List.getLast?_append_of_ne_nil _ hne]
  · rw [List.append_cons] at hlog
    apply mem_acceptances_of_lt policy events hlog h.reported
    simpa [hread, Mark.cycle?] using h.lt

theorem exists_withdrawn (policy : Policy) (events : List Event)
    (hmark : ((initial policy).run events).mark? e = some (.retried c)) :
    ∃ seen snapshot, ((initial policy).run events).call c = .waiting seen ∧
      ((initial policy).run events).Withdrawn ((initial policy).log events) seen snapshot := by
  have hmove := move_step ((initial policy).run events) e
  rw [hmark] at hmove
  obtain ⟨now, seen, -, hcall, -⟩ := hmove.of_retried
  obtain ⟨snapshot, hwithdrawn⟩ := (consistent_run policy events).withdrawn hmove hcall
  exact ⟨seen, snapshot, hcall, hwithdrawn⟩

/-! ## One round -/

theorem Move.next_of_waiting (h : s.Move e m t) (hcall : s.call c = .waiting seen) :
    (∀ mark ∈ m, mark.call? ≠ some c) ∨ m = some (.retried c) ∨
      (∃ previous, t.call c = .leading seen previous) ∨ t.call c = .dropped ∨ t.Returned c := by
  refine or_iff_not_imp_left.mpr ?_
  intro hown
  push Not at hown
  obtain ⟨mark, hmark, hc⟩ := hown
  cases h with
  | idle => simp at hmark
  | accept =>
      obtain rfl := Option.mem_some_iff.mp hmark
      simp [Mark.call?] at hc
  | _ =>
      obtain rfl := Option.mem_some_iff.mp hmark
      obtain rfl := Option.some.inj hc
      simp_all [Calls.lead, Returned]

theorem Move.next_of_leading (h : s.Move e m t) {previous : Context}
    (hcall : s.call c = .leading seen previous) :
    t.call c = .leading seen previous ∨ t.call c = .dropped ∨ t.Returned c := by
  by_cases hsame : t.call c = s.call c
  · exact .inl (hsame.trans hcall)
  · obtain ⟨mark, hmark, hc⟩ := h.exists_mark hsame
    cases h with
    | idle => simp at hmark
    | accept =>
        obtain rfl := Option.mem_some_iff.mp hmark
        simp [Mark.call?] at hc
    | _ =>
        obtain rfl := Option.mem_some_iff.mp hmark
        obtain rfl := Option.some.inj hc
        simp_all [conclude, Calls.giveUp, Returned]

/-- How far a call has come since it looked and remembered `seen`; `late` is the log since then. -/
inductive Round (s : Calls) (c seen : Nat) (late : List Mark) : Prop where
  | waiting (hcall : s.call c = .waiting seen) (hown : ∀ m ∈ late, m.call? ≠ some c)
  | leading (previous : Context) (hcall : s.call c = .leading seen previous)
  | finished (hcall : s.call c = .dropped ∨ s.Returned c)

/-- Unless it looks again, a call goes on within its round. -/
theorem Round.move (h : Round s c seen late) (hmove : s.Move e m t) (hm : m ≠ some (.retried c)) :
    Round t c seen (late ++ m.toList) := by
  cases h with
  | waiting hcall hown =>
      rcases hmove.next_of_waiting hcall with hother | hretried | ⟨previous, hleading⟩ | hover
      · refine .waiting ((hmove.call_eq hother).trans hcall) ?_
        intro mark hmem
        rcases List.mem_append.mp hmem with hmem | hmem
        · exact hown mark hmem
        · exact hother mark (Option.mem_toList.mp hmem)
      · exact (hm hretried).elim
      · exact .leading previous hleading
      · exact .finished hover
  | leading previous hcall =>
      rcases hmove.next_of_leading hcall with hleading | hover
      · exact .leading previous hleading
      · exact .finished hover
  | finished hcall =>
      apply Round.finished
      rwa [Returned, hmove.call_eq_of_over hcall]

theorem Move.waiting_of_missed (h : s.Move e (some (.missed c seen)) t) :
    t.call c = .waiting seen := by
  cases h with
  | miss c now hcall => exact call_place_self s c _

/-- A call whose wait sees no report does not look again. -/
theorem Round.not_retried {policy : Policy} {events : List Event}
    (h : Round ((initial policy).run events) c seen late)
    (hlog : (initial policy).log events = early ++ .missed c seen :: late)
    (hquiet : acceptances (wait c late) = []) (hmove : ((initial policy).run events).Move e m t) :
    m ≠ some (.retried c) := by
  rintro rfl
  cases h with
  | waiting hcall hown =>
      obtain ⟨snapshot, hwithdrawn⟩ := (consistent_run policy events).withdrawn hmove hcall
      have hreported := (hwithdrawn.while_waiting hlog).2
      rw [wait_of_forall hown] at hquiet
      rw [hquiet] at hreported
      exact List.not_mem_nil hreported
  | leading previous hcall =>
      obtain ⟨_, read, -, hwaiting, -⟩ := hmove.of_retried
      simp [hcall] at hwaiting
  | finished hcall =>
      obtain ⟨_, read, -, hwaiting, -⟩ := hmove.of_retried
      simp [hwaiting, Returned] at hcall

theorem round_run (policy : Policy) (past after : List Event)
    (hlog : (initial policy).log past = early ++ [.missed c seen])
    (hcall : ((initial policy).run past).call c = .waiting seen)
    (hquiet : acceptances (wait c (((initial policy).run past).log after)) = []) :
    .retried c ∉ ((initial policy).run past).log after ∧
      Round ((initial policy).run (past ++ after)) c seen
        (((initial policy).run past).log after) := by
  -- By induction on the steps since the call looked.
  induction after using List.reverseRecOn with
  | nil =>
      rw [List.append_nil]
      exact ⟨List.not_mem_nil, .waiting hcall (by simp)⟩
  | append_singleton after e ih =>
      rw [log_concat, ← run_append] at hquiet ⊢
      rw [← List.append_assoc, run_concat]
      have hearlier := acceptances_wait_of_append hquiet
      obtain ⟨hnever, hround⟩ := ih hearlier
      have hmove := move_step ((initial policy).run (past ++ after)) e
      have hsplit := log_append (initial policy) past after
      rw [hlog, List.append_assoc, List.singleton_append] at hsplit
      have hnow := hround.not_retried hsplit hearlier hmove
      refine ⟨?_, hround.move hmove hnow⟩
      intro hmem
      rcases List.mem_append.mp hmem with hmem | hmem
      · exact hnever hmem
      · exact hnow (Option.mem_toList.mp hmem)

/-- A round in which a call does not look again.  If it waits, another call holds the guard, or it
returns or begins to refresh once it gets the guard; if it refreshes, it returns when its refresh
ends. -/
inductive LastRound (s : Calls) (c seen : Nat) : Prop where
  | waiting (hcall : s.call c = .waiting seen)
      (hnext : (∃ d, s.Refreshes d) ∨ ∀ now, (s.acquire c now).Returned c ∨
        ∃ previous, (s.acquire c now).call c = .leading seen previous)
  | leading (previous : Context) (hcall : s.call c = .leading seen previous)
      (hnext : ∀ result now draw, (s.settle c result now draw).Returned c)
  | finished (hcall : s.call c = .dropped ∨ s.Returned c)

theorem lastRound_of_quiet (policy : Policy) (events : List Event)
    (hlog : (initial policy).log events = early ++ .missed c seen :: late)
    (hquiet : acceptances (wait c late) = []) :
    .retried c ∉ late ∧ LastRound ((initial policy).run events) c seen := by
  obtain ⟨before, e, after, hevents, hearly, hmark, rfl⟩ := exists_step_of_log hlog
  have hmissed := move_step ((initial policy).run before) e
  rw [hmark, ← run_concat] at hmissed
  have hpast : (initial policy).log (before ++ [e]) = early ++ [.missed c seen] := by
    rw [log_concat, hearly, hmark]
    rfl
  obtain ⟨hnever, hround⟩ :=
    round_run policy (before ++ [e]) after hpast hmissed.waiting_of_missed hquiet
  rw [List.append_cons] at hevents
  rw [← hevents] at hround
  refine ⟨hnever, ?_⟩
  have h := consistent_run policy events
  cases hround with
  | finished hcall => exact .finished hcall
  | leading previous hcall =>
      refine .leading previous hcall ?_
      intro result now draw
      exact ⟨_, by simp [settle, hcall]; rfl⟩
  | waiting hcall hown =>
      refine .waiting hcall ?_
      cases hholder : ((initial policy).run events).holder with
      | some d => exact .inl ⟨d, (h.holder_eq_some_iff d).mp hholder⟩
      | none =>
          right
          apply acquire_live hholder hcall
          intro now hturn
          have hagain := move_again hcall hholder hturn
          exact (Round.waiting hcall hown).not_retried hlog hquiet hagain rfl

/-! ## All rounds of a call -/

def retriedAt? (s : Calls) (c : Nat) (e : Event) : Option Nat :=
  match s.mark? e with
  | some (.retried d) => if d = c then some s.cache.slot.generation else none
  | _ => none

/-- The generations of the slot each time call `c` looks again. -/
def retries (c : Nat) : Calls → List Event → List Nat
  | _, [] => []
  | s, e :: events => (s.retriedAt? c e).toList ++ retries c (s.step e) events

theorem retriedAt?_eq_some_iff {g : Nat} :
    s.retriedAt? c e = some g ↔ s.mark? e = some (.retried c) ∧ s.cache.slot.generation = g := by
  unfold retriedAt?
  cases hmark : s.mark? e with
  | none => simp
  | some m =>
      cases m with
      | retried d => by_cases hd : d = c <;> simp [hd]
      | _ => simp

theorem retries_concat (c : Nat) (s : Calls) (events : List Event) (e : Event) :
    retries c s (events ++ [e]) = retries c s events ++ ((s.run events).retriedAt? c e).toList := by
  induction events generalizing s with
  | nil => simp [retries]
  | cons d events ih => simp [retries, ih]

/-- The generation that a call remembers is never older than one at which it looked again. -/
theorem le_of_mem_retries (policy : Policy) (events : List Event) {g : Nat}
    (hg : g ∈ retries c (initial policy) events) :
    g ≤ ((initial policy).run events).cache.slot.generation ∧
      ∀ seen, ((initial policy).run events).call c = .waiting seen → g ≤ seen := by
  induction events using List.reverseRecOn with
  | nil => simp [retries] at hg
  | append_singleton events e ih =>
      have hmove := move_step ((initial policy).run events) e
      have hgrows := generation_le_step ((initial policy).run events) e
      rw [retries_concat, List.mem_append] at hg
      rw [run_concat]
      rcases hg with hearlier | hnow
      · obtain ⟨hle, hseen⟩ := ih hearlier
        refine ⟨hle.trans hgrows, ?_⟩
        intro seen hwaiting
        rcases hmove.of_waiting hwaiting with hsame | ⟨now, -, -, -, -, rfl, -⟩
        · exact hseen seen hsame
        · exact hle
      · obtain ⟨hmark, rfl⟩ := retriedAt?_eq_some_iff.mp (Option.mem_toList.mp hnow)
        refine ⟨hgrows, ?_⟩
        intro seen hwaiting
        rw [hmark] at hmove
        obtain ⟨now, read, -, -, -, -, -, hplace⟩ := hmove.of_retried
        simp [hplace] at hwaiting

theorem retries_pairwise (policy : Policy) (events : List Event) (c : Nat) :
    (retries c (initial policy) events).Pairwise (· < ·) := by
  induction events using List.reverseRecOn with
  | nil => exact .nil
  | append_singleton events e ih =>
      rw [retries_concat]
      refine List.pairwise_append.mpr ⟨ih, ?_, ?_⟩
      · cases ((initial policy).run events).retriedAt? c e <;> simp
      · intro earlier hearlier g hg
        obtain ⟨hmark, rfl⟩ := retriedAt?_eq_some_iff.mp (Option.mem_toList.mp hg)
        obtain ⟨seen, snapshot, hcall, hwithdrawn⟩ := exists_withdrawn policy events hmark
        calc earlier ≤ seen := (le_of_mem_retries policy events hearlier).2 seen hcall
          _ < snapshot.generation := hwithdrawn.lt
          _ = ((initial policy).run events).cache.slot.generation := hwithdrawn.generation_eq

/-- The report because of which a call looks again was accepted after the call began. -/
theorem Withdrawn.since_began {policy : Policy} {events : List Event} {snapshot : Snapshot}
    (h : ((initial policy).run events).Withdrawn ((initial policy).log events) seen snapshot)
    (hcall : ((initial policy).run events).call c = .waiting seen) :
    snapshot.generation ∈ acceptances (since c ((initial policy).log events)) := by
  have hfits := (consistent_run policy events).fits c
  rw [hcall] at hfits
  obtain ⟨-, -, -, hsince⟩ := hfits
  obtain ⟨past, hpast⟩ := since_suffix c ((initial policy).log events)
  apply mem_acceptances_of_lt policy events hpast.symm h.reported
  have hlt := h.lt
  have hcount : (cycles ((initial policy).log events)).length =
      (cycles past).length + (cycles (since c ((initial policy).log events))).length := by
    rw [← List.length_append, ← cycles_append, hpast]
  omega

theorem retries_subset (policy : Policy) (events : List Event) (c : Nat) :
    retries c (initial policy) events ⊆ acceptances (since c ((initial policy).log events)) := by
  induction events using List.reverseRecOn with
  | nil => exact List.nil_subset _
  | append_singleton events e ih =>
      intro g hg
      rw [retries_concat, List.mem_append] at hg
      rw [log_concat]
      apply acceptances_since_subset
      rcases hg with hearlier | hnow
      · exact ih hearlier
      · obtain ⟨hmark, rfl⟩ := retriedAt?_eq_some_iff.mp (Option.mem_toList.mp hnow)
        obtain ⟨seen, snapshot, hcall, hwithdrawn⟩ := exists_withdrawn policy events hmark
        rw [← hwithdrawn.generation_eq]
        exact hwithdrawn.since_began hcall

/-- A call that looks again makes progress.  Whenever it does, the last cycle did not fail: it
published a context that is newer than what the call had seen, and that context was published and
reported while the call waited.  So the generations at which one call looks again increase, a
report has been accepted against each of them since the call began, and there are no more of them
than such reports.  A call whose wait sees no report does not look again. -/
theorem looks_again_only_after_report (policy : Policy) (events : List Event) (c : Nat) :
    let s := (initial policy).run events
    let log := (initial policy).log events
    (∀ e, s.mark? e = some (.retried c) →
      ∃ seen snapshot, s.call c = .waiting seen ∧ s.Withdrawn log seen snapshot ∧
        ∃ early late, log = early ++ .missed c seen :: late ∧ (∀ g, .missed c g ∉ late) ∧
          .ok snapshot ∈ cycles late ∧ snapshot.generation ∈ acceptances late) ∧
      (retries c (initial policy) events).Pairwise (· < ·) ∧
      retries c (initial policy) events ⊆ acceptances (since c log) ∧
      (retries c (initial policy) events).length ≤ (acceptances (since c log)).length ∧
      ∀ early seen late, log = early ++ .missed c seen :: late →
        acceptances (wait c late) = [] → .retried c ∉ late ∧ s.LastRound c seen := by
  intro s log
  have hpairwise := retries_pairwise policy events c
  have hsubset := retries_subset policy events c
  refine ⟨?_, hpairwise, hsubset, ?_, ?_⟩
  · intro e hmark
    obtain ⟨seen, snapshot, hcall, hwithdrawn⟩ := exists_withdrawn policy events hmark
    obtain ⟨early, late, hlog, hlast, -⟩ := exists_missed policy events hcall
    exact ⟨seen, snapshot, hcall, hwithdrawn, early, late, hlog, hlast,
      hwithdrawn.while_waiting hlog⟩
  · exact (List.subperm_of_subset (hpairwise.imp Nat.ne_of_lt) hsubset).length_le
  · intro early seen late hlog hquiet
    exact lastRound_of_quiet policy events hlog hquiet

/-- Two calls wait, and the context that one of them publishes is reported before the other gets
the guard. -/
def reportedMeanwhile : List Event :=
  [.start 0, .start 1, .step 0 (.look (moment 0)), .step 1 (.look (moment 0)),
    .step 0 (.acquire (moment 1)), .step 0 (.settle (.ok (.ofToken "key")) (moment 2) 0),
    .invalidate ⟨1, ⟨0, .ofToken "key"⟩⟩]

def secondRound : List Event :=
  [.step 1 (.acquire (moment 3)), .step 1 (.look (moment 4)), .step 1 (.acquire (moment 5))]

/-- The other call looks again, and refreshes in its second round. -/
theorem looks_again_once :
    let past := (initial .reactive).log reportedMeanwhile
    let s := (initial .reactive).run reportedMeanwhile
    let log := (initial .reactive).log (reportedMeanwhile ++ secondRound)
    let t := (initial .reactive).run (reportedMeanwhile ++ secondRound)
    s.mark? (.step 1 (.acquire (moment 3))) = some (.retried 1) ∧
      (∃ snapshot, s.Withdrawn past 0 snapshot) ∧
      retries 1 (initial .reactive) (reportedMeanwhile ++ secondRound) = [1] ∧
      acceptances (since 1 log) = [1] ∧ t.call 1 = .leading 1 (.ofToken "key") ∧
      t.LastRound 1 1 := by
  intro past s log t
  have hmark : s.mark? (.step 1 (.acquire (moment 3))) = some (.retried 1) := rfl
  have hwaiting : s.call 1 = .waiting 0 := rfl
  obtain ⟨hagain, -⟩ := looks_again_only_after_report .reactive reportedMeanwhile 1
  obtain ⟨seen, snapshot, hcall, hwithdrawn, -⟩ := hagain _ hmark
  obtain rfl : 0 = seen := Call.waiting.inj (hwaiting.symm.trans hcall)
  have hlog : log = (initial .reactive).log (reportedMeanwhile ++ secondRound.take 1) ++
      .missed 1 1 :: [.invoked 1 (.ofToken "key")] := rfl
  obtain ⟨-, -, -, -, hlast⟩ :=
    looks_again_only_after_report .reactive (reportedMeanwhile ++ secondRound) 1
  obtain ⟨-, hround⟩ := hlast _ 1 _ hlog rfl
  exact ⟨hmark, ⟨snapshot, hwithdrawn⟩, rfl, rfl, rfl, hround⟩

end Calls

end TileFetch.Auth
