import TileFetch.Proofs.Counting.Invariant

/-!
# A fetch that runs alone

While no other fetch takes a turn, each turn of a fetch brings it nearer to its end: it looks for a
context, waits for the guard, refreshes, asks for its tile, and does all this once more if its
token is rejected.  What it ends with is decided by the number of cycles before it.
-/

namespace TileFetch.Simulation

namespace Trial

open Broker (callOf)
open Serving
open Time (Instant)

/-- The generation with which a fetch first asks for its tile, if `n` cycles ended before it and
none of its own fails. -/
def firstAsk (p : Trial) (n : Nat) : Nat :=
  max n (p.failing + 1)

def cyclesAfter (p : Trial) (n : Nat) : Nat :=
  if n < p.failing then n + 1
  else if p.firstAsk n < p.failing + p.limit then p.firstAsk n + 1
  else p.firstAsk n

/-- What a fetch for a tile ends with that ran alone after `n` cycles. -/
inductive EndsWith (p : Trial) (n : Nat) (request : TileRequest) :
    Except Broker.Fault Image → Prop where
  | refresh (failure : Auth.Handle Provider.Failure) (hn : n < p.failing) :
      EndsWith p n request (.error (.refresh "counting" failure))
  | expired (failure : Provider.Failure) (hn : p.failing ≤ n)
      (hrejected : p.firstAsk n + 1 < p.failing + p.limit) :
      EndsWith p n request (.error (.expired "counting" failure))
  | image (hn : p.failing ≤ n) (haccepted : p.failing + p.limit ≤ p.firstAsk n + 1) :
      EndsWith p n request (.ok (Counts.imageOf p.accepted request))

structure Resting (p : Trial) (n : Nat) (b : Broker.Fetches) : Prop where
  free : b.auth.holder = none
  generation_eq : b.auth.cache.slot.generation = n
  valid_of_lt : p.failing < n → b.auth.cache.slot.phase = .valid

/-- Where fetch `f` is that runs alone after `n` cycles; it ends after at most as many turns as
the last number says. -/
inductive Alone (p : Trial) (f n : Nat) (b : Broker.Fetches) : Nat → Prop where
  | looking (hrest : p.Resting n b) (hfetch : b.fetch f = .seeking none)
      (hcall : b.auth.call (callOf f none) = .looking) : Alone p f n b 8
  | waiting (hfree : b.auth.holder = none) (hgeneration : b.auth.cache.slot.generation = n)
      (hfetch : b.fetch f = .seeking none)
      (hcall : b.auth.call (callOf f none) = .waiting n) (hn : n ≤ p.failing) : Alone p f n b 7
  | leading (seen : Nat) (previous : Auth.Context)
      (hgeneration : b.auth.cache.slot.generation = n) (hfetch : b.fetch f = .seeking none)
      (hcall : b.auth.call (callOf f none) = .leading seen previous) (hn : n ≤ p.failing) :
      Alone p f n b 6
  | asking (x : Auth.Snapshot) (hrest : p.Resting (p.firstAsk n) b)
      (hfetch : b.fetch f = .generating none x) (hx : x.generation = p.firstAsk n)
      (hn : p.failing ≤ n) : Alone p f n b 5
  | lookingAgain (x : Auth.Snapshot) (hfree : b.auth.holder = none)
      (hgeneration : b.auth.cache.slot.generation = p.firstAsk n)
      (hstale : b.auth.cache.slot.phase = .stale) (hfetch : b.fetch f = .seeking (some x))
      (hcall : b.auth.call (callOf f (some x)) = .looking)
      (hn : p.failing ≤ n) (hrejected : p.firstAsk n < p.failing + p.limit) : Alone p f n b 4
  | waitingAgain (x : Auth.Snapshot) (hfree : b.auth.holder = none)
      (hgeneration : b.auth.cache.slot.generation = p.firstAsk n)
      (hfetch : b.fetch f = .seeking (some x))
      (hcall : b.auth.call (callOf f (some x)) = .waiting (p.firstAsk n))
      (hn : p.failing ≤ n) (hrejected : p.firstAsk n < p.failing + p.limit) : Alone p f n b 3
  | leadingAgain (x : Auth.Snapshot) (seen : Nat) (previous : Auth.Context)
      (hgeneration : b.auth.cache.slot.generation = p.firstAsk n)
      (hfetch : b.fetch f = .seeking (some x))
      (hcall : b.auth.call (callOf f (some x)) = .leading seen previous)
      (hn : p.failing ≤ n) (hrejected : p.firstAsk n < p.failing + p.limit) : Alone p f n b 2
  | askingAgain (x y : Auth.Snapshot) (hrest : p.Resting (p.firstAsk n + 1) b)
      (hfetch : b.fetch f = .generating (some x) y) (hy : y.generation = p.firstAsk n + 1)
      (hn : p.failing ≤ n) (hrejected : p.firstAsk n < p.failing + p.limit) : Alone p f n b 1
  | ended (result : Except Broker.Fault Image) (hrest : p.Resting (p.cyclesAfter n) b)
      (hfetch : b.fetch f = .done result) (hends : p.EndsWith n (p.tile f) result) :
      Alone p f n b 0

variable {p : Trial} {s : Serving Counts} {f n : Nat} {event : Broker.Event} {provider : Counts}
  {b t : Broker.Fetches} {marks : List Broker.Mark} {authMarks : List Auth.Mark}
  {want : Option Want} {now : Instant}

namespace Alone

theorem of_look (hs : p.Reached s) (hcounted : p.Counted s) (hrest : p.Resting n s.fetches)
    (hfetch : s.fetches.fetch f = .seeking none)
    (h : Turn s.fetches f (.seek f (.look now)) marks authMarks want t) :
    ∃ k ≤ 7, p.Alone f n t k := by
  have hgeneration := hrest.generation_eq
  rcases h.of_look hfetch with ⟨x, hfresh, hauth, hplace⟩ | ⟨hfresh, hauth, hplace⟩
  · have hx := (Auth.Slot.snapshot?_of_fresh? hfresh).1
    have hlate := (hcounted.tokens.numbered x hx).1
    rw [hcounted.tokens.generation_eq hx, hgeneration] at hlate
    have hfirst : p.firstAsk n = n := by
      unfold firstAsk
      omega
    refine ⟨5, by omega, .asking x ⟨?_, ?_, ?_⟩ hplace ?_ hlate.le⟩
    · rw [hauth]
      exact hrest.free
    · rw [hauth, hfirst]
      exact hgeneration
    · rw [hauth, hfirst]
      exact hrest.valid_of_lt
    · rw [hcounted.tokens.generation_eq hx, hfirst, hgeneration]
  · refine ⟨7, le_rfl, .waiting ?_ ?_ hplace ?_ ?_⟩
    · rw [hauth]
      exact hrest.free
    · rw [hauth]
      exact hgeneration
    · rw [hauth, hgeneration]
      exact Auth.Calls.call_place_self _ _ _
    · by_contra hlate
      have hvalid := hrest.valid_of_lt (Nat.lt_of_not_le hlate)
      obtain ⟨x, hx, -⟩ := hcounted.tokens.fresh?_of_valid hs.refreshAt_eq hvalid now
      simp [hfresh] at hx

theorem of_settle (hs : p.Reached s) (hgeneration : s.fetches.auth.cache.slot.generation = n)
    (hfetch : s.fetches.fetch f = .seeking none) (hn : n ≤ p.failing) {issuedAt : Instant}
    {draw : Nat} {result : Except Provider.Failure Auth.Context} {counts : Counts}
    (hresult : result = (Counts.authenticate p.rules n counts).2)
    (h : Turn s.fetches f (.seek f (.settle result issuedAt draw)) marks authMarks want t) :
    ∃ k ≤ 5, p.Alone f n t k := by
  obtain ⟨hauth, hasks, hends⟩ := h.of_settle hfetch
  rcases hn.lt_or_eq with hlt | rfl
  · obtain ⟨failure, hfailure⟩ := Counts.authenticate_of_lt hlt (c := counts)
    obtain rfl : result = .error failure := by rw [hresult, hfailure]
    have hafter : p.cyclesAfter n = n + 1 := if_pos hlt
    refine ⟨0, by omega, .ended _ ⟨?_, ?_, ?_⟩ (hends failure rfl) ?_⟩
    · rw [hauth]
      rfl
    · rw [hauth, hafter, ← hgeneration]
      rfl
    · rw [hafter]
      omega
    · rw [hs.provider_eq]
      exact .refresh _ hlt
  · have hfirst : p.firstAsk p.failing = p.failing + 1 := by
      unfold firstAsk
      omega
    obtain rfl : result = .ok (Counts.issue (counts.issued + 1)) := by
      rw [hresult, Counts.authenticate_of_le le_rfl]
    refine ⟨5, le_rfl, .asking _ ⟨?_, ?_, ?_⟩ (hasks _ rfl) ?_ le_rfl⟩
    · rw [hauth]
      rfl
    · rw [hauth, hfirst, ← hgeneration]
      rfl
    · intro _
      rw [hauth]
      rfl
    · rw [hfirst, hgeneration]

theorem of_answer (hcounted : p.Counted s)
    (hrest : p.Resting (p.firstAsk n) s.fetches) {x : Auth.Snapshot}
    (hfetch : s.fetches.fetch f = .generating none x) (hx : x.generation = p.firstAsk n)
    (hn : p.failing ≤ n) {result : Except Provider.Failure Image}
    (hresult : result = Counts.reply p.rules x.context.value (p.tile f))
    (h : Turn s.fetches f (.answer f result) marks authMarks want t) :
    ∃ k ≤ 4, p.Alone f n t k := by
  have hlate : p.failing < p.firstAsk n := by
    unfold firstAsk
    omega
  rw [hcounted.reply_eq hfetch, hx] at hresult
  by_cases hrejected : p.firstAsk n < p.failing + p.limit
  · rw [if_pos (by omega)] at hresult
    have hbypass : x.isBypassed = false := by
      rw [Auth.Snapshot.isBypassed, (hcounted.given f none x hfetch).1.2, Counts.bypass_issue]
    rcases h.of_answer hfetch with ⟨-, -, hlast⟩ | ⟨-, -, hauth, hplace⟩
    · have hagain := hlast _ hresult
      simp [Counts.rejection, Provider.Failure.isAuthExpired, hbypass] at hagain
    · have hvalid := hrest.valid_of_lt hlate
      obtain ⟨y, hy, hnumber⟩ := hcounted.tokens.snapshot_of_lt (hrest.generation_eq ▸ hlate)
      have haccepts : s.fetches.auth.cache.accepts x = true := by
        rw [Auth.Cache.accepts_iff]
        refine ⟨hvalid, ?_⟩
        rw [(Auth.Slot.snapshot?_eq_some_iff.mp hy).2, hnumber, hrest.generation_eq, hx]
      refine ⟨4, le_rfl, .lookingAgain x ?_ ?_ ?_ hplace ?_ hn hrejected⟩
      · rw [hauth]
        exact hrest.free
      · rw [hauth, ← hrest.generation_eq]
        simp [Auth.Cache.invalidate, haccepts]
      · rw [hauth]
        simp [Auth.Cache.invalidate, haccepts]
      · rw [hauth]
        exact Auth.Calls.call_place_self _ _ _
  · rw [if_neg (by omega)] at hresult
    have hafter : p.cyclesAfter n = p.firstAsk n := by
      rw [cyclesAfter, if_neg (by omega), if_neg hrejected]
    rcases h.of_answer hfetch with ⟨hauth, hplace, -⟩ | ⟨-, ⟨failure, hfailure⟩, -⟩
    · rw [hresult] at hplace
      refine ⟨0, by omega, .ended _ ⟨?_, ?_, ?_⟩ hplace (.image hn (by omega))⟩
      · rw [hauth]
        exact hrest.free
      · rw [hauth, hafter]
        exact hrest.generation_eq
      · rw [hauth, hafter]
        exact hrest.valid_of_lt
    · simp [hfailure] at hresult

/-! ## The second attempt -/

theorem of_lookAgain (hcounted : p.Counted s) {x : Auth.Snapshot}
    (hfree : s.fetches.auth.holder = none)
    (hgeneration : s.fetches.auth.cache.slot.generation = p.firstAsk n)
    (hstale : s.fetches.auth.cache.slot.phase = .stale)
    (hfetch : s.fetches.fetch f = .seeking (some x)) (hn : p.failing ≤ n)
    (hrejected : p.firstAsk n < p.failing + p.limit)
    (h : Turn s.fetches f (.seek f (.look now)) marks authMarks want t) : p.Alone f n t 3 := by
  rcases h.of_look hfetch with ⟨y, hfresh, -⟩ | ⟨-, hauth, hplace⟩
  · rw [hcounted.tokens.fresh?_of_ne_valid (by simp [hstale])] at hfresh
    simp at hfresh
  · refine .waitingAgain x ?_ ?_ hplace ?_ hn hrejected
    · rw [hauth]
      exact hfree
    · rw [hauth]
      exact hgeneration
    · rw [hauth, ← hgeneration]
      exact Auth.Calls.call_place_self _ _ _

theorem of_settleAgain {x : Auth.Snapshot}
    (hgeneration : s.fetches.auth.cache.slot.generation = p.firstAsk n)
    (hfetch : s.fetches.fetch f = .seeking (some x)) (hn : p.failing ≤ n)
    (hrejected : p.firstAsk n < p.failing + p.limit) {issuedAt : Instant} {draw : Nat}
    {result : Except Provider.Failure Auth.Context} {counts : Counts}
    (hresult : result = (Counts.authenticate p.rules (p.firstAsk n) counts).2)
    (h : Turn s.fetches f (.seek f (.settle result issuedAt draw)) marks authMarks want t) :
    p.Alone f n t 1 := by
  obtain ⟨hauth, hasks, -⟩ := h.of_settle hfetch
  have hlate : p.failing ≤ p.firstAsk n := by
    unfold firstAsk
    omega
  obtain rfl : result = .ok (Counts.issue (counts.issued + 1)) := by
    rw [hresult, Counts.authenticate_of_le hlate]
  refine .askingAgain x _ ⟨?_, ?_, ?_⟩ (hasks _ rfl) ?_ hn hrejected
  · rw [hauth]
    rfl
  · rw [hauth, ← hgeneration]
    rfl
  · intro _
    rw [hauth]
    rfl
  · rw [hgeneration]

theorem of_answerAgain (hs : p.Reached s) (hcounted : p.Counted s)
    (hrest : p.Resting (p.firstAsk n + 1) s.fetches) {x y : Auth.Snapshot}
    (hfetch : s.fetches.fetch f = .generating (some x) y) (hy : y.generation = p.firstAsk n + 1)
    (hn : p.failing ≤ n) (hrejected : p.firstAsk n < p.failing + p.limit)
    {result : Except Provider.Failure Image}
    (hresult : result = Counts.reply p.rules y.context.value (p.tile f))
    (h : Turn s.fetches f (.answer f result) marks authMarks want t) : p.Alone f n t 0 := by
  have hlate : p.failing < p.firstAsk n := by
    unfold firstAsk
    omega
  have hafter : p.cyclesAfter n = p.firstAsk n + 1 := by
    rw [cyclesAfter, if_neg (by omega), if_pos hrejected]
  rcases h.of_answer hfetch with ⟨hauth, hplace, -⟩ | ⟨hnone, -⟩
  · rw [hcounted.reply_eq hfetch, hy] at hresult
    have hends : p.EndsWith n (p.tile f) (result.mapError (.ofFailure s.fetches.provider)) := by
      split_ifs at hresult with hlt
      · rw [hresult, hs.provider_eq]
        exact .expired _ hn (by omega)
      · rw [hresult]
        exact .image hn (by omega)
    refine .ended _ ⟨?_, ?_, ?_⟩ hplace hends
    · rw [hauth]
      exact hrest.free
    · rw [hauth, hafter]
      exact hrest.generation_eq
    · rw [hauth, hafter]
      exact hrest.valid_of_lt
  · simp at hnone

/-! ## Turns and runs -/

theorem offer_context (hs : p.Reached s) (hcounted : p.Counted s)
    {rejected : Option Auth.Snapshot} {seen : Nat} {previous : Auth.Context}
    (hfetch : s.fetches.fetch f = .seeking rejected)
    (hcall : s.fetches.auth.call (callOf f rejected) = .leading seen previous) (r : Reading) :
    ∃ result provider, s.Offer p.setup f r (.turn f r)
        (.seek f (.settle result r.issuedAt r.draw)) provider ∧
      result = (Counts.authenticate p.rules s.fetches.auth.cache.slot.generation s.provider).2 := by
  have hwanted : wanted? s.fetches f = some (.context previous) := by
    simp [wanted?, hfetch, hcall]
  obtain ⟨call, hpending⟩ := (hs.backed f).pending_context hwanted
  obtain ⟨own, overlap, asked, state, -, -, -, -, hbegun⟩ := (hs.backed f).of_context hpending
  have hdelay : call.delay ≠ none := by
    rw [hbegun]
    simp [setup, Service.counting]
  refine ⟨_, _, .context call hpending hdelay, ?_⟩
  rw [hcounted.begun f call hpending]

theorem offer_tile (hs : p.Reached s) {rejected : Option Auth.Snapshot} {x : Auth.Snapshot}
    (hfetch : s.fetches.fetch f = .generating rejected x) (r : Reading) :
    ∃ result provider, s.Offer p.setup f r (.turn f r) (.answer f result) provider ∧
      result = Counts.reply p.rules x.context.value (p.tile f) := by
  have hwanted : wanted? s.fetches f = some (.tile x.context.value) := by simp [wanted?, hfetch]
  obtain ⟨call, hpending⟩ := (hs.backed f).pending_tile hwanted
  obtain ⟨asked, state, own, y, hown, rfl⟩ := (hs.backed f).of_tile hpending
  obtain ⟨-, rfl⟩ : own = rejected ∧ y = x := by simpa [hown] using hfetch
  exact ⟨_, _, .tile _ hpending (by simp [setup, Service.counting]), rfl⟩

theorem turn {k : Nat} (h : p.Alone f n s.fetches k) (hs : p.Reached s) (hcounted : p.Counted s)
    (r : Reading) :
    ∃ k' ≤ k - 1, p.Alone f n (s.step p.setup p.tile (.turn f r)).fetches k' := by
  obtain ⟨past, hpast⟩ := hs.course f
  have hoffered : ∀ event provider, s.Offer p.setup f r (.turn f r) event provider →
      TakesTurn s.fetches f event ∧
        (s.step p.setup p.tile (.turn f r)).fetches = s.fetches.step event := by
    intro event provider hoffer
    exact ⟨hoffer.takesTurn (hs.backed f) hpast, hoffer.fetches_step⟩
  have hidle : wanted? s.fetches f = none → s.pending f = .none := (hs.backed f).pending_none
  cases h with
  | looking hrest hfetch hcall =>
      have hnone := hidle (by simp [wanted?, hfetch, hcall])
      obtain ⟨hturn, hnext⟩ := hoffered _ _ (.look none hnone hfetch hcall)
      rw [hnext]
      exact of_look hs hcounted hrest hfetch hturn
  | waiting hfree hgeneration hfetch hcall hn =>
      have hnone := hidle (by simp [wanted?, hfetch, hcall])
      obtain ⟨hturn, hnext⟩ := hoffered _ _ (.acquire none n hnone hfetch hcall)
      obtain ⟨hauth, hplace⟩ := hturn.of_acquire hfetch (hgeneration ▸ hcall) hfree
      rw [hnext]
      refine ⟨6, le_rfl, .leading s.fetches.auth.cache.slot.generation
        s.fetches.auth.cache.slot.previous ?_ hplace ?_ hn⟩
      · rw [hauth]
        exact hgeneration
      · rw [hauth]
        exact Auth.Calls.call_place_self _ _ _
  | leading seen previous hgeneration hfetch hcall hn =>
      obtain ⟨result, provider, hoffer, hresult⟩ := offer_context hs hcounted hfetch hcall r
      obtain ⟨hturn, hnext⟩ := hoffered _ _ hoffer
      rw [hnext]
      exact of_settle hs hgeneration hfetch hn (hgeneration ▸ hresult) hturn
  | asking x hrest hfetch hx hn =>
      obtain ⟨result, provider, hoffer, hresult⟩ := offer_tile hs hfetch r
      obtain ⟨hturn, hnext⟩ := hoffered _ _ hoffer
      rw [hnext]
      exact of_answer hcounted hrest hfetch hx hn hresult hturn
  | lookingAgain x hfree hgeneration hstale hfetch hcall hn hrejected =>
      have hnone := hidle (by simp [wanted?, hfetch, hcall])
      obtain ⟨hturn, hnext⟩ := hoffered _ _ (.look (some x) hnone hfetch hcall)
      rw [hnext]
      exact ⟨3, le_rfl, of_lookAgain hcounted hfree hgeneration hstale hfetch hn hrejected hturn⟩
  | waitingAgain x hfree hgeneration hfetch hcall hn hrejected =>
      have hnone := hidle (by simp [wanted?, hfetch, hcall])
      obtain ⟨hturn, hnext⟩ := hoffered _ _ (.acquire (some x) _ hnone hfetch hcall)
      obtain ⟨hauth, hplace⟩ := hturn.of_acquire hfetch (hgeneration ▸ hcall) hfree
      rw [hnext]
      refine ⟨2, le_rfl, .leadingAgain x s.fetches.auth.cache.slot.generation
        s.fetches.auth.cache.slot.previous ?_ hplace ?_ hn hrejected⟩
      · rw [hauth]
        exact hgeneration
      · rw [hauth]
        exact Auth.Calls.call_place_self _ _ _
  | leadingAgain x seen previous hgeneration hfetch hcall hn hrejected =>
      obtain ⟨result, provider, hoffer, hresult⟩ := offer_context hs hcounted hfetch hcall r
      obtain ⟨hturn, hnext⟩ := hoffered _ _ hoffer
      rw [hnext]
      exact ⟨1, le_rfl,
        of_settleAgain hgeneration hfetch hn hrejected (hgeneration ▸ hresult) hturn⟩
  | askingAgain x y hrest hfetch hy hn hrejected =>
      obtain ⟨result, provider, hoffer, hresult⟩ := offer_tile hs hfetch r
      obtain ⟨hturn, hnext⟩ := hoffered _ _ hoffer
      rw [hnext]
      exact ⟨0, le_rfl, of_answerAgain hs hcounted hrest hfetch hy hn hrejected hresult hturn⟩
  | ended result hrest hfetch hends =>
      have hnone := hidle (by simp [wanted?, hfetch])
      have hsame : s.step p.setup p.tile (.turn f r) = s := by
        simp [step, next?, hnone, hfetch]
      rw [hsame]
      exact ⟨0, le_rfl, .ended result hrest hfetch hends⟩

end Alone

end Trial

end TileFetch.Simulation
