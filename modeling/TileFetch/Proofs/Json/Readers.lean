import TileFetch.Json.Decoder
import TileFetch.Proofs.Json.Grammar

/-!
# What readers pass over

A reader that succeeds yields a value and a place.  Lines and columns are of no account for that:
`Reads` says what it yields and which bytes it leaves.  The equations for the ways in which
readers are put together open a reader step by step.
-/

namespace TileFetch.Json

namespace Cursor

variable (c : Cursor)

@[simp] theorem rest_start (bytes : List UInt8) : (start bytes).rest = bytes := rfl

@[simp] theorem rest_advance : c.advance.rest = c.rest.tail := by
  unfold advance
  split
  · rename_i h
    rw [h]
    rfl
  · rename_i h
    rw [h]
    split <;> rfl

@[simp] theorem rest_skip (n : Nat) : (c.skip n).rest = c.rest.drop n := by
  induction n generalizing c with
  | zero => rfl
  | succ n ih => rw [skip, ih, rest_advance, List.drop_tail]

end Cursor

namespace Reader

variable {α β : Type} {r s : Reader α} {f : α → Reader β} {a a' : α} {b : β} {c mid : Cursor}
  {rest left : List UInt8}

/-- The reader yields a value and leaves the bytes `rest`. -/
def Reads (r : Reader α) (c : Cursor) (a : α) (rest : List UInt8) : Prop :=
  ∃ c', r c = (.ok a, c') ∧ c'.rest = rest

/-! ## Readers that are put together -/

theorem bind_eq (h : r c = (.ok a, mid)) : (r >>= f) c = f a mid := by
  simp only [bind, h]

theorem bind_eq_error {fault : Fault} (h : r c = (.error fault, mid)) :
    (r >>= f) c = (.error fault, mid) := by
  simp only [bind, h]

theorem reads_bind_of_eq (h : r c = (.ok a, mid)) :
    (r >>= f).Reads c b rest ↔ (f a).Reads mid b rest := by
  rw [Reads, Reads, bind_eq h]

theorem Reads.of_bind (h : (r >>= f).Reads c b rest) :
    ∃ a mid, r.Reads c a mid.rest ∧ (f a).Reads mid b rest := by
  obtain ⟨c', hbind, hrest⟩ := h
  rcases hr : r c with ⟨fault | a, mid⟩
  · simp [bind_eq_error hr] at hbind
  · rw [bind_eq hr] at hbind
    exact ⟨a, mid, ⟨mid, hr, rfl⟩, c', hbind, hrest⟩

theorem Reads.bind (h : r.Reads c a left)
    (hf : ∀ mid : Cursor, mid.rest = left → (f a).Reads mid b rest) :
    (r >>= f).Reads c b rest := by
  obtain ⟨mid, hmid, hleft⟩ := h
  exact (reads_bind_of_eq hmid).mpr (hf mid hleft)

@[simp] theorem reads_pure : (pure a : Reader α).Reads c a' rest ↔ a' = a ∧ c.rest = rest := by
  change (∃ c', (Except.ok a, c) = (Except.ok a', c') ∧ c'.rest = rest) ↔ _
  constructor
  · rintro ⟨c', heq, hrest⟩
    obtain ⟨ha, rfl⟩ := Prod.mk.inj heq
    exact ⟨(Except.ok.inj ha).symm, hrest⟩
  · rintro ⟨rfl, hrest⟩
    exact ⟨c, rfl, hrest⟩

@[simp] theorem reads_ite {p : Prop} [Decidable p] : (if p then r else s).Reads c a rest ↔
    if p then r.Reads c a rest else s.Reads c a rest := by
  split_ifs <;> rfl

@[simp] theorem not_reads_fail {fault : Fault} : ¬ (fail fault : Reader α).Reads c a rest := by
  simp [Reads, fail]

@[simp] theorem not_reads_refuse {cause : Cause} : ¬ (refuse cause : Reader α).Reads c a rest :=
  not_reads_fail

@[simp] theorem not_reads_failHere {fault : SyntaxFault} :
    ¬ (failHere fault : Reader α).Reads c a rest := by
  simp [Reads, failHere]

@[simp] theorem not_reads_failNext {fault : SyntaxFault} :
    ¬ (failNext fault : Reader α).Reads c a rest := by
  simp [Reads, failNext]

@[simp] theorem reads_placed : (placed r).Reads c a rest ↔ r.Reads c a rest := by
  unfold placed Reads
  rcases hr : r c with ⟨_ | a, mid⟩ <;> simp [hr]

@[simp] theorem reads_inside {step : Step} :
    (inside step r).Reads c a rest ↔ r.Reads c a rest := by
  unfold inside Reads
  rcases hr : r c with ⟨_ | a, mid⟩ <;> simp [hr]

@[simp] theorem reads_ofExcept {outcome : Except Fault α} :
    (ofExcept outcome).Reads c a rest ↔ outcome = .ok a ∧ c.rest = rest := by
  simp [Reads, ofExcept]

/-! ## Readers that always succeed -/

@[simp] theorem reads_peek_bind {f : Option UInt8 → Reader β} :
    (peek >>= f).Reads c b rest ↔ (f c.rest.head?).Reads c b rest :=
  reads_bind_of_eq rfl

@[simp] theorem reads_advance {u : Unit} : advance.Reads c u rest ↔ c.rest.tail = rest := by
  simp [Reads, advance]

@[simp] theorem reads_advance_bind {f : Unit → Reader β} :
    (advance >>= f).Reads c b rest ↔ (f ()).Reads c.advance b rest :=
  reads_bind_of_eq rfl

@[simp] theorem reads_next_bind {f : Option UInt8 → Reader β} :
    (next >>= f).Reads c b rest ↔ (f c.rest.head?).Reads c.advance b rest :=
  reads_bind_of_eq rfl

@[simp] theorem reads_ahead_bind {f : Nat → Reader β} :
    (ahead >>= f).Reads c b rest ↔ (f c.rest.length).Reads c b rest :=
  reads_bind_of_eq rfl

@[simp] theorem reads_attempt_bind {f : Except Fault α → Reader β} :
    (attempt r >>= f).Reads c b rest ↔ (f (r c).1).Reads (r c).2 b rest :=
  reads_bind_of_eq rfl

end Reader

open Reader

variable {α : Type} {a : α} {c : Cursor} {rest bytes run : List UInt8} {p : UInt8 → Bool}

theorem exists_cons_of_head? {x y : UInt8} (h : bytes.head? = some x ∨ bytes.head? = some y) :
    ∃ b tail, bytes = b :: tail ∧ (b = x ∨ b = y) := by
  cases bytes with
  | nil => simp at h
  | cons b tail => exact ⟨b, tail, rfl, by simpa using h⟩

theorem exists_run (p : UInt8 → Bool) (bytes : List UInt8) :
    ∃ run rest, (∀ b ∈ run, p b = true) ∧ Stops p rest ∧ bytes = run ++ rest := by
  refine ⟨bytes.takeWhile p, bytes.dropWhile p, fun b ↦ List.mem_takeWhile_imp, ?_,
    List.takeWhile_append_dropWhile.symm⟩
  intro b hb
  have hhead := List.head?_dropWhile_not p bytes
  rw [Option.mem_def.mp hb] at hhead
  exact hhead

theorem takeWhile_eq_of_run (hrun : ∀ b ∈ run, p b = true) (hbytes : Stops p bytes)
    (hc : c.rest = run ++ bytes) :
    ∃ mid : Cursor, mid.rest = bytes ∧ takeWhile p c = (.ok run, mid) := by
  refine ⟨c.skip run.length, by simp [hc], ?_⟩
  rw [takeWhile, hc, takeWhile_run hrun hbytes]

theorem Reader.Reads.of_takeWhile {f : List UInt8 → Reader α}
    (h : (takeWhile p >>= f).Reads c a rest) :
    ∃ run mid, (∀ b ∈ run, p b = true) ∧ Stops p mid.rest ∧ c.rest = run ++ mid.rest ∧
      (f run).Reads mid a rest := by
  obtain ⟨run, bytes, hrun, hbytes, hc⟩ := exists_run p c.rest
  obtain ⟨mid, rfl, htake⟩ := takeWhile_eq_of_run hrun hbytes hc
  exact ⟨run, mid, hrun, hbytes, hc, (reads_bind_of_eq htake).mp h⟩

theorem Reader.Reads.takeWhile {f : List UInt8 → Reader α} (hrun : ∀ b ∈ run, p b = true)
    (hbytes : Stops p bytes) (hc : c.rest = run ++ bytes)
    (hf : ∀ mid : Cursor, mid.rest = bytes → (f run).Reads mid a rest) :
    (Reader.takeWhile p >>= f).Reads c a rest := by
  obtain ⟨mid, hmid, htake⟩ := takeWhile_eq_of_run hrun hbytes hc
  exact (reads_bind_of_eq htake).mpr (hf mid hmid)

theorem peekToken_eq_of_blank (hrun : Blank run) (hbytes : Stops isBlankByte bytes)
    (hc : c.rest = run ++ bytes) :
    ∃ mid : Cursor, mid.rest = bytes ∧ peekToken c = (.ok bytes.head?, mid) := by
  obtain ⟨mid, rfl, htake⟩ := takeWhile_eq_of_run hrun hbytes hc
  exact ⟨mid, rfl, bind_eq htake⟩

theorem exists_token (c : Cursor) : ∃ blanks mid, Blank blanks ∧ c.rest = blanks ++ mid.rest ∧
    Stops isBlankByte mid.rest ∧ peekToken c = (.ok mid.rest.head?, mid) := by
  obtain ⟨blanks, bytes, hblanks, hbytes, hc⟩ := exists_run isBlankByte c.rest
  obtain ⟨mid, rfl, hpeek⟩ := peekToken_eq_of_blank hblanks hbytes hc
  exact ⟨blanks, mid, hblanks, hc, hbytes, hpeek⟩

theorem Reader.Reads.of_token {f : Option UInt8 → Reader α}
    (h : (peekToken >>= f).Reads c a rest) :
    ∃ blanks mid, Blank blanks ∧ c.rest = blanks ++ mid.rest ∧ Stops isBlankByte mid.rest ∧
      (f mid.rest.head?).Reads mid a rest := by
  obtain ⟨blanks, mid, hblanks, hc, hstops, hpeek⟩ := exists_token c
  exact ⟨blanks, mid, hblanks, hc, hstops, (reads_bind_of_eq hpeek).mp h⟩

/-- A reader that has no use for the end reads a token. -/
theorem Reader.Reads.of_token_cons {f : Option UInt8 → Reader α}
    (h : (peekToken >>= f).Reads c a rest) (hnone : ∀ mid, ¬ (f none).Reads mid a rest) :
    ∃ blanks mid b tail, Blank blanks ∧ c.rest = blanks ++ mid.rest ∧ Stops isBlankByte mid.rest ∧
      mid.rest = b :: tail ∧ (f (some b)).Reads mid a rest := by
  obtain ⟨blanks, mid, hblanks, hc, hstops, h⟩ := h.of_token
  cases hmid : mid.rest with
  | nil => exact (hnone mid (by simpa [hmid] using h)).elim
  | cons b tail =>
      rw [hmid, List.head?_cons] at h
      exact ⟨blanks, mid, b, tail, hblanks, hc, hstops, hmid, h⟩

theorem Reader.Reads.token {f : Option UInt8 → Reader α} (hrun : Blank run)
    (hbytes : Stops isBlankByte bytes) (hc : c.rest = run ++ bytes)
    (hf : ∀ mid : Cursor, mid.rest = bytes → (f bytes.head?).Reads mid a rest) :
    (peekToken >>= f).Reads c a rest := by
  obtain ⟨mid, hmid, hpeek⟩ := peekToken_eq_of_blank hrun hbytes hc
  exact (reads_bind_of_eq hpeek).mpr (hf mid hmid)

/-! ## Words and colons -/

theorem reads_readWord {letters : List Char} :
    (readWord letters).Reads c () rest ↔ c.rest = letters.map byteOf ++ rest := by
  induction letters generalizing c with
  | nil => simp [readWord]
  | cons letter letters ih =>
      rw [readWord, reads_next_bind]
      cases hc : c.rest with
      | nil => simp
      | cons b bytes =>
          by_cases hb : b = byteOf letter
          · simp [hb, ih, hc]
          · simp [hb]

theorem Reader.Reads.of_word {letters : List Char} {f : Unit → Reader α}
    (h : (advance >>= fun _ ↦ readWord letters >>= f).Reads c a rest) :
    ∃ mid : Cursor, c.rest.tail = letters.map byteOf ++ mid.rest ∧ (f ()).Reads mid a rest := by
  obtain ⟨_, mid, hword, h⟩ := Reads.of_bind (reads_advance_bind.mp h)
  rw [reads_readWord, Cursor.rest_advance] at hword
  exact ⟨mid, hword, h⟩

theorem Reader.Reads.word {letters : List Char} {f : Unit → Reader α} {b : UInt8}
    (hc : c.rest = b :: (letters.map byteOf ++ bytes))
    (hf : ∀ mid : Cursor, mid.rest = bytes → (f ()).Reads mid a rest) :
    (advance >>= fun _ ↦ readWord letters >>= f).Reads c a rest := by
  rw [reads_advance_bind]
  exact Reads.bind (reads_readWord.mpr (by simp [hc])) hf

theorem reads_readColon_iff : readColon.Reads c () rest ↔
    ∃ blanks, Blank blanks ∧ c.rest = blanks ++ 0x3A :: rest := by
  constructor
  · intro h
    obtain ⟨blanks, mid, b, tail, hblanks, hc, -, hmid, h⟩ := Reads.of_token_cons h (by simp)
    dsimp only at h
    split_ifs at h with hb
    · obtain rfl : tail = rest := by simpa [hmid] using h
      exact ⟨blanks, hblanks, by rw [hc, hmid, hb]⟩
    · simp at h
  · rintro ⟨blanks, hblanks, hc⟩
    refine Reads.token hblanks (stops_cons.mpr rfl) hc fun mid hmid ↦ ?_
    simp [hmid]

end TileFetch.Json
