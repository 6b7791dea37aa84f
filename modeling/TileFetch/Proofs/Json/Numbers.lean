import TileFetch.Proofs.Json.Readers

/-!
# Reading numbers

A number goes on as far as its bytes do.  It is an integer only if it has neither a fraction nor
an exponent and fits in 64 bits; zero with a sign is none.
-/

namespace TileFetch.Json

open Reader

variable {α : Type} {a : α} {c : Cursor}
  {bytes rest digits run whole fraction exponent : List UInt8}

/-! ## Where the parts of a number end -/

def isPlaceByte (b : UInt8) : Bool :=
  isDigitByte b || b = 0x2E

theorem Stops.mono {p q : UInt8 → Bool} (hpq : ∀ b, p b = true → q b = true) (h : Stops q rest) :
    Stops p rest := by
  intro b hb
  rw [← Bool.not_eq_true]
  intro hp
  simpa [hpq b hp] using h b hb

theorem Stops.head?_ne {p : UInt8 → Bool} {b : UInt8} (hb : p b = true) (h : Stops p rest) :
    rest.head? ≠ some b := by
  intro hhead
  simpa [hb] using h b hhead

theorem IsExponent.stops (h : IsExponent exponent) (hrest : Stops isNumberByte rest) :
    Stops isPlaceByte (exponent ++ rest) := by
  obtain rfl | ⟨letter, sign, digits, hletter, -, -, rfl⟩ := h
  · refine hrest.mono fun b hb ↦ ?_
    rcases Bool.or_eq_true_iff.mp hb with hb | hb <;> simp [isNumberByte, hb]
  · rw [List.cons_append, stops_cons]
    rcases hletter with rfl | rfl <;> rfl

theorem IsFraction.stops (h : IsFraction fraction) (hrest : Stops isPlaceByte rest) :
    Stops isDigitByte (fraction ++ rest) := by
  obtain rfl | ⟨digits, -, rfl⟩ := h
  · exact hrest.mono fun b hb ↦ by simp [isPlaceByte, hb]
  · rw [List.cons_append, stops_cons]
    rfl

theorem isNatural_iff : IsNatural whole ↔ whole = [0x30] ∨ ∃ b run, whole = b :: run ∧ b ≠ 0x30 ∧
    isDigitByte b = true ∧ ∀ d ∈ run, isDigitByte d = true := by
  constructor
  · rintro ⟨⟨hne, hdigits⟩, hzero⟩
    obtain ⟨b, run, rfl⟩ := List.exists_cons_of_ne_nil hne
    obtain ⟨hb, hrun⟩ := List.forall_mem_cons.mp hdigits
    by_cases hb0 : b = 0x30
    · exact .inl (hzero (by simp [hb0]))
    · exact .inr ⟨b, run, rfl, hb0, hb, hrun⟩
  · rintro (rfl | ⟨b, run, rfl, hb0, hb, hrun⟩)
    · refine ⟨⟨by simp, ?_⟩, by simp⟩
      rw [List.forall_mem_singleton]
      rfl
    · exact ⟨⟨by simp, List.forall_mem_cons.mpr ⟨hb, hrun⟩⟩, by simp [hb0]⟩

/-! ## Numbers that are passed over -/

/-- What follows the letter of an exponent is read after its sign. -/
theorem exists_of_reads_signed {r : Reader α}
    (h : (if (decide (c.rest.head? = some 0x2B) || decide (c.rest.head? = some 0x2D)) = true
      then advance >>= fun _ ↦ r else r).Reads c a rest) :
    ∃ sign mid, (sign = [] ∨ sign = [0x2B] ∨ sign = [0x2D]) ∧ c.rest = sign ++ mid.rest ∧
      r.Reads mid a rest := by
  rw [reads_ite, reads_advance_bind] at h
  split_ifs at h with hsign
  · obtain ⟨b, tail, hc, hb⟩ := exists_cons_of_head? (by simpa using hsign)
    exact ⟨[b], c.advance, .inr (by simpa using hb), by simp [hc], h⟩
  · exact ⟨[], c, .inl rfl, rfl, h⟩

theorem reads_signed {r : Reader α} {sign : List UInt8} {b : UInt8}
    (hsign : sign = [] ∨ sign = [0x2B] ∨ sign = [0x2D]) (hb : isDigitByte b = true)
    (hc : c.rest = sign ++ b :: bytes)
    (hr : ∀ mid : Cursor, mid.rest = b :: bytes → r.Reads mid a rest) :
    (if (decide (c.rest.head? = some 0x2B) || decide (c.rest.head? = some 0x2D)) = true
      then advance >>= fun _ ↦ r else r).Reads c a rest := by
  rcases hsign with rfl | rfl | rfl
  · have hplus : b ≠ 0x2B := by rintro rfl; simp [isDigitByte] at hb
    have hminus : b ≠ 0x2D := by rintro rfl; simp [isDigitByte] at hb
    simpa [hc, hplus, hminus] using hr c hc
  · simpa [hc] using hr c.advance (by simp [hc])
  · simpa [hc] using hr c.advance (by simp [hc])

theorem exists_of_reads_skipScaled (h : skipScaled.Reads c () rest) :
    ∃ exponent, IsExponent exponent ∧ c.rest = exponent ++ rest := by
  rw [skipScaled, reads_peek_bind, reads_ite] at h
  split_ifs at h with hletter
  · obtain ⟨letter, tail, hc, hletter⟩ := exists_cons_of_head? (by simpa using hletter)
    simp only [skipExponent, reads_advance_bind, reads_peek_bind] at h
    obtain ⟨sign, mid, hsign, hmid, h⟩ := exists_of_reads_signed h
    rw [reads_next_bind] at h
    cases hdigits : mid.rest with
    | nil => simp [hdigits] at h
    | cons b more =>
        rw [hdigits, List.head?_cons] at h
        dsimp only at h
        split_ifs at h with hb
        · obtain ⟨run, end_, hrun, -, hmore, h⟩ := h.of_takeWhile
          obtain rfl := (reads_pure.mp h).2
          have hdigits' : IsDigits (b :: run) := ⟨by simp, List.forall_mem_cons.mpr ⟨hb, hrun⟩⟩
          refine ⟨_, .inr ⟨letter, sign, b :: run, hletter, hsign, hdigits', rfl⟩, ?_⟩
          simp only [Cursor.rest_advance, hc, hdigits, List.tail_cons] at hmid hmore
          rw [hc, hmid, hmore]
          simp
        · simp at h
  · exact ⟨[], .inl rfl, (reads_pure.mp h).2⟩

theorem exists_of_reads_skipAfterDigits (h : skipAfterDigits.Reads c () rest) :
    ∃ fraction exponent, IsFraction fraction ∧ IsExponent exponent ∧
      c.rest = fraction ++ exponent ++ rest := by
  rw [skipAfterDigits, reads_peek_bind, reads_ite] at h
  split_ifs at h with hpoint
  · obtain ⟨tail, hc⟩ := List.head?_eq_some_iff.mp hpoint
    rw [reads_advance_bind] at h
    obtain ⟨digits, mid, hdigits, -, htail, h⟩ := h.of_takeWhile
    rw [reads_ite] at h
    split_ifs at h with hempty
    · simp at h
    · obtain ⟨exponent, hexponent, hmid⟩ := exists_of_reads_skipScaled h
      refine ⟨0x2E :: digits, exponent, .inr ⟨digits, ⟨by simpa using hempty, hdigits⟩, rfl⟩,
        hexponent, ?_⟩
      simp only [Cursor.rest_advance, hc, List.tail_cons] at htail
      rw [hc, htail, hmid]
      simp
  · obtain ⟨exponent, hexponent, hc⟩ := exists_of_reads_skipScaled h
    exact ⟨[], exponent, .inl rfl, hexponent, hc⟩

theorem exists_of_reads_skipNumber (h : skipNumber.Reads c () rest) :
    ∃ magnitude, IsMagnitude magnitude ∧ c.rest = magnitude ++ rest := by
  suffices ∃ whole mid, IsNatural whole ∧ c.rest = whole ++ mid.rest ∧
      skipAfterDigits.Reads mid () rest by
    obtain ⟨whole, mid, hwhole, hc, h⟩ := this
    obtain ⟨fraction, exponent, hfraction, hexponent, hmid⟩ := exists_of_reads_skipAfterDigits h
    exact ⟨_, ⟨whole, fraction, exponent, hwhole, hfraction, hexponent, rfl⟩, by simp [hc, hmid]⟩
  rw [skipNumber, reads_next_bind] at h
  cases hc : c.rest with
  | nil => simp [hc] at h
  | cons b tail =>
      rw [hc, List.head?_cons] at h
      dsimp only at h
      split_ifs at h with hzero hb
      · refine ⟨[0x30], c.advance, isNatural_iff.mpr (.inl rfl), by simp [hc, hzero], ?_⟩
        rw [reads_peek_bind] at h
        split at h
        · split_ifs at h
          · simp at h
          · exact h
        · exact h
      · obtain ⟨run, mid, hrun, -, htail, h⟩ := h.of_takeWhile
        refine ⟨b :: run, mid, isNatural_iff.mpr (.inr ⟨b, run, rfl, hzero, hb, hrun⟩), ?_, h⟩
        simpa [hc] using htail
      · simp at h

theorem reads_skipScaled (h : IsExponent exponent) (hrest : Stops isNumberByte rest)
    (hc : c.rest = exponent ++ rest) : skipScaled.Reads c () rest := by
  rw [skipScaled, reads_peek_bind, reads_ite]
  obtain rfl | ⟨letter, sign, digits, hletter, hsign, hdigits, rfl⟩ := h
  · have hsmall : c.rest.head? ≠ some 0x65 := hc ▸ hrest.head?_ne rfl
    have hlarge : c.rest.head? ≠ some 0x45 := hc ▸ hrest.head?_ne rfl
    simpa [hsmall, hlarge] using hc
  · obtain ⟨b, run, rfl⟩ := List.exists_cons_of_ne_nil hdigits.1
    obtain ⟨hb, hrun⟩ := List.forall_mem_cons.mp hdigits.2
    rw [if_pos (by simpa [hc] using hletter)]
    simp only [skipExponent, reads_advance_bind, reads_peek_bind]
    have hstops : Stops isDigitByte rest := hrest.mono fun d hd ↦ by simp [isNumberByte, hd]
    have hafter : c.advance.rest = sign ++ b :: (run ++ rest) := by simp [hc]
    refine reads_signed hsign hb hafter fun mid hmid ↦ ?_
    rw [reads_next_bind, hmid, List.head?_cons]
    dsimp only
    rw [if_pos hb]
    exact Reads.takeWhile hrun hstops (by simp [hmid]) fun end_ hend ↦ by simp [hend]

theorem reads_skipAfterDigits (hfraction : IsFraction fraction) (hexponent : IsExponent exponent)
    (hrest : Stops isNumberByte rest) (hc : c.rest = fraction ++ (exponent ++ rest)) :
    skipAfterDigits.Reads c () rest := by
  have hplace := hexponent.stops hrest
  rw [skipAfterDigits, reads_peek_bind, reads_ite]
  obtain rfl | ⟨digits, hdigits, rfl⟩ := hfraction
  · rw [if_neg (hc ▸ hplace.head?_ne rfl)]
    exact reads_skipScaled hexponent hrest hc
  · rw [if_pos (by simp [hc]), reads_advance_bind]
    refine Reads.takeWhile hdigits.2 (hplace.mono ?_) (by simp [hc]) fun mid hmid ↦ ?_
    · intro b hb
      simp [isPlaceByte, hb]
    · rw [if_neg (by simpa using hdigits.1)]
      exact reads_skipScaled hexponent hrest hmid

theorem reads_skipNumber {magnitude : List UInt8} (h : IsMagnitude magnitude)
    (hrest : Stops isNumberByte rest) (hc : c.rest = magnitude ++ rest) :
    skipNumber.Reads c () rest := by
  obtain ⟨whole, fraction, exponent, hwhole, hfraction, hexponent, rfl⟩ := h
  have hstops := hfraction.stops (hexponent.stops hrest)
  simp only [List.append_assoc] at hc
  rw [skipNumber, reads_next_bind]
  obtain rfl | ⟨b, run, rfl, hzero, hb, hrun⟩ := isNatural_iff.mp hwhole
  · have hafter : c.advance.rest = fraction ++ (exponent ++ rest) := by simp [hc]
    have hread := reads_skipAfterDigits hfraction hexponent hrest hafter
    rw [hc, List.cons_append, List.head?_cons]
    dsimp only
    rw [if_pos rfl, reads_peek_bind, hafter]
    split
    · rename_i d hd
      rwa [if_neg (by simp [hstops d hd])]
    · exact hread
  · rw [hc, List.cons_append, List.head?_cons]
    dsimp only
    rw [if_neg hzero, if_pos hb]
    refine Reads.takeWhile hrun hstops (by simp [hc]) fun mid hmid ↦ ?_
    exact reads_skipAfterDigits hfraction hexponent hrest hmid

/-! ## Integers -/

variable {negative : Bool} {i : Int} {significand count dropped : Nat} {shift : Int}

theorem not_reads_realOf : ¬ (realOf negative significand shift).Reads c (.int i) rest := by
  unfold realOf
  split <;> simp

theorem not_reads_readExponent :
    ¬ (readExponent negative significand shift).Reads c (.int i) rest := by
  intro h
  simp only [readExponent, reads_advance_bind, reads_peek_bind] at h
  obtain ⟨sign, mid, -, -, h⟩ := exists_of_reads_signed h
  rw [reads_next_bind] at h
  split at h
  · simp at h
  · rename_i b _
    by_cases hb : isDigitByte b = true
    · rw [if_pos hb, reads_ahead_bind] at h
      obtain ⟨value, end_, -, h⟩ := h.of_bind
      split at h
      · exact not_reads_realOf h
      · split_ifs at h
        · simp at h
        · obtain ⟨_, _, -, -, -, h⟩ := h.of_takeWhile
          simp at h
    · simp [hb] at h

theorem not_reads_readScaled : ¬ (readScaled negative significand shift).Reads c (.int i) rest := by
  rw [readScaled, reads_peek_bind, reads_ite]
  split_ifs
  · exact not_reads_readExponent
  · exact not_reads_realOf

theorem not_reads_readFraction :
    ¬ (readFraction negative significand shift).Reads c (.int i) rest := by
  intro h
  rw [readFraction, reads_advance_bind] at h
  obtain ⟨digits, mid, -, -, -, h⟩ := h.of_takeWhile
  split_ifs at h
  · rw [reads_peek_bind] at h
    split at h <;> simp at h
  · exact not_reads_readScaled h

/-- The integer of a sign and digits, if it is one that is kept as an integer. -/
def IsKept (negative : Bool) (n : Nat) (i : Int) : Prop :=
  if negative then n ≠ 0 ∧ n ≤ 2 ^ 63 ∧ i = -n else i = n

theorem reads_readAfterDigits_iff :
    (readAfterDigits negative significand dropped).Reads c (.int i) rest ↔
      c.rest.head? ≠ some 0x2E ∧ c.rest.head? ≠ some 0x65 ∧ c.rest.head? ≠ some 0x45 ∧
        dropped = 0 ∧ IsKept negative significand i ∧ c.rest = rest := by
  rw [readAfterDigits, reads_peek_bind]
  by_cases hpoint : c.rest.head? = some 0x2E
  · simp [hpoint, not_reads_readFraction]
  by_cases hletter : c.rest.head? = some 0x65 ∨ c.rest.head? = some 0x45
  · rw [if_neg hpoint, if_pos (by simpa using hletter)]
    refine iff_of_false not_reads_readExponent ?_
    rintro ⟨-, hsmall, hlarge, -⟩
    exact hletter.elim hsmall hlarge
  rw [if_neg hpoint, if_neg (by simpa using hletter)]
  by_cases hdropped : dropped = 0
  · rw [not_or] at hletter
    cases negative with
    | false => simp [hpoint, hletter, hdropped, IsKept]
    | true =>
        by_cases hrange : significand = 0 ∨ 9223372036854775808 < significand
        · have hnot : ¬ IsKept true significand i := by
            rintro ⟨hne, hle, -⟩
            omega
          simp [hrange, hdropped, not_reads_realOf, hnot]
        · have hkept : IsKept true significand i ↔ i = -(significand : Int) := by
            rw [not_or, not_lt] at hrange
            simp [IsKept, hrange]
          simp [hrange, hdropped, hpoint, hletter, hkept]
  · simp [hdropped, not_reads_realOf]

theorem reads_readAfterDigits_of_stops (hrest : Stops isNumberByte rest) (hc : c.rest = rest)
    (hkept : IsKept negative significand i) :
    (readAfterDigits negative significand 0).Reads c (.int i) rest := by
  rw [reads_readAfterDigits_iff, hc]
  exact ⟨hrest.head?_ne rfl, hrest.head?_ne rfl, hrest.head?_ne rfl, rfl, hkept, rfl⟩

theorem digitsAfter_cons (n : Nat) (b : UInt8) (digits : List UInt8) :
    digitsAfter n (b :: digits) = digitsAfter (n * 10 + digitOfByte b) digits := by
  rw [digitsAfter, List.foldl_cons, digitsAfter]

theorem digitsValue_cons (b : UInt8) (digits : List UInt8) :
    digitsValue (b :: digits) = digitsAfter (digitOfByte b) digits := by
  rw [digitsValue, digitsAfter_cons, Nat.zero_mul, Nat.zero_add]

theorem le_digitsAfter (n : Nat) (digits : List UInt8) : n ≤ digitsAfter n digits := by
  induction digits generalizing n with
  | nil => rfl
  | cons b digits ih =>
      rw [digitsAfter_cons]
      exact le_trans (by omega) (ih _)

theorem putDigits_eq (h : digitsAfter significand digits ≤ maxNat64) :
    putDigits significand count digits =
      (digitsAfter significand digits, count + digits.length) := by
  induction digits generalizing significand count with
  | nil => rfl
  | cons b digits ih =>
      -- A value only grows with more digits, so that none of them is the first to be dropped.
      have hmore : ¬ maxNat64 < significand * 10 + digitOfByte b := by
        intro hlt
        exact absurd h (Nat.not_le_of_lt (Nat.lt_of_lt_of_le hlt (le_digitsAfter _ digits)))
      rw [putDigits, if_neg hmore]
      refine (ih h).trans (Prod.ext rfl ?_)
      change count + 1 + digits.length = count + (digits.length + 1)
      omega

theorem putDigits_fst (h : count + digits.length ≤ (putDigits significand count digits).2) :
    (putDigits significand count digits).1 = digitsAfter significand digits := by
  induction digits generalizing significand count with
  | nil => rfl
  | cons b digits ih =>
      rw [List.length_cons] at h
      by_cases hmore : maxNat64 < significand * 10 + digitOfByte b
      · rw [putDigits, if_pos hmore] at h
        dsimp only at h
        omega
      · rw [putDigits, if_neg hmore] at h ⊢
        exact ih (by omega)

theorem exists_of_reads_readNumber (h : (readNumber negative).Reads c (.int i) rest) :
    ∃ whole, IsNatural whole ∧ IsKept negative (digitsValue whole) i ∧ c.rest = whole ++ rest := by
  rw [readNumber, reads_next_bind] at h
  cases hc : c.rest with
  | nil => simp [hc] at h
  | cons b tail =>
      rw [hc, List.head?_cons] at h
      dsimp only at h
      split_ifs at h with hzero hb
      · refine ⟨[0x30], isNatural_iff.mpr (.inl rfl), ?_⟩
        have hread : (readAfterDigits negative 0 0).Reads c.advance (.int i) rest := by
          rw [reads_peek_bind] at h
          split at h
          · split_ifs at h
            · simp at h
            · exact h
          · exact h
        obtain ⟨-, -, -, -, hkept, hrest⟩ := reads_readAfterDigits_iff.mp hread
        exact ⟨hkept, by simpa [hc, hzero] using hrest⟩
      · obtain ⟨run, mid, hrun, -, htail, h⟩ := h.of_takeWhile
        obtain ⟨-, -, -, hdropped, hkept, rfl⟩ := reads_readAfterDigits_iff.mp h
        refine ⟨b :: run, isNatural_iff.mpr (.inr ⟨b, run, rfl, hzero, hb, hrun⟩), ?_, ?_⟩
        · have hput : (putDigits (digitOfByte b) 0 run).1 = digitsAfter (digitOfByte b) run :=
            putDigits_fst (by omega)
          rwa [digitsValue_cons, ← hput]
        · simpa [hc] using htail
      · simp at h

theorem reads_readNumber (hwhole : IsNatural whole) (hkept : IsKept negative (digitsValue whole) i)
    (hrange : digitsValue whole ≤ maxNat64) (hrest : Stops isNumberByte rest)
    (hc : c.rest = whole ++ rest) : (readNumber negative).Reads c (.int i) rest := by
  have hstops : Stops isDigitByte rest := hrest.mono fun d hd ↦ by simp [isNumberByte, hd]
  rw [readNumber, reads_next_bind]
  obtain rfl | ⟨b, run, rfl, hzero, hb, hrun⟩ := isNatural_iff.mp hwhole
  · have hafter : c.advance.rest = rest := by simp [hc]
    have hread : (readAfterDigits negative 0 0).Reads c.advance (.int i) rest :=
      reads_readAfterDigits_of_stops hrest hafter hkept
    rw [hc, List.cons_append, List.head?_cons]
    dsimp only
    rw [if_pos rfl, reads_peek_bind, hafter]
    split
    · rename_i d hd
      rwa [if_neg (by simp [hstops d hd])]
    · exact hread
  · rw [hc, List.cons_append, List.head?_cons]
    dsimp only
    rw [if_neg hzero, if_pos hb]
    rw [digitsValue_cons] at hkept hrange
    refine Reads.takeWhile hrun hstops (by simp [hc]) fun mid hmid ↦ ?_
    rw [putDigits_eq hrange, Nat.zero_add, Nat.sub_self]
    exact reads_readAfterDigits_of_stops hrest hmid hkept

end TileFetch.Json
