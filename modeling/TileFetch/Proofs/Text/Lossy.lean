import TileFetch.Proofs.Text.Utf8

/-!
# Lossy decoding

Where no character begins, U+FFFD stands for as many bytes as begin one together, and for one byte
at least.  That is a relation between bytes and texts which does not mention how bytes are read, and
lossy decoding is the text that it gives: `decodeLossy_eq_iff`.  A piece takes four bytes at most,
so that the first pieces are those of the first bytes: `take_pieces_congr`.
-/

namespace TileFetch.Text.Utf8

/-! ## What stands for bytes that are no text -/

def Begins (bytes : List UInt8) : Prop :=
  ∃ ch, bytes <+: String.utf8EncodeChar ch

/-- No character begins where `run` does, and `run` is the longest row of bytes that begins one, or a
single byte if there is none. -/
structure IsBadRun (run rest : List UInt8) : Prop where
  not_char : ∀ ch, ¬ String.utf8EncodeChar ch <+: run ++ rest
  begins : (∃ b, run = [b]) ∨ run ≠ [] ∧ Begins run
  longest : ∀ more, more <+: run ++ rest → Begins more → more.length ≤ run.length

inductive Replaces : List UInt8 → List Char → Prop
  | nil : Replaces [] []
  | char {ch bytes cs} : Replaces bytes cs → Replaces (String.utf8EncodeChar ch ++ bytes) (ch :: cs)
  | bad {run bytes cs} : IsBadRun run bytes → Replaces bytes cs →
      Replaces (run ++ bytes) (replacement :: cs)

variable {run rest more bytes tail : List UInt8} {a b c d lead : UInt8} {cs : List Char}

/-! ## Beginnings of characters -/

theorem secondInRange_of_isTail (hlow : 0xC2 ≤ a.toNat) (hhigh : a.toNat ≤ 0xDF)
    (hb : isTail b = true) : secondInRange a b = true := by
  rw [isTail_iff] at hb
  rw [secondInRange_iff]
  omega

theorem isTail_of_secondInRange (h : secondInRange a b = true) : isTail b = true := by
  rw [secondInRange_iff] at h
  rw [isTail_iff]
  omega

/-- The bytes of a character, by their number. -/
theorem encode_cases (ch : Char) :
    (∃ a, String.utf8EncodeChar ch = [a]) ∨
      (∃ a b, String.utf8EncodeChar ch = [a, b] ∧ 0xC2 ≤ a.toNat ∧ a.toNat ≤ 0xF4 ∧
        secondInRange a b = true) ∨
      (∃ a b c, String.utf8EncodeChar ch = [a, b, c] ∧ 0xE0 ≤ a.toNat ∧ a.toNat ≤ 0xF4 ∧
        secondInRange a b = true ∧ isTail c = true) ∨
      ∃ a b c d, String.utf8EncodeChar ch = [a, b, c, d] ∧ 0xF0 ≤ a.toNat ∧ a.toNat ≤ 0xF4 ∧
        secondInRange a b = true ∧ isTail c = true ∧ isTail d = true := by
  obtain ⟨lead, tail, hencode, hnext⟩ := exists_next_encode ch
  have h : next lead tail = (some ch, []) := by simpa using hnext []
  rw [hencode]
  unfold next at h
  simp only [Bool.and_eq_true, decide_eq_true_eq, UInt8.lt_iff_toNat_lt, UInt8.le_iff_toNat_le] at h
  split_ifs at h with h1 h2 h3 h4
  · obtain rfl := (Prod.mk.inj h).2
    exact .inl ⟨lead, rfl⟩
  · split at h
    · split_ifs at h with hb
      · obtain rfl := (Prod.mk.inj h).2
        have hhigh := Nat.le_trans h2.2 (by decide : (0xDF : UInt8).toNat ≤ 0xF4)
        exact .inr (.inl ⟨_, _, rfl, h2.1, hhigh, secondInRange_of_isTail h2.1 h2.2 hb⟩)
      · simp at h
    · simp at h
  · split at h
    · split_ifs at h with hb hc
      · obtain rfl := (Prod.mk.inj h).2
        have hhigh := Nat.le_trans h3.2 (by decide : (0xEF : UInt8).toNat ≤ 0xF4)
        exact .inr (.inr (.inl ⟨_, _, _, rfl, h3.1, hhigh, hb, hc⟩))
      all_goals simp at h
    · split_ifs at h <;> simp at h
    · simp at h
  · split at h
    · split_ifs at h with hb hc hd
      · obtain rfl := (Prod.mk.inj h).2
        exact .inr (.inr (.inr ⟨_, _, _, _, rfl, h4.1, h4.2, hb, hc, hd⟩))
      all_goals simp at h
    · split_ifs at h <;> simp at h
    · split_ifs at h <;> simp at h
    · simp at h
  · simp at h

theorem Begins.second (h : Begins (a :: b :: more)) :
    0xC2 ≤ a.toNat ∧ a.toNat ≤ 0xF4 ∧ secondInRange a b = true := by
  obtain ⟨ch, hprefix⟩ := h
  obtain ⟨_, hch⟩ | ⟨_, _, hch, hlow, hhigh, hb⟩ | ⟨_, _, _, hch, hlow, hhigh, hb, -⟩ |
    ⟨_, _, _, _, hch, hlow, hhigh, hb, -⟩ := encode_cases ch
  all_goals
    simp only [hch, List.cons_prefix_cons, List.prefix_nil, reduceCtorEq, and_false] at hprefix
  all_goals
    obtain ⟨rfl, rfl, -⟩ := hprefix
    exact ⟨by omega, hhigh, hb⟩

theorem Begins.third (h : Begins (a :: b :: c :: more)) : isTail c = true := by
  obtain ⟨ch, hprefix⟩ := h
  obtain ⟨_, hch⟩ | ⟨_, _, hch, -⟩ | ⟨_, _, _, hch, -, -, -, hc⟩ |
    ⟨_, _, _, _, hch, -, -, -, hc, -⟩ := encode_cases ch
  all_goals
    simp only [hch, List.cons_prefix_cons, List.prefix_nil, reduceCtorEq, and_false] at hprefix
  all_goals
    obtain ⟨-, -, rfl, -⟩ := hprefix
    exact hc

theorem Begins.fourth (h : Begins (a :: b :: c :: d :: more)) : isTail d = true := by
  obtain ⟨ch, hprefix⟩ := h
  obtain ⟨_, hch⟩ | ⟨_, _, hch, -⟩ | ⟨_, _, _, hch, -⟩ |
    ⟨_, _, _, _, hch, -, -, -, -, hd⟩ := encode_cases ch
  all_goals
    simp only [hch, List.cons_prefix_cons, List.prefix_nil, reduceCtorEq, and_false] at hprefix
  obtain ⟨-, -, -, rfl, -⟩ := hprefix
  exact hd

theorem begins_two (hlow : 0xE0 ≤ a.toNat) (hhigh : a.toNat ≤ 0xF4)
    (hb : secondInRange a b = true) : Begins [a, b] := by
  by_cases ha : a.toNat ≤ 0xEF
  · exact ⟨_, [0x80], (encode_three hlow ha hb (by decide)).symm⟩
  · exact ⟨_, [0x80, 0x80], (encode_four (by omega) hhigh hb (by decide) (by decide)).symm⟩

theorem begins_three (hlow : 0xF0 ≤ a.toNat) (hhigh : a.toNat ≤ 0xF4)
    (hb : secondInRange a b = true) (hc : isTail c = true) : Begins [a, b, c] :=
  ⟨_, [0x80], (encode_four hlow hhigh hb hc (by decide)).symm⟩

/-! ## One step -/

/-- A run that cannot be made longer by the byte after it is a longest one. -/
theorem isBadRun_of_next (hnext : (next lead tail).1 = none) (hrun : lead :: tail = run ++ rest)
    (hbegins : (∃ b, run = [b]) ∨ run ≠ [] ∧ Begins run)
    (hends : ∀ b ∈ rest.head?, ¬ Begins (run ++ [b])) : IsBadRun run rest where
  not_char := by
    rintro ch ⟨more, hmore⟩
    obtain ⟨lead', tail', hencode, hstep⟩ := exists_next_encode ch
    rw [← hrun, hencode, List.cons_append] at hmore
    obtain ⟨rfl, rfl⟩ := List.cons.inj hmore
    simp [hstep] at hnext
  begins := hbegins
  longest := by
    rintro more hmore ⟨ch, hch⟩
    by_contra hlonger
    rw [not_le] at hlonger
    obtain ⟨extra, rfl⟩ := List.prefix_of_prefix_length_le (List.prefix_append run rest) hmore
      hlonger.le
    cases extra with
    | nil => simp at hlonger
    | cons b extra =>
        have hb : b ∈ rest.head? := by
          obtain ⟨after, rfl⟩ := (List.prefix_append_right_inj run).mp hmore
          rfl
        refine hends b hb ⟨ch, List.IsPrefix.trans ⟨extra, ?_⟩ hch⟩
        simp

/-- A first byte that does not go with the next one is a bad run. -/
theorem exists_isBadRun_one (hnext : (next lead rest).1 = none)
    (hends : ∀ b ∈ rest.head?, 0xC2 ≤ lead.toNat → lead.toNat ≤ 0xF4 →
      ¬ secondInRange lead b = true) :
    ∃ run, lead :: rest = run ++ rest ∧ IsBadRun run rest := by
  refine ⟨[lead], rfl, isBadRun_of_next hnext rfl (.inl ⟨lead, rfl⟩) fun b hb hbegins ↦ ?_⟩
  obtain ⟨hlow, hhigh, hsecond⟩ := Begins.second hbegins
  exact hends b hb hlow hhigh hsecond

theorem exists_isBadRun_two (hnext : (next lead (b :: rest)).1 = none) (hlow : 0xE0 ≤ lead.toNat)
    (hhigh : lead.toNat ≤ 0xF4) (hb : secondInRange lead b = true)
    (hends : ∀ c ∈ rest.head?, ¬ isTail c = true) :
    ∃ run, lead :: b :: rest = run ++ rest ∧ IsBadRun run rest := by
  have hbegins := begins_two hlow hhigh hb
  refine ⟨[lead, b], rfl, isBadRun_of_next hnext rfl (.inr ⟨by simp, hbegins⟩) fun c hc hmore ↦ ?_⟩
  exact hends c hc (Begins.third hmore)

theorem exists_isBadRun_three (hnext : (next lead (b :: c :: rest)).1 = none)
    (hlow : 0xF0 ≤ lead.toNat) (hhigh : lead.toNat ≤ 0xF4) (hb : secondInRange lead b = true)
    (hc : isTail c = true) (hends : ∀ d ∈ rest.head?, ¬ isTail d = true) :
    ∃ run, lead :: b :: c :: rest = run ++ rest ∧ IsBadRun run rest := by
  have hbegins := begins_three hlow hhigh hb hc
  refine ⟨[lead, b, c], rfl, isBadRun_of_next hnext rfl (.inr ⟨by simp, hbegins⟩)
    fun d hd hmore ↦ ?_⟩
  exact hends d hd (Begins.fourth hmore)

/-- Where no character is read off, a bad run is passed over. -/
theorem exists_isBadRun (h : next lead tail = (none, rest)) :
    ∃ run, lead :: tail = run ++ rest ∧ IsBadRun run rest := by
  have hnext : (next lead tail).1 = none := congrArg Prod.fst h
  unfold next at h
  simp only [Bool.and_eq_true, decide_eq_true_eq, UInt8.lt_iff_toNat_lt, UInt8.le_iff_toNat_le] at h
  -- The run is as long as the bytes that have passed their tests.
  split_ifs at h with h1 h2 h3 h4
  · simp at h
  · split at h
    · split_ifs at h with hb
      · simp at h
      · obtain rfl := (Prod.mk.inj h).2
        refine exists_isBadRun_one hnext ?_
        rintro _ ⟨⟩ - - hsecond
        exact hb (isTail_of_secondInRange hsecond)
    · obtain rfl := (Prod.mk.inj h).2
      exact exists_isBadRun_one hnext (by simp)
  · have hhigh : lead.toNat ≤ 0xF4 := h3.2.trans (by decide)
    split at h
    · split_ifs at h with hb hc
      · simp at h
      · obtain rfl := (Prod.mk.inj h).2
        exact exists_isBadRun_two hnext h3.1 hhigh hb (by simpa using hc)
      · obtain rfl := (Prod.mk.inj h).2
        exact exists_isBadRun_one hnext (by simp [hb])
    · split_ifs at h with hb
      · obtain rfl := (Prod.mk.inj h).2
        exact exists_isBadRun_two hnext h3.1 hhigh hb (by simp)
      · obtain rfl := (Prod.mk.inj h).2
        exact exists_isBadRun_one hnext (by simp [hb])
    · obtain rfl := (Prod.mk.inj h).2
      exact exists_isBadRun_one hnext (by simp)
  · have hlow : 0xE0 ≤ lead.toNat := Nat.le_trans (by decide) h4.1
    split at h
    · split_ifs at h with hb hc hd
      · simp at h
      · obtain rfl := (Prod.mk.inj h).2
        exact exists_isBadRun_three hnext h4.1 h4.2 hb hc (by simpa using hd)
      · obtain rfl := (Prod.mk.inj h).2
        exact exists_isBadRun_two hnext hlow h4.2 hb (by simpa using hc)
      · obtain rfl := (Prod.mk.inj h).2
        exact exists_isBadRun_one hnext (by simp [hb])
    · split_ifs at h with hb hc
      · obtain rfl := (Prod.mk.inj h).2
        exact exists_isBadRun_three hnext h4.1 h4.2 hb hc (by simp)
      · obtain rfl := (Prod.mk.inj h).2
        exact exists_isBadRun_two hnext hlow h4.2 hb (by simpa using hc)
      · obtain rfl := (Prod.mk.inj h).2
        exact exists_isBadRun_one hnext (by simp [hb])
    · split_ifs at h with hb
      · obtain rfl := (Prod.mk.inj h).2
        exact exists_isBadRun_two hnext hlow h4.2 hb (by simp)
      · obtain rfl := (Prod.mk.inj h).2
        exact exists_isBadRun_one hnext (by simp [hb])
    · obtain rfl := (Prod.mk.inj h).2
      exact exists_isBadRun_one hnext (by simp)
  · obtain rfl := (Prod.mk.inj h).2
    refine exists_isBadRun_one hnext fun b _ hlow hhigh hsecond ↦ ?_
    -- Every first byte that has a second one has been tried before.
    have h80 : (0x80 : UInt8).toNat = 0x80 := rfl
    have hC2 : (0xC2 : UInt8).toNat = 0xC2 := rfl
    have hDF : (0xDF : UInt8).toNat = 0xDF := rfl
    have hE0 : (0xE0 : UInt8).toNat = 0xE0 := rfl
    have hEF : (0xEF : UInt8).toNat = 0xEF := rfl
    have hF0 : (0xF0 : UInt8).toNat = 0xF0 := rfl
    have hF4 : (0xF4 : UInt8).toNat = 0xF4 := rfl
    omega

/-! ## Whole texts -/

theorem pieces_cons (lead : UInt8) (rest : List UInt8) :
    pieces (lead :: rest) = (next lead rest).1 :: pieces (next lead rest).2 := by
  rw [pieces]

theorem decodeLossy_nil : decodeLossy [] = [] := by
  simp [decodeLossy, pieces]

theorem decodeLossy_cons (lead : UInt8) (rest : List UInt8) : decodeLossy (lead :: rest) =
    (next lead rest).1.getD replacement :: decodeLossy (next lead rest).2 := by
  rw [decodeLossy, pieces_cons, List.map_cons, decodeLossy]

theorem IsBadRun.unique {run' rest' : List UInt8} (h : IsBadRun run rest)
    (h' : IsBadRun run' rest') (heq : run ++ rest = run' ++ rest') : rest = rest' := by
  have hle : ∀ {run run' rest rest' : List UInt8}, IsBadRun run rest → IsBadRun run' rest' →
      run ++ rest = run' ++ rest' → run'.length ≤ run.length := by
    intro run run' rest rest' h h' heq
    rcases h'.begins with ⟨b, rfl⟩ | ⟨-, hbegins⟩
    · rcases h.begins with ⟨b', rfl⟩ | ⟨hne, -⟩
      · exact le_rfl
      · exact List.length_pos_iff.mpr hne
    · exact h.longest run' (heq ▸ List.prefix_append run' rest') hbegins
  exact (List.append_inj heq (le_antisymm (hle h' h heq.symm) (hle h h' heq))).2

theorem next_of_isBadRun (h : IsBadRun run rest) (heq : lead :: tail = run ++ rest) :
    next lead tail = (none, rest) := by
  rcases hnext : next lead tail with ⟨_ | ch, more⟩
  · obtain ⟨run', heq', h'⟩ := exists_isBadRun hnext
    rw [h.unique h' (heq.symm.trans heq')]
  · exact (h.not_char ch ⟨more, (eq_encode_of_next hnext).symm.trans heq⟩).elim

theorem replaces_decodeLossy (bytes : List UInt8) : Replaces bytes (decodeLossy bytes) := by
  induction bytes using pieces.induct with
  | case1 => exact decodeLossy_nil ▸ .nil
  | case2 lead rest ih =>
      rw [decodeLossy_cons]
      rcases hnext : next lead rest with ⟨_ | ch, more⟩ <;> rw [hnext] at ih
      · obtain ⟨run, heq, hrun⟩ := exists_isBadRun hnext
        rw [heq]
        exact .bad hrun ih
      · rw [eq_encode_of_next hnext]
        exact .char ih

theorem Replaces.eq_decodeLossy (h : Replaces bytes cs) : decodeLossy bytes = cs := by
  induction h with
  | nil => exact decodeLossy_nil
  | @char ch bytes cs _ ih =>
      obtain ⟨lead, tail, hencode, hnext⟩ := exists_next_encode ch
      rw [hencode, List.cons_append, decodeLossy_cons, hnext, ih, Option.getD_some]
  | @bad run bytes cs hrun _ ih =>
      obtain ⟨lead, tail, heq⟩ : ∃ lead tail, lead :: tail = run ++ bytes := by
        rcases hrun.begins with ⟨b, rfl⟩ | ⟨hne, -⟩
        · exact ⟨b, bytes, rfl⟩
        · obtain ⟨b, more, rfl⟩ := List.exists_cons_of_ne_nil hne
          exact ⟨b, more ++ bytes, rfl⟩
      rw [← heq, decodeLossy_cons, next_of_isBadRun hrun heq, ih, Option.getD_none]

/-- Bytes are decoded to the text in which their bad runs are replaced. -/
theorem decodeLossy_eq_iff : decodeLossy bytes = cs ↔ Replaces bytes cs :=
  ⟨fun h ↦ h ▸ replaces_decodeLossy bytes, Replaces.eq_decodeLossy⟩

/-! ## The first pieces -/

/-- A step looks at three bytes after the first, if there are as many. -/
theorem next_eq_next_take (lead : UInt8) (rest : List UInt8) : next lead rest =
    ((next lead (rest.take 3)).1, (next lead (rest.take 3)).2 ++ rest.drop 3) := by
  rcases rest with _ | ⟨b, _ | ⟨c, _ | ⟨d, rest⟩⟩⟩
  · simp
  · simp
  · simp
  · simp only [List.take_succ_cons, List.take_zero, List.drop_succ_cons, List.drop_zero]
    unfold next
    split_ifs
    · rfl
    · dsimp only
      split_ifs <;> rfl
    · dsimp only
      split_ifs <;> rfl
    · dsimp only
      split_ifs <;> rfl
    · rfl

theorem take_append_congr {pre rest rest' : List UInt8} {n : Nat} (h : rest.take n = rest'.take n) :
    (pre ++ rest).take n = (pre ++ rest').take n := by
  have htake := congrArg (List.take (n - pre.length)) h
  rw [List.take_take, List.take_take, Nat.min_eq_left (Nat.sub_le n pre.length)] at htake
  rw [List.take_append, List.take_append, htake]

/-- The first pieces are those of the first bytes, four for each. -/
theorem take_pieces_congr {bytes bytes' : List UInt8} {n : Nat}
    (h : bytes.take (4 * n) = bytes'.take (4 * n)) :
    (pieces bytes).take n = (pieces bytes').take n := by
  induction n generalizing bytes bytes' with
  | zero => simp
  | succ n ih =>
      rcases bytes with _ | ⟨lead, rest⟩ <;> rcases bytes' with _ | ⟨lead', rest'⟩
      · rfl
      · simp [Nat.mul_succ] at h
      · simp [Nat.mul_succ] at h
      · rw [Nat.mul_succ, List.take_succ_cons, List.take_succ_cons] at h
        obtain ⟨rfl, hrest⟩ := List.cons.inj h
        have hhead : rest.take 3 = rest'.take 3 := by
          have hhead := congrArg (List.take 3) hrest
          rwa [List.take_take, List.take_take, Nat.min_eq_left (by omega)] at hhead
        have htail : (rest.drop 3).take (4 * n) = (rest'.drop 3).take (4 * n) := by
          rw [List.take_drop, List.take_drop, Nat.add_comm, hrest]
        rw [pieces_cons, pieces_cons, List.take_succ_cons, List.take_succ_cons,
          next_eq_next_take lead rest, next_eq_next_take lead rest', hhead]
        exact congrArg _ (ih (take_append_congr htail))

/-- A piece takes four bytes at most. -/
theorem length_le_pieces (bytes : List UInt8) : bytes.length ≤ 4 * (pieces bytes).length := by
  induction bytes using pieces.induct with
  | case1 => simp
  | case2 lead rest ih =>
      have hrest : rest.length ≤ (next lead rest).2.length + 3 := by
        rw [next_eq_next_take, List.length_append, List.length_drop]
        omega
      rw [pieces_cons, List.length_cons, List.length_cons]
      omega

end TileFetch.Text.Utf8
