import Mathlib
import TileFetch.Text.Utf8

/-!
# UTF-8 there and back

Bytes are decoded to the text that is written as them, and to no other: `decode?_eq_some_iff`.
-/

namespace TileFetch.Text.Utf8

/-! ## Steps over characters of one to four bytes -/

theorem next_one {a : UInt8} (h : a.toNat < 0x80) (rest : List UInt8) :
    next a rest = (some (Char.ofNat a.toNat), rest) := by
  simp [next.eq_def, UInt8.lt_iff_toNat_lt, h]

theorem next_two {a b : UInt8} (hlow : 0xC2 ≤ a.toNat) (hhigh : a.toNat ≤ 0xDF)
    (hb : isTail b = true) (rest : List UInt8) :
    next a (b :: rest) =
      (some (Char.ofNat (a.toNat % 32 * 64 + tailBits b)), rest) := by
  have h1 : ¬ a.toNat < 0x80 := by omega
  simp [next.eq_def, UInt8.lt_iff_toNat_lt, UInt8.le_iff_toNat_le, h1, hlow, hhigh, hb]

theorem next_three {a b c : UInt8} (hlow : 0xE0 ≤ a.toNat) (hhigh : a.toNat ≤ 0xEF)
    (hb : secondInRange a b = true) (hc : isTail c = true) (rest : List UInt8) :
    next a (b :: c :: rest) =
      (some (Char.ofNat (a.toNat % 16 * 4096 + tailBits b * 64 + tailBits c)), rest) := by
  have h1 : ¬ a.toNat < 0x80 := by omega
  have h2 : ¬ a.toNat ≤ 0xDF := by omega
  simp [next.eq_def, UInt8.lt_iff_toNat_lt, UInt8.le_iff_toNat_le, h1, h2, hlow, hhigh, hb, hc]

theorem next_four {a b c d : UInt8} (hlow : 0xF0 ≤ a.toNat) (hhigh : a.toNat ≤ 0xF4)
    (hb : secondInRange a b = true) (hc : isTail c = true) (hd : isTail d = true)
    (rest : List UInt8) :
    next a (b :: c :: d :: rest) =
      (some (Char.ofNat (a.toNat % 8 * 262144 + tailBits b * 4096 + tailBits c * 64 +
        tailBits d)), rest) := by
  have h1 : ¬ a.toNat < 0x80 := by omega
  have h2 : ¬ a.toNat ≤ 0xDF := by omega
  have h3 : ¬ a.toNat ≤ 0xEF := by omega
  simp [next.eq_def, UInt8.lt_iff_toNat_lt, UInt8.le_iff_toNat_le, h1, h2, h3, hlow, hhigh, hb,
    hc, hd]

theorem isTail_iff {b : UInt8} : isTail b = true ↔ 0x80 ≤ b.toNat ∧ b.toNat ≤ 0xBF := by
  simp [isTail, UInt8.le_iff_toNat_le]

theorem secondInRange_iff {a b : UInt8} : secondInRange a b = true ↔
    0x80 ≤ b.toNat ∧ b.toNat ≤ 0xBF ∧ (a.toNat = 0xE0 → 0xA0 ≤ b.toNat) ∧
      (a.toNat = 0xED → b.toNat ≤ 0x9F) ∧ (a.toNat = 0xF0 → 0x90 ≤ b.toNat) ∧
      (a.toNat = 0xF4 → b.toNat ≤ 0x8F) := by
  unfold secondInRange
  simp only [← UInt8.toNat_inj]
  split_ifs <;> simp_all [isTail_iff, UInt8.le_iff_toNat_le] <;> omega

/-! ## Characters of one to four bytes -/

theorem val_ofNat {n : Nat} (h : n.isValidChar) : (Char.ofNat n).val.toNat = n := by
  simp [Char.ofNat, h, Char.ofNatAux]

theorem toNat_ofNat {n : Nat} (h : n < 256) : (UInt8.ofNat n).toNat = n := by
  rw [UInt8.toNat_ofNat', Nat.mod_eq_of_lt h]

theorem ofNat_eq {n : Nat} {b : UInt8} (h : n = b.toNat) : UInt8.ofNat n = b := by
  rw [h, UInt8.ofNat_toNat]

theorem encode_one {a : UInt8} (h : a.toNat < 0x80) :
    String.utf8EncodeChar (Char.ofNat a.toNat) = [a] := by
  have hvalid : a.toNat.isValidChar := .inl (by omega)
  have h1 : a.toNat ≤ 127 := by omega
  simp only [String.utf8EncodeChar, val_ofNat hvalid, h1, if_true, UInt8.ofNat_toNat]

theorem encode_two {a b : UInt8} (hlow : 0xC2 ≤ a.toNat) (hhigh : a.toNat ≤ 0xDF)
    (hb : isTail b = true) :
    String.utf8EncodeChar (Char.ofNat (a.toNat % 32 * 64 + tailBits b)) = [a, b] := by
  rw [isTail_iff] at hb
  simp only [tailBits]
  have hvalid : (a.toNat % 32 * 64 + b.toNat % 64).isValidChar := .inl (by omega)
  have h1 : ¬ a.toNat % 32 * 64 + b.toNat % 64 ≤ 127 := by omega
  have h2 : a.toNat % 32 * 64 + b.toNat % 64 ≤ 2047 := by omega
  simp only [String.utf8EncodeChar, val_ofNat hvalid, h1, h2, if_true, if_false]
  rw [ofNat_eq (b := a) (by omega), ofNat_eq (b := b) (by omega)]

theorem encode_three {a b c : UInt8} (hlow : 0xE0 ≤ a.toNat) (hhigh : a.toNat ≤ 0xEF)
    (hb : secondInRange a b = true) (hc : isTail c = true) :
    String.utf8EncodeChar
      (Char.ofNat (a.toNat % 16 * 4096 + tailBits b * 64 + tailBits c)) = [a, b, c] := by
  rw [isTail_iff] at hc
  obtain ⟨hb1, hb2, hE0, hED, -, -⟩ := secondInRange_iff.mp hb
  simp only [tailBits]
  have hvalid : (a.toNat % 16 * 4096 + b.toNat % 64 * 64 + c.toNat % 64).isValidChar := by
    simp only [Nat.isValidChar]
    omega
  have h1 : ¬ a.toNat % 16 * 4096 + b.toNat % 64 * 64 + c.toNat % 64 ≤ 127 := by omega
  have h2 : ¬ a.toNat % 16 * 4096 + b.toNat % 64 * 64 + c.toNat % 64 ≤ 2047 := by omega
  have h3 : a.toNat % 16 * 4096 + b.toNat % 64 * 64 + c.toNat % 64 ≤ 65535 := by omega
  simp only [String.utf8EncodeChar, val_ofNat hvalid, h1, h2, h3, if_true, if_false]
  rw [ofNat_eq (b := a) (by omega), ofNat_eq (b := b) (by omega), ofNat_eq (b := c) (by omega)]

theorem encode_four {a b c d : UInt8} (hlow : 0xF0 ≤ a.toNat) (hhigh : a.toNat ≤ 0xF4)
    (hb : secondInRange a b = true) (hc : isTail c = true) (hd : isTail d = true) :
    String.utf8EncodeChar (Char.ofNat (a.toNat % 8 * 262144 + tailBits b * 4096 +
      tailBits c * 64 + tailBits d)) = [a, b, c, d] := by
  rw [isTail_iff] at hc hd
  obtain ⟨hb1, hb2, -, -, hF0, hF4⟩ := secondInRange_iff.mp hb
  simp only [tailBits]
  generalize hn : a.toNat % 8 * 262144 + b.toNat % 64 * 4096 + c.toNat % 64 * 64 + d.toNat % 64 = n
  have hvalid : n.isValidChar := .inr (by omega)
  have h1 : ¬ n ≤ 127 := by omega
  have h2 : ¬ n ≤ 2047 := by omega
  have h3 : ¬ n ≤ 65535 := by omega
  simp only [String.utf8EncodeChar, val_ofNat hvalid, h1, h2, h3, if_false]
  rw [ofNat_eq (b := a) (by omega), ofNat_eq (b := b) (by omega), ofNat_eq (b := c) (by omega),
    ofNat_eq (b := d) (by omega)]

/-! ## One step -/

theorem eq_encode_of_next {lead : UInt8} {rest more : List UInt8} {c : Char}
    (h : next lead rest = (some c, more)) :
    lead :: rest = String.utf8EncodeChar c ++ more := by
  unfold next at h
  simp only [Bool.and_eq_true, decide_eq_true_eq, UInt8.lt_iff_toNat_lt, UInt8.le_iff_toNat_le] at h
  split_ifs at h with h1 h2 h3 h4
  · obtain ⟨rfl, rfl⟩ := by simpa using h
    rw [encode_one h1]
    rfl
  · split at h
    · split_ifs at h with hb
      · obtain ⟨rfl, rfl⟩ := by simpa using h
        rw [encode_two h2.1 h2.2 hb]
        rfl
      · simp at h
    · simp at h
  · split at h
    · split_ifs at h with hb hc
      · obtain ⟨rfl, rfl⟩ := by simpa using h
        rw [encode_three h3.1 h3.2 hb hc]
        rfl
      · simp at h
      · simp at h
    · split_ifs at h <;> simp at h
    · simp at h
  · split at h
    · split_ifs at h with hb hc hd
      · obtain ⟨rfl, rfl⟩ := by simpa using h
        rw [encode_four h4.1 h4.2 hb hc hd]
        rfl
      all_goals simp at h
    · split_ifs at h <;> simp at h
    · split_ifs at h <;> simp at h
    · simp at h
  · simp at h

theorem exists_next_encode (c : Char) : ∃ lead tail, String.utf8EncodeChar c = lead :: tail ∧
    ∀ rest, next lead (tail ++ rest) = (some c, rest) := by
  have hvalid : c.val.toNat.isValidChar := c.valid
  have hc : Char.ofNat c.val.toNat = c := Char.ofNat_toNat c
  simp only [Nat.isValidChar] at hvalid
  unfold String.utf8EncodeChar
  generalize c.val.toNat = n at hvalid hc
  dsimp only
  split_ifs with h1 h2 h3
  · refine ⟨_, _, rfl, fun rest ↦ ?_⟩
    have ha : (UInt8.ofNat n).toNat = n := toNat_ofNat (by omega)
    rw [List.nil_append, next_one (by omega), ha, hc]
  · refine ⟨_, _, rfl, fun rest ↦ ?_⟩
    have ha : (UInt8.ofNat (n / 64 % 32 + 192)).toNat = n / 64 + 192 :=
      (toNat_ofNat (by omega)).trans (by omega)
    have hb : (UInt8.ofNat (n % 64 + 128)).toNat = n % 64 + 128 :=
      (toNat_ofNat (by omega)).trans (by omega)
    rw [List.cons_append, List.nil_append, next_two (by omega) (by omega)
      (isTail_iff.mpr (by omega)), tailBits, ha, hb, ← hc]
    congr 3
    omega
  · refine ⟨_, _, rfl, fun rest ↦ ?_⟩
    have ha : (UInt8.ofNat (n / 4096 % 16 + 224)).toNat = n / 4096 + 224 :=
      (toNat_ofNat (by omega)).trans (by omega)
    have hb : (UInt8.ofNat (n / 64 % 64 + 128)).toNat = n / 64 % 64 + 128 :=
      (toNat_ofNat (by omega)).trans (by omega)
    have hc' : (UInt8.ofNat (n % 64 + 128)).toNat = n % 64 + 128 :=
      (toNat_ofNat (by omega)).trans (by omega)
    rw [List.cons_append, List.cons_append, List.nil_append, next_three (by omega) (by omega)
      (secondInRange_iff.mpr (by omega)) (isTail_iff.mpr (by omega)), tailBits, tailBits, ha, hb,
      hc', ← hc]
    congr 3
    omega
  · refine ⟨_, _, rfl, fun rest ↦ ?_⟩
    have ha : (UInt8.ofNat (n / 262144 % 8 + 240)).toNat = n / 262144 + 240 :=
      (toNat_ofNat (by omega)).trans (by omega)
    have hb : (UInt8.ofNat (n / 4096 % 64 + 128)).toNat = n / 4096 % 64 + 128 :=
      (toNat_ofNat (by omega)).trans (by omega)
    have hc' : (UInt8.ofNat (n / 64 % 64 + 128)).toNat = n / 64 % 64 + 128 :=
      (toNat_ofNat (by omega)).trans (by omega)
    have hd : (UInt8.ofNat (n % 64 + 128)).toNat = n % 64 + 128 :=
      (toNat_ofNat (by omega)).trans (by omega)
    rw [List.cons_append, List.cons_append, List.cons_append, List.nil_append,
      next_four (by omega) (by omega) (secondInRange_iff.mpr (by omega))
        (isTail_iff.mpr (by omega)) (isTail_iff.mpr (by omega)), tailBits, tailBits, tailBits, ha,
      hb, hc', hd, ← hc]
    congr 3
    omega

/-! ## Whole texts -/

theorem decode?_nil : decode? [] = some [] := by
  simp [decode?, pieces]

theorem decode?_cons (lead : UInt8) (rest : List UInt8) : decode? (lead :: rest) =
    (next lead rest).1.bind fun c ↦ (decode? (next lead rest).2).map (c :: ·) := by
  rw [decode?, pieces, List.mapM_cons, decode?]
  cases (next lead rest).1 <;> cases (pieces (next lead rest).2).mapM id <;> rfl

theorem decode?_encodeChar (c : Char) (bytes : List UInt8) :
    decode? (String.utf8EncodeChar c ++ bytes) = (decode? bytes).map (c :: ·) := by
  obtain ⟨lead, tail, hencode, hnext⟩ := exists_next_encode c
  rw [hencode, List.cons_append, decode?_cons, hnext]
  rfl

theorem encode_cons (c : Char) (cs : List Char) :
    encode (c :: cs) = String.utf8EncodeChar c ++ encode cs :=
  List.flatMap_cons ..

theorem encode_append (cs ds : List Char) : encode (cs ++ ds) = encode cs ++ encode ds :=
  List.flatMap_append

theorem width_eq (cs : List Char) : width cs = String.utf8Len cs := by
  induction cs with
  | nil => rfl
  | cons c cs ih =>
      rw [String.utf8Len_cons, ← ih, width, encode_cons, List.length_append,
        String.length_utf8EncodeChar, add_comm]
      rfl

theorem decode?_encode (cs : List Char) : decode? (encode cs) = some cs := by
  induction cs with
  | nil => exact decode?_nil
  | cons c cs ih => rw [encode_cons, decode?_encodeChar, ih, Option.map_some]

theorem encode_of_decode? {bytes : List UInt8} {cs : List Char} (h : decode? bytes = some cs) :
    encode cs = bytes := by
  induction bytes using pieces.induct generalizing cs with
  | case1 =>
      rw [decode?_nil] at h
      obtain rfl := Option.some.inj h
      rfl
  | case2 lead rest ih =>
      rw [decode?_cons, Option.bind_eq_some_iff] at h
      obtain ⟨c, hc, htail⟩ := h
      obtain ⟨more, hmore, rfl⟩ := Option.map_eq_some_iff.mp htail
      rw [encode_cons, ih hmore]
      exact (eq_encode_of_next (Prod.ext hc rfl)).symm

theorem decode?_eq_some_iff {bytes : List UInt8} {cs : List Char} :
    decode? bytes = some cs ↔ bytes = encode cs := by
  constructor
  · exact fun h ↦ (encode_of_decode? h).symm
  · rintro rfl
    exact decode?_encode cs

/-! ## Bytes of ASCII characters -/

theorem utf8EncodeChar_ascii {c : Char} (h : c.toNat < 0x80) :
    String.utf8EncodeChar c = [UInt8.ofNat c.toNat] := by
  have hle : c.val.toNat ≤ 127 := Nat.le_of_lt_succ h
  simp only [String.utf8EncodeChar, hle, if_true]
  rfl

/-- A byte of a character is the character itself, or belongs to no ASCII character. -/
theorem mem_utf8EncodeChar {c : Char} {b : UInt8} (h : b ∈ String.utf8EncodeChar c) :
    b.toNat = c.toNat ∨ 0x80 ≤ b.toNat := by
  by_cases hc : c.toNat < 0x80
  · rw [utf8EncodeChar_ascii hc, List.mem_singleton] at h
    rw [h]
    exact .inl (toNat_ofNat (by omega))
  · right
    have hlt : ¬ c.val.toNat ≤ 127 := fun hle ↦ hc (Nat.lt_succ_of_le hle)
    simp only [String.utf8EncodeChar, hlt, if_false] at h
    split_ifs at h <;> simp only [List.mem_cons, List.not_mem_nil, or_false] at h <;>
      rcases h with rfl | rfl | rfl | rfl <;> rw [toNat_ofNat (by omega)] <;> omega

end TileFetch.Text.Utf8
