import TileFetch.Proofs.Json.Readers
import TileFetch.Proofs.Text.Utf8

/-!
# Reading texts

A text is read exactly if it spells characters, and then these are what it is read as:
`reads_readText_iff`.  A text that is passed over need not spell any: `reads_skipText_iff`.
-/

namespace TileFetch.Json

open Reader

variable {c : Cursor} {bytes rest : List UInt8} {cs run : List Char}

/-! ## Escapes -/

theorem reads_readHex4_iff {n : Nat} :
    readHex4.Reads c n rest ↔ ∃ digits, IsHex4 digits n ∧ c.rest = digits ++ rest := by
  constructor
  · rintro ⟨c', hread, rfl⟩
    unfold readHex4 at hread
    split at hread
    · rename_i a b d e tail hrest
      dsimp only at hread
      split at hread
      · rename_i w x y z hw hx hy hz
        obtain ⟨rfl, rfl⟩ := by simpa using hread
        exact ⟨[a, b, d, e], .mk hw hx hy hz, by simp [hrest]⟩
      · simp [failHere] at hread
    · simp [failHere] at hread
  · rintro ⟨_, ⟨hw, hx, hy, hz⟩, hrest⟩
    refine ⟨c.skip 4, ?_, by simp [hrest]⟩
    simp only [List.cons_append, List.nil_append] at hrest
    unfold readHex4
    rw [hrest]
    simp [hw, hx, hy, hz]

theorem reads_expectInEscape_iff {b : UInt8} :
    (expectInEscape b).Reads c () rest ↔ c.rest = b :: rest := by
  rw [expectInEscape, reads_peek_bind]
  cases hc : c.rest with
  | nil => simp
  | cons d tail =>
      by_cases hd : d = b
      · simp [hc, hd]
      · simp [hd]

theorem reads_readCodePoint_iff {ch : Char} : readCodePoint.Reads c ch rest ↔
    ∃ units, IsCodePoint units ch ∧ c.rest = units ++ rest := by
  constructor
  · intro h
    obtain ⟨n, after, hunit, h⟩ := h.of_bind
    obtain ⟨digits, hdigits, hc⟩ := reads_readHex4_iff.mp hunit
    by_cases hlow : 0xDC00 ≤ n ∧ n ≤ 0xDFFF
    · simp [hlow] at h
    by_cases hsingle : n < 0xD800 ∨ 0xDBFF < n
    · obtain ⟨rfl, rfl⟩ : ch = Char.ofNat n ∧ after.rest = rest := by
        simpa [hlow, hsingle] using h
      exact ⟨digits, .unit hdigits (by omega), hc⟩
    · simp only [hlow, hsingle, Bool.and_eq_true, Bool.or_eq_true, decide_eq_true_eq,
        if_false] at h
      obtain ⟨_, _, hslash, h⟩ := h.of_bind
      obtain ⟨_, _, hletter, h⟩ := h.of_bind
      obtain ⟨n', end_, hunit', h⟩ := h.of_bind
      obtain ⟨digits', hdigits', hend⟩ := reads_readHex4_iff.mp hunit'
      by_cases hlow' : n' < 0xDC00 ∨ 0xDFFF < n'
      · simp [hlow'] at h
      · simp only [hlow', if_false, reads_pure] at h
        refine ⟨digits ++ 0x5C :: 0x75 :: digits', ?_, ?_⟩
        · rw [h.1]
          exact .pair hdigits (by omega) (by omega) hdigits' (by omega) (by omega)
        · rw [hc, reads_expectInEscape_iff.mp hslash, reads_expectInEscape_iff.mp hletter, hend,
            h.2]
          simp only [List.append_assoc, List.cons_append]
  · rintro ⟨_, hpoint, hc⟩
    cases hpoint with
    | @unit _ n hdigits hn =>
        refine Reads.bind (reads_readHex4_iff.mpr ⟨_, hdigits, hc⟩) fun after hafter ↦ ?_
        have hlow : ¬ (0xDC00 ≤ n ∧ n ≤ 0xDFFF) := by omega
        have hsingle : n < 0xD800 ∨ 0xDBFF < n := by omega
        simp [hlow, hsingle, hafter]
    | @pair _ n _ n' hdigits hn hn' hdigits' hlow hhigh =>
        rw [List.append_assoc] at hc
        refine Reads.bind (reads_readHex4_iff.mpr ⟨_, hdigits, hc⟩) fun after hafter ↦ ?_
        have hnot : ¬ (0xDC00 ≤ n ∧ n ≤ 0xDFFF) := by omega
        have hpair : ¬ (n < 0xD800 ∨ 0xDBFF < n) := by omega
        have hrange : ¬ (n' < 0xDC00 ∨ 0xDFFF < n') := by omega
        simp only [hnot, hpair, Bool.and_eq_true, Bool.or_eq_true, decide_eq_true_eq, if_false]
        refine Reads.bind (reads_expectInEscape_iff.mpr hafter) fun slash hslash ↦ ?_
        refine Reads.bind (reads_expectInEscape_iff.mpr hslash) fun letter hletter ↦ ?_
        refine Reads.bind (reads_readHex4_iff.mpr ⟨_, hdigits', hletter⟩) fun _ hend ↦ ?_
        simp [hrange, hend]

theorem reads_readEscape_iff {ch : Char} :
    readEscape.Reads c ch rest ↔ ∃ escape, IsEscape escape ch ∧ c.rest = escape ++ rest := by
  rw [readEscape, reads_next_bind]
  constructor
  · intro h
    cases hc : c.rest with
    | nil => simp [hc] at h
    | cons b tail =>
        simp only [hc, List.head?_cons, reads_ite, reads_pure, Cursor.rest_advance, List.tail_cons,
          not_reads_failHere] at h
        have hshort : (b, ch) ∈ shortEscapes ∧ tail = rest →
            ∃ escape, IsEscape escape ch ∧ b :: tail = escape ++ rest := by
          rintro ⟨hmem, rfl⟩
          exact ⟨[b], .short hmem, rfl⟩
        split_ifs at h with hself hb hf hn hr ht hu
        · simp only [Bool.or_eq_true, decide_eq_true_eq] at hself
          refine hshort ⟨?_, h.2⟩
          rw [h.1]
          rcases hself with (rfl | rfl) | rfl <;> decide
        · exact hshort ⟨by rw [hb, h.1]; decide, h.2⟩
        · exact hshort ⟨by rw [hf, h.1]; decide, h.2⟩
        · exact hshort ⟨by rw [hn, h.1]; decide, h.2⟩
        · exact hshort ⟨by rw [hr, h.1]; decide, h.2⟩
        · exact hshort ⟨by rw [ht, h.1]; decide, h.2⟩
        · obtain ⟨units, hpoint, htail⟩ := reads_readCodePoint_iff.mp h
          simp only [Cursor.rest_advance, hc, List.tail_cons] at htail
          exact ⟨_, .codePoint hpoint, by rw [hu, htail]; rfl⟩
  · rintro ⟨_, hescape, hc⟩
    cases hescape with
    | short hmem =>
        simp only [shortEscapes, List.mem_cons, Prod.mk.injEq, List.not_mem_nil, or_false] at hmem
        rcases hmem with ⟨rfl, rfl⟩ | ⟨rfl, rfl⟩ | ⟨rfl, rfl⟩ | ⟨rfl, rfl⟩ | ⟨rfl, rfl⟩ |
          ⟨rfl, rfl⟩ | ⟨rfl, rfl⟩ | ⟨rfl, rfl⟩ <;> simp [hc]
    | codePoint hpoint =>
        have hread : readCodePoint.Reads c.advance ch rest :=
          reads_readCodePoint_iff.mpr ⟨_, hpoint, by simp [hc]⟩
        simpa [hc] using hread

/-! ## Plain characters -/

theorem isPlainByte_iff {b : UInt8} :
    isPlainByte b = true ↔ 0x20 ≤ b.toNat ∧ b.toNat ≠ 0x22 ∧ b.toNat ≠ 0x5C := by
  simp [isPlainByte, UInt8.le_iff_toNat_le, ← UInt8.toNat_inj, and_assoc]

theorem isPlainChar_iff {ch : Char} :
    IsPlainChar ch ↔ 0x20 ≤ ch.toNat ∧ ch.toNat ≠ 0x22 ∧ ch.toNat ≠ 0x5C := by
  have hquote : ch = '"' ↔ ch.toNat = 0x22 := Char.toNat_inj.symm
  have hslash : ch = '\\' ↔ ch.toNat = 0x5C := Char.toNat_inj.symm
  rw [IsPlainChar, ne_eq, ne_eq, hquote, hslash]

theorem IsPlainChar.isPlainByte {ch : Char} (h : IsPlainChar ch) {b : UInt8}
    (hb : b ∈ String.utf8EncodeChar ch) : isPlainByte b = true := by
  rw [isPlainChar_iff] at h
  rw [isPlainByte_iff]
  have hbyte := Text.Utf8.mem_utf8EncodeChar hb
  omega

theorem isPlainChar_of_isPlainByte {ch : Char}
    (h : ∀ b ∈ String.utf8EncodeChar ch, isPlainByte b = true) : IsPlainChar ch := by
  rw [isPlainChar_iff]
  by_cases hascii : ch.toNat < 0x80
  · rw [Text.Utf8.utf8EncodeChar_ascii hascii] at h
    have hplain := isPlainByte_iff.mp (h _ List.mem_cons_self)
    rwa [Text.Utf8.toNat_ofNat (by omega)] at hplain
  · omega

theorem isPlainByte_encode_iff : (∀ b ∈ Text.Utf8.encode cs, isPlainByte b = true) ↔
    ∀ ch ∈ cs, IsPlainChar ch := by
  constructor
  · intro h ch hch
    exact isPlainChar_of_isPlainByte fun b hb ↦ h b (List.mem_flatMap.mpr ⟨ch, hch, hb⟩)
  · intro h b hb
    obtain ⟨ch, hch, hb⟩ := List.mem_flatMap.mp hb
    exact (h ch hch).isPlainByte hb

theorem eq_quote_or_backslash {b : UInt8} (hcontrol : ¬ b < 0x20) (h : isPlainByte b = false) :
    b = 0x22 ∨ b = 0x5C := by
  have hnot : ¬ (0x20 ≤ b.toNat ∧ b.toNat ≠ 0x22 ∧ b.toNat ≠ 0x5C) := by
    rw [← isPlainByte_iff, h]
    simp
  have h20 : (0x20 : UInt8).toNat = 0x20 := rfl
  have h22 : (0x22 : UInt8).toNat = 0x22 := rfl
  have h5C : (0x5C : UInt8).toNat = 0x5C := rfl
  rw [UInt8.lt_iff_toNat_lt] at hcontrol
  rw [← UInt8.toNat_inj, ← UInt8.toNat_inj]
  omega

theorem reads_readPlain_iff : readPlain.Reads c cs rest ↔ (∀ ch ∈ cs, IsPlainChar ch) ∧
    c.rest = Text.Utf8.encode cs ++ rest ∧
      (rest.head? = some 0x22 ∨ rest.head? = some 0x5C) := by
  constructor
  · rintro ⟨c', hread, rfl⟩
    obtain ⟨run, bytes, hrun, hbytes, hc⟩ := exists_run isPlainByte c.rest
    have hafter : (c.skip run.length).rest = bytes := by simp [hc]
    simp only [readPlain, hc, takeWhile_run hrun hbytes, hafter] at hread
    cases bytes with
    | nil => simp [failHere] at hread
    | cons b bytes =>
        simp only [List.head?_cons] at hread
        split_ifs at hread with hcontrol
        · simp [failHere] at hread
        · cases hdecode : Text.Utf8.decode? run with
          | none => simp [hdecode, failNext] at hread
          | some ds =>
              obtain ⟨rfl, rfl⟩ : ds = cs ∧ c.skip run.length = c' := by
                simpa [hdecode] using hread
              obtain rfl := Text.Utf8.decode?_eq_some_iff.mp hdecode
              refine ⟨isPlainByte_encode_iff.mp hrun, by rw [hafter, hc], ?_⟩
              rw [hafter, List.head?_cons, Option.some_inj, Option.some_inj]
              exact eq_quote_or_backslash hcontrol (stops_cons.mp hbytes)
  · rintro ⟨hplain, hc, hhead⟩
    obtain ⟨b, tail, rfl, hb⟩ := exists_cons_of_head? hhead
    have hstops : Stops isPlainByte (b :: tail) := by
      rw [stops_cons]
      rcases hb with rfl | rfl <;> rfl
    have hcontrol : ¬ b < 0x20 := by rcases hb with rfl | rfl <;> decide
    have hafter : (c.skip (Text.Utf8.encode cs).length).rest = b :: tail := by simp [hc]
    refine ⟨c.skip (Text.Utf8.encode cs).length, ?_, hafter⟩
    simp [readPlain, hc, takeWhile_run (isPlainByte_encode_iff.mpr hplain) hstops, hcontrol,
      Text.Utf8.decode?_encode]

/-! ## Whole texts -/

theorem Spells.append_plain (hplain : ∀ ch ∈ run, IsPlainChar ch) (h : Spells bytes cs) :
    Spells (Text.Utf8.encode run ++ bytes) (run ++ cs) := by
  induction run with
  | nil => exact h
  | cons ch run ih =>
      obtain ⟨hch, hrun⟩ := List.forall_mem_cons.mp hplain
      rw [Text.Utf8.encode_cons, List.append_assoc]
      exact .plain hch (ih hrun)

theorem spells_encode (hplain : ∀ ch ∈ cs, IsPlainChar ch) : Spells (Text.Utf8.encode cs) cs := by
  simpa using Spells.nil.append_plain hplain

/-- A text begins with plain characters, and then it is at its end or goes on with an escape. -/
theorem Spells.exists_plain (h : Spells bytes cs) : ∃ run, (∀ ch ∈ run, IsPlainChar ch) ∧
    (bytes = Text.Utf8.encode run ∧ cs = run ∨
      ∃ escape ch more ds, IsEscape escape ch ∧ Spells more ds ∧
        bytes = Text.Utf8.encode run ++ 0x5C :: (escape ++ more) ∧ cs = run ++ ch :: ds) := by
  induction h with
  | nil => exact ⟨[], by simp, .inl ⟨rfl, rfl⟩⟩
  | @plain ch bytes cs hch _ ih =>
      obtain ⟨run, hrun, htail⟩ := ih
      refine ⟨ch :: run, List.forall_mem_cons.mpr ⟨hch, hrun⟩, ?_⟩
      rw [Text.Utf8.encode_cons]
      rcases htail with ⟨rfl, rfl⟩ | ⟨escape, e, more, ds, hescape, hmore, rfl, rfl⟩
      · exact .inl ⟨rfl, rfl⟩
      · exact .inr ⟨escape, e, more, ds, hescape, hmore, by simp, by simp⟩
  | @escape escape ch bytes cs hescape hmore _ =>
      exact ⟨[], by simp, .inr ⟨escape, ch, bytes, cs, hescape, hmore, rfl, rfl⟩⟩

theorem exists_of_reads_readPieces {fuel : Nat} {done s : String}
    (h : (readPieces fuel done).Reads c s rest) :
    ∃ bytes cs, Spells bytes cs ∧ c.rest = bytes ++ 0x22 :: rest ∧
      s.toList = done.toList ++ cs := by
  induction fuel generalizing c done with
  | zero => simp [readPieces] at h
  | succ fuel ih =>
      obtain ⟨run, after, hplain, h⟩ := Reads.of_bind h
      obtain ⟨hrun, hc, hhead⟩ := reads_readPlain_iff.mp hplain
      rw [reads_next_bind] at h
      obtain ⟨_, tail, hafter, rfl | rfl⟩ := exists_cons_of_head? hhead
      · simp only [hafter, List.head?_cons, if_true, reads_pure, Cursor.rest_advance,
          List.tail_cons] at h
        exact ⟨Text.Utf8.encode run, run, spells_encode hrun, by rw [hc, hafter, h.2],
          by simp [h.1]⟩
      · rw [hafter, List.head?_cons, if_neg (by decide)] at h
        obtain ⟨ch, mid, hescape, h⟩ := Reads.of_bind h
        obtain ⟨escape, hescape, htail⟩ := reads_readEscape_iff.mp hescape
        obtain ⟨more, cs, hmore, hmid, hs⟩ := ih h
        simp only [Cursor.rest_advance, hafter, List.tail_cons] at htail
        refine ⟨_, _, (Spells.escape hescape hmore).append_plain hrun, ?_, by simp [hs]⟩
        simp [hc, hafter, htail, hmid]

theorem reads_readPieces {fuel : Nat} {done s : String} (h : Spells bytes cs)
    (hfuel : bytes.length < fuel) (hc : c.rest = bytes ++ 0x22 :: rest)
    (hs : s.toList = done.toList ++ cs) : (readPieces fuel done).Reads c s rest := by
  induction fuel generalizing c done bytes cs with
  | zero => omega
  | succ fuel ih =>
      obtain ⟨run, hrun, htail⟩ := h.exists_plain
      unfold readPieces
      obtain ⟨rfl, rfl⟩ | ⟨escape, ch, more, ds, hescape, hmore, rfl, rfl⟩ := htail
      · refine Reads.bind (reads_readPlain_iff.mpr ⟨hrun, hc, by simp⟩) fun after hafter ↦ ?_
        have hdone : s = done ++ String.ofList cs := String.toList_inj.mp (by simp [hs])
        simp [hafter, hdone]
      · have hafter :
            c.rest = Text.Utf8.encode run ++ 0x5C :: (escape ++ (more ++ 0x22 :: rest)) := by
          simp [hc]
        refine Reads.bind (reads_readPlain_iff.mpr ⟨hrun, hafter, by simp⟩) fun after hafter ↦ ?_
        rw [reads_next_bind]
        rw [hafter, List.head?_cons, if_neg (by decide)]
        have hread : readEscape.Reads after.advance ch (more ++ 0x22 :: rest) :=
          reads_readEscape_iff.mpr ⟨escape, hescape, by simp [hafter]⟩
        refine hread.bind fun mid hmid ↦ ih hmore ?_ hmid (by simp [hs])
        simp only [List.length_append, List.length_cons] at hfuel
        omega

theorem reads_readText_iff {s : String} : readText.Reads c s rest ↔
    ∃ bytes, Spells bytes s.toList ∧ c.rest = bytes ++ 0x22 :: rest := by
  rw [readText, reads_ahead_bind]
  constructor
  · intro h
    obtain ⟨bytes, cs, hspells, hc, hs⟩ := exists_of_reads_readPieces h
    obtain rfl : s.toList = cs := by simpa using hs
    exact ⟨bytes, hspells, hc⟩
  · rintro ⟨bytes, hspells, hc⟩
    exact reads_readPieces hspells (by simp [hc]) hc (by simp)

/-! ## Texts that are passed over -/

theorem IsText.append_plain {run : List UInt8} (hplain : ∀ b ∈ run, isPlainByte b = true)
    (h : IsText bytes) : IsText (run ++ bytes) := by
  induction run with
  | nil => exact h
  | cons b run ih =>
      obtain ⟨hb, hrun⟩ := List.forall_mem_cons.mp hplain
      exact .plain hb (ih hrun)

theorem IsEscape.isText {escape : List UInt8} {ch : Char} (hescape : IsEscape escape ch)
    (h : IsText bytes) : IsText (0x5C :: (escape ++ bytes)) := by
  cases hescape with
  | short hmem => exact .escape hmem h
  | codePoint hpoint =>
      cases hpoint with
      | unit hdigits => exact .unit hdigits h
      | pair hdigits _ _ hdigits' =>
          rw [List.cons_append, List.append_assoc]
          exact .unit hdigits (.unit hdigits' h)

theorem Spells.isText (h : Spells bytes cs) : IsText bytes := by
  induction h with
  | nil => exact .nil
  | plain hch _ ih => exact ih.append_plain fun _ hb ↦ hch.isPlainByte hb
  | escape hescape _ ih => exact hescape.isText ih

theorem exists_mem_shortEscapes_iff {letter : UInt8} : (∃ ch, (letter, ch) ∈ shortEscapes) ↔
    (letter = 0x22 || letter = 0x5C || letter = 0x2F || letter = 0x62 || letter = 0x66 ||
      letter = 0x6E || letter = 0x72 || letter = 0x74) = true := by
  simp [shortEscapes, exists_or, or_assoc]

theorem exists_of_reads_skipText {fuel : Nat} (h : (skipText fuel).Reads c () rest) :
    ∃ bytes, IsText bytes ∧ c.rest = bytes ++ 0x22 :: rest := by
  induction fuel generalizing c with
  | zero => simp [skipText] at h
  | succ fuel ih =>
      rw [skipText, reads_peek_bind] at h
      cases hc : c.rest with
      | nil => simp [hc] at h
      | cons b tail =>
          rw [hc, List.head?_cons] at h
          dsimp only at h
          split_ifs at h with hquote hslash hcontrol
          · obtain rfl : tail = rest := by simpa [hc] using h
            exact ⟨[], .nil, by rw [hquote]; rfl⟩
          · rw [reads_advance_bind, reads_next_bind, Cursor.rest_advance, hc, List.tail_cons] at h
            cases tail with
            | nil => simp at h
            | cons e tail =>
                rw [List.head?_cons] at h
                dsimp only at h
                split_ifs at h with hshort hu
                · obtain ⟨ch, hmem⟩ := exists_mem_shortEscapes_iff.mpr hshort
                  obtain ⟨more, hmore, hrest⟩ := ih h
                  refine ⟨_, .escape hmem hmore, ?_⟩
                  simp only [Cursor.rest_advance, hc, List.tail_cons] at hrest
                  rw [hslash, hrest]
                  rfl
                · obtain ⟨n, mid, hhex, h⟩ := Reads.of_bind h
                  obtain ⟨digits, hdigits, htail⟩ := reads_readHex4_iff.mp hhex
                  obtain ⟨more, hmore, hrest⟩ := ih h
                  refine ⟨_, .unit hdigits hmore, ?_⟩
                  simp only [Cursor.rest_advance, hc, List.tail_cons] at htail
                  rw [hslash, hu, htail, hrest]
                  simp
                · simp at h
          · simp at h
          · obtain ⟨more, hmore, hrest⟩ := ih (reads_advance_bind.mp h)
            have hplain : isPlainByte b = true := by
              simpa [isPlainByte, hquote, hslash] using hcontrol
            refine ⟨_, .plain hplain hmore, ?_⟩
            simpa [hc] using hrest

theorem reads_skipText {fuel : Nat} (h : IsText bytes) (hfuel : bytes.length < fuel)
    (hc : c.rest = bytes ++ 0x22 :: rest) : (skipText fuel).Reads c () rest := by
  induction fuel generalizing c bytes with
  | zero => omega
  | succ fuel ih =>
      rw [skipText, reads_peek_bind]
      cases h with
      | nil => simp [hc]
      | @plain b bytes hplain hmore =>
          obtain ⟨hcontrol, hquote, hslash⟩ : ¬ b < 0x20 ∧ b ≠ 0x22 ∧ b ≠ 0x5C := by
            simpa [isPlainByte, and_assoc] using hplain
          rw [hc, List.cons_append, List.head?_cons]
          simp only [hquote, hslash, hcontrol, if_false, reads_advance_bind]
          exact ih hmore (Nat.lt_of_succ_lt_succ hfuel) (by simp [hc])
      | @escape letter ch bytes hmem hmore =>
          have hshort := exists_mem_shortEscapes_iff.mp ⟨ch, hmem⟩
          have hread : (skipText fuel).Reads c.advance.advance () rest := by
            refine ih hmore ?_ (by simp [hc])
            simp only [List.length_cons] at hfuel
            omega
          simp only [Bool.or_eq_true, decide_eq_true_eq] at hshort
          simpa [hc, hshort] using hread
      | @unit digits n bytes hdigits hmore =>
          have hread : (readHex4 >>= fun _ ↦ skipText fuel).Reads c.advance.advance () rest := by
            have hhex : readHex4.Reads c.advance.advance n (bytes ++ 0x22 :: rest) :=
              reads_readHex4_iff.mpr ⟨digits, hdigits, by simp [hc]⟩
            refine hhex.bind fun mid hmid ↦ ih hmore ?_ hmid
            simp only [List.length_cons, List.length_append] at hfuel
            omega
          simpa [hc] using hread

theorem reads_skipText_iff : (skipText (c.rest.length + 1)).Reads c () rest ↔
    ∃ bytes, IsText bytes ∧ c.rest = bytes ++ 0x22 :: rest := by
  constructor
  · exact exists_of_reads_skipText
  · rintro ⟨bytes, htext, hc⟩
    exact reads_skipText htext (by simp [hc]) hc

end TileFetch.Json
