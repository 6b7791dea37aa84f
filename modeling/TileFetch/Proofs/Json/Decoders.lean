import TileFetch.Proofs.Json.Skip

/-!
# What decoders accept

A decoder reflects a relation between trees and values if it reads exactly the values of trees
that are related to something, and reads that.  Errors and places are left out of it.
-/

namespace TileFetch.Json

open Reader

variable {α β : Type} {a : α} {c : Cursor} {rest : List UInt8} {depth : Nat}

/-! ## What single trees say -/

def Tree.IsString (tree : Tree) (s : String) : Prop :=
  ∃ spelling, tree = .text spelling ∧ Spells spelling s.toList

def Tree.IsInteger (lowest highest : Int) (tree : Tree) (i : Int) : Prop :=
  ∃ spelling, tree = .number spelling ∧ SpellsInt spelling i ∧ lowest ≤ i ∧ i ≤ highest

def Tree.IsInt64 : Tree → Int → Prop :=
  IsInteger (-2 ^ 63) (2 ^ 63 - 1)

def Tree.IsOption (M : Tree → α → Prop) (tree : Tree) (value : Option α) : Prop :=
  tree = .null ∧ value = none ∨ ∃ a, M tree a ∧ value = some a

/-! ## Reflection -/

structure Decoder.Takes (d : Decoder α) (depth : Nat) (tree : Tree) (a : α) : Prop where
  reads {c : Cursor} {blanks value rest : List UInt8} : Blank blanks → IsValue tree value →
    tree.EndsBefore rest → c.rest = blanks ++ (value ++ rest) → (d.read depth).Reads c a rest

/-- The decoder reads the values of the trees that `M` relates to something, and no others. -/
structure Decoder.Reflects (d : Decoder α) (depth : Nat) (M : Tree → α → Prop) : Prop where
  sound {c : Cursor} {a : α} {rest : List UInt8} : (d.read depth).Reads c a rest →
    ∃ blanks tree value, Blank blanks ∧ IsValue tree value ∧ M tree a ∧
      c.rest = blanks ++ (value ++ rest)
  complete {c : Cursor} {a : α} {blanks value rest : List UInt8} {tree : Tree} :
    Blank blanks → IsValue tree value → M tree a → tree.EndsBefore rest →
      c.rest = blanks ++ (value ++ rest) → (d.read depth).Reads c a rest

namespace Decoder

theorem Reflects.takes {d : Decoder α} {M : Tree → α → Prop} {tree : Tree}
    (h : d.Reflects depth M) (hM : M tree a) : d.Takes depth tree a where
  reads hblanks hvalue hends hc := h.complete hblanks hvalue hM hends hc

theorem Reflects.congr {d : Decoder α} {M N : Tree → α → Prop} (h : d.Reflects depth M)
    (hN : ∀ tree a, N tree a ↔ M tree a) : d.Reflects depth N := by
  obtain rfl : N = M := funext₂ fun tree a ↦ propext (hN tree a)
  exact h

theorem reflects_ignored : ignored.Reflects depth fun _ _ ↦ True where
  sound h := by
    obtain ⟨blanks, tree, value, hblanks, hvalue, hc⟩ := exists_of_reads_skip h
    exact ⟨blanks, tree, value, hblanks, hvalue, trivial, hc⟩
  complete hblanks hvalue _ hends hc := reads_skip hblanks hvalue hends hc

theorem Takes.map {d : Decoder α} {tree : Tree} (h : d.Takes depth tree a) (f : α → β) :
    (d.map f).Takes depth tree (f a) where
  reads hblanks hvalue hends hc :=
    (h.reads hblanks hvalue hends hc).bind fun _ hmid ↦ reads_pure.mpr ⟨rfl, hmid⟩

theorem Reflects.map {d : Decoder α} {M : Tree → α → Prop} (h : d.Reflects depth M) (f : α → β) :
    (d.map f).Reflects depth fun tree b ↦ ∃ a, M tree a ∧ b = f a where
  sound hread := by
    obtain ⟨a, mid, hd, hread⟩ := Reads.of_bind hread
    obtain ⟨rfl, rfl⟩ := reads_pure.mp hread
    obtain ⟨blanks, tree, value, hblanks, hvalue, hM, hc⟩ := h.sound hd
    exact ⟨blanks, tree, value, hblanks, hvalue, ⟨a, hM, rfl⟩, hc⟩
  complete := by
    rintro c _ blanks value rest tree hblanks hvalue ⟨a, hM, rfl⟩ hends hc
    exact ((h.takes hM).map f).reads hblanks hvalue hends hc

theorem not_reads_refuseType {expected : String} :
    ¬ (refuseType expected : Reader α).Reads c a rest := by
  intro h
  rw [refuseType, reads_peek_bind] at h
  split at h
  · split_ifs at h
    · obtain ⟨_, _, h⟩ := h.of_word
      exact not_reads_refuse h
    · obtain ⟨_, _, h⟩ := h.of_word
      exact not_reads_refuse h
    · obtain ⟨_, _, h⟩ := h.of_word
      exact not_reads_refuse h
    · obtain ⟨_, _, -, h⟩ := Reads.of_bind (reads_advance_bind.mp h)
      exact not_reads_refuse h
    · obtain ⟨_, _, -, h⟩ := h.of_bind
      exact not_reads_refuse h
    · obtain ⟨_, _, -, h⟩ := Reads.of_bind (reads_advance_bind.mp h)
      exact not_reads_refuse h
    all_goals simp at h
  · simp at h

theorem reflects_string : string.Reflects depth Tree.IsString where
  sound := by
    intro c s rest h
    obtain ⟨blanks, mid, b, tail, hblanks, hc, -, hmid, h⟩ :=
      Reads.of_token_cons (reads_placed.mp h) (by simp)
    dsimp only at h
    split_ifs at h with hquote
    · obtain ⟨spelling, hspells, htail⟩ := reads_readText_iff.mp (reads_advance_bind.mp h)
      rw [Cursor.rest_advance, hmid, List.tail_cons] at htail
      refine ⟨blanks, _, _, hblanks, .text hspells.isText, ⟨spelling, rfl, hspells⟩, ?_⟩
      simp [hc, hmid, hquote, htail]
    · exact (not_reads_refuseType h).elim
  complete := by
    rintro c s blanks _ rest _ hblanks hvalue ⟨spelling, rfl, hspells⟩ - hc
    cases hvalue
    refine reads_placed.mpr (Reads.token hblanks (stops_cons.mpr rfl) hc fun mid hmid ↦ ?_)
    change (advance >>= fun _ ↦ readText).Reads mid s rest
    rw [reads_advance_bind, reads_readText_iff]
    exact ⟨spelling, hspells, by simp [hmid]⟩

theorem takes_option_none {d : Decoder α} : d.option.Takes depth .null none where
  reads := by
    rintro c blanks _ rest hblanks ⟨⟩ - hc
    refine Reads.token hblanks (stops_cons.mpr rfl) hc fun mid hmid ↦ ?_
    exact Reads.word hmid fun end_ hend ↦ reads_pure.mpr ⟨rfl, hend⟩

theorem Takes.option {d : Decoder α} {tree : Tree} (h : d.Takes depth tree a)
    (hne : tree ≠ .null) : d.option.Takes depth tree (some a) where
  reads := by
    intro c blanks value rest hblanks hvalue hends hc
    refine Reads.token hblanks (hvalue.stops rest) hc fun mid hmid ↦ ?_
    have hread : (d.read depth >>= fun a ↦ pure (some a)).Reads mid (some a) rest :=
      (h.reads blank_nil hvalue hends hmid).bind fun end_ hend ↦ reads_pure.mpr ⟨rfl, hend⟩
    obtain ⟨b, more, rfl, hb⟩ := hvalue.exists_cons
    have hnot : b ≠ 0x6E := by
      rintro rfl
      cases tree with
      | null => exact hne rfl
      | bool value => cases value <;> simp [Tree.opening] at hb
      | _ => simp [Tree.opening, isDigitByte] at hb
    rw [List.cons_append, List.head?_cons]
    dsimp only
    rwa [if_neg hnot]

theorem reflects_option {d : Decoder α} {M : Tree → α → Prop} (h : d.Reflects depth M)
    (hnull : ∀ a, ¬ M .null a) : d.option.Reflects depth (Tree.IsOption M) where
  sound := by
    intro c o rest hread
    obtain ⟨blanks, mid, hblanks, hc, -, hread⟩ := Reads.of_token hread
    have hsome : ∀ {o : Option α}, (d.read depth >>= fun a ↦ pure (some a)).Reads mid o rest →
        ∃ blanks tree value, Blank blanks ∧ IsValue tree value ∧ tree.IsOption M o ∧
          c.rest = blanks ++ (value ++ rest) := by
      intro o hread
      obtain ⟨a, end_, hd, hread⟩ := hread.of_bind
      obtain ⟨rfl, rfl⟩ := reads_pure.mp hread
      obtain ⟨gap, tree, value, hgap, hvalue, hM, hmid⟩ := h.sound hd
      exact ⟨blanks ++ gap, tree, value, hblanks.append hgap, hvalue, .inr ⟨a, hM, rfl⟩,
        by simp [hc, hmid]⟩
    cases hmid : mid.rest with
    | nil => exact hsome (by simpa [hmid] using hread)
    | cons b tail =>
        rw [hmid, List.head?_cons] at hread
        dsimp only at hread
        split_ifs at hread with hb
        · obtain ⟨end_, hword, hread⟩ := hread.of_word
          obtain ⟨rfl, rfl⟩ := reads_pure.mp hread
          rw [hmid, List.tail_cons] at hword
          refine ⟨blanks, _, _, hblanks, .null, .inl ⟨rfl, rfl⟩, ?_⟩
          rw [hc, hmid, hb, hword]
          rfl
        · exact hsome hread
  complete := by
    rintro c o blanks value rest tree hblanks hvalue (⟨rfl, rfl⟩ | ⟨a, hM, rfl⟩) hends hc
    · exact takes_option_none.reads hblanks hvalue hends hc
    · have hne : tree ≠ .null := by
        rintro rfl
        exact hnull a hM
      exact ((h.takes hM).option hne).reads hblanks hvalue hends hc

/-! ## Integers -/

def signBytes (negative : Bool) : List UInt8 :=
  if negative then [0x2D] else []

theorem isNumber_signBytes_append {negative : Bool} {whole : List UInt8} (h : IsNatural whole) :
    IsNumber (signBytes negative ++ whole) := by
  have hmagnitude : IsMagnitude whole := ⟨whole, [], [], h, .inl rfl, .inl rfl, by simp⟩
  cases negative with
  | true => exact .inr ⟨whole, hmagnitude, rfl⟩
  | false => exact .inl hmagnitude

theorem spellsInt_iff {spelling : List UInt8} {i : Int} (hlow : -2 ^ 63 ≤ i) :
    SpellsInt spelling i ↔ ∃ negative whole, IsNatural whole ∧
      IsKept negative (digitsValue whole) i ∧ spelling = signBytes negative ++ whole := by
  constructor
  · rintro (hwhole | ⟨hwhole, hne⟩)
    · exact ⟨false, _, hwhole, rfl, rfl⟩
    · exact ⟨true, _, hwhole, ⟨hne, by omega, rfl⟩, rfl⟩
  · rintro ⟨negative, whole, hwhole, hkept, rfl⟩
    cases negative with
    | true =>
        obtain ⟨hne, -, rfl⟩ := hkept
        exact .negative hwhole hne
    | false =>
        obtain rfl : i = digitsValue whole := hkept
        exact .natural hwhole

section

variable {expected : String} {accept : Number → Except Cause α}

theorem exists_of_reads_number (h : ((number expected accept).read depth).Reads c a rest) :
    ∃ blanks negative n mid, Blank blanks ∧ (readNumber negative).Reads mid n rest ∧
      accept n = .ok a ∧ c.rest = blanks ++ (signBytes negative ++ mid.rest) := by
  obtain ⟨blanks, mid, b, tail, hblanks, hc, -, hmid, h⟩ :=
    Reads.of_token_cons (reads_placed.mp h) (by simp)
  dsimp only at h
  split_ifs at h with hminus hdigit
  · obtain ⟨n, end_, hnumber, h⟩ := Reads.of_bind (reads_advance_bind.mp h)
    split at h
    · rename_i haccept
      obtain ⟨rfl, rfl⟩ := reads_pure.mp h
      refine ⟨blanks, true, n, mid.advance, hblanks, hnumber, haccept, ?_⟩
      simp [hc, hmid, hminus, signBytes]
    · simp at h
  · obtain ⟨n, end_, hnumber, h⟩ := Reads.of_bind h
    split at h
    · rename_i haccept
      obtain ⟨rfl, rfl⟩ := reads_pure.mp h
      exact ⟨blanks, false, n, mid, hblanks, hnumber, haccept, hc⟩
    · simp at h
  · exact (not_reads_refuseType h).elim

theorem reads_number {blanks : List UInt8} {negative : Bool} {n : Number} {b : UInt8}
    {bytes : List UInt8} (hblanks : Blank blanks) (hb : isDigitByte b = true)
    (hc : c.rest = blanks ++ (signBytes negative ++ b :: bytes))
    (hread : ∀ mid : Cursor, mid.rest = b :: bytes → (readNumber negative).Reads mid n rest)
    (haccept : accept n = .ok a) : ((number expected accept).read depth).Reads c a rest := by
  have htake {f : Number → Reader α} (hf : f n = pure a) (mid : Cursor)
      (hmid : mid.rest = b :: bytes) : (readNumber negative >>= f).Reads mid a rest := by
    refine (hread mid hmid).bind fun end_ hend ↦ ?_
    rw [hf]
    exact reads_pure.mpr ⟨rfl, hend⟩
  apply reads_placed.mpr
  cases negative with
  | true =>
      refine Reads.token hblanks (stops_cons.mpr rfl) hc fun mid hmid ↦ ?_
      exact reads_advance_bind.mpr (htake (by simp only [haccept]) mid.advance (by simp [hmid]))
  | false =>
      have hblank : isBlankByte b = false := by
        rw [← Bool.not_eq_true, isBlankByte_iff]
        rintro (rfl | rfl | rfl | rfl) <;> simp [isDigitByte] at hb
      have hminus : b ≠ 0x2D := by
        rintro rfl
        simp [isDigitByte] at hb
      refine Reads.token hblanks (stops_cons.mpr hblank) hc fun mid hmid ↦ ?_
      rw [List.head?_cons]
      dsimp only
      rw [if_neg hminus, if_pos hb]
      exact htake (by simp only [haccept]) mid hmid

end

theorem reflects_integer {expected : String} {lowest highest : Int} (hlowest : -2 ^ 63 ≤ lowest)
    (hhighest : highest < 2 ^ 64) :
    (integer expected lowest highest).Reflects depth (Tree.IsInteger lowest highest) where
  sound := by
    intro c i rest h
    obtain ⟨blanks, negative, n, mid, hblanks, hnumber, haccept, hc⟩ := exists_of_reads_number h
    cases n with
    | real x => simp at haccept
    | int j =>
        dsimp only at haccept
        split_ifs at haccept with hrange
        obtain rfl := Except.ok.inj haccept
        simp only [Bool.and_eq_true, decide_eq_true_eq] at hrange
        obtain ⟨whole, hwhole, hkept, hmid⟩ := exists_of_reads_readNumber hnumber
        have hspells := (spellsInt_iff (hlowest.trans hrange.1)).mpr
          ⟨negative, whole, hwhole, hkept, rfl⟩
        refine ⟨blanks, _, _, hblanks, .number (isNumber_signBytes_append hwhole),
          ⟨_, rfl, hspells, hrange⟩, ?_⟩
        rw [hc, hmid, List.append_assoc]
  complete := by
    rintro c i blanks _ rest _ hblanks hvalue ⟨spelling, rfl, hspells, hlow, hhigh⟩ hends hc
    cases hvalue
    obtain ⟨negative, whole, hwhole, hkept, rfl⟩ := (spellsInt_iff (hlowest.trans hlow)).mp hspells
    have hfits : digitsValue whole ≤ maxNat64 := by
      change digitsValue whole ≤ 18446744073709551615
      cases negative with
      | true =>
          have hbound := hkept.2.1
          omega
      | false =>
          have heq : i = digitsValue whole := hkept
          omega
    have hread : ∀ mid : Cursor, mid.rest = whole ++ rest →
        (readNumber negative).Reads mid (.int i) rest :=
      fun mid hmid ↦ reads_readNumber hwhole hkept hfits (hends _ rfl) hmid
    obtain ⟨b, run, rfl⟩ := List.exists_cons_of_ne_nil hwhole.1.1
    refine reads_number hblanks (hwhole.1.2 b List.mem_cons_self) (by simpa using hc) hread ?_
    simp [hlow, hhigh]

theorem reflects_int64 : (signed 64).Reflects depth Tree.IsInt64 :=
  reflects_integer (by decide) (by decide)

/-! ## The first value of a text -/

theorem fst_eq_ok_iff {r : Reader α} : (r c).1 = .ok a ↔ ∃ rest, r.Reads c a rest := by
  unfold Reads
  rcases r c with ⟨_ | _, after⟩ <;> simp

theorem parseLeading_eq_ok_iff {d : Decoder α} {bytes : List UInt8} :
    d.parseLeading bytes = .ok a ↔
      ∃ rest, (d.read nestingLimit).Reads (Cursor.start bytes) a rest :=
  fst_eq_ok_iff

theorem parse_eq_ok_iff {d : Decoder α} {bytes : List UInt8} :
    d.parse bytes = .ok a ↔
      ∃ rest, (d.read nestingLimit).Reads (Cursor.start bytes) a rest ∧ Blank rest := by
  refine fst_eq_ok_iff.trans ⟨?_, ?_⟩
  · rintro ⟨rest, h⟩
    obtain ⟨b, after, hread, h⟩ := h.of_bind
    obtain ⟨blanks, mid, hblanks, hafter, -, h⟩ := h.of_token
    split at h
    · rename_i hend
      obtain ⟨rfl, -⟩ := reads_pure.mp h
      rw [List.head?_eq_none_iff.mp hend, List.append_nil] at hafter
      exact ⟨after.rest, hread, hafter ▸ hblanks⟩
    · simp at h
  · rintro ⟨rest, hread, hblank⟩
    refine ⟨[], hread.bind fun after hafter ↦ ?_⟩
    refine Reads.token hblank stops_nil (by simpa using hafter) fun mid hmid ↦ ?_
    exact reads_pure.mpr ⟨rfl, hmid⟩

theorem Takes.parse {d : Decoder α} {tree : Tree} {bytes : List UInt8}
    (h : d.Takes nestingLimit tree a) (hdocument : IsDocument tree bytes) :
    d.parse bytes = .ok a := by
  obtain ⟨before, value, after, hbefore, hvalue, hafter, rfl⟩ := hdocument
  exact parse_eq_ok_iff.mpr ⟨after,
    h.reads hbefore hvalue (hafter.stops_isNumberByte.endsBefore tree) (by simp), hafter⟩

section

variable {d : Decoder α} {M : Tree → α → Prop} {tree : Tree} {lead tail : List UInt8}

theorem Reflects.reads_first_iff (hd : d.Reflects depth M)
    (hM : ∀ spelling a, ¬ M (.number spelling) a)
    (hfirst : IsFirstValue tree lead tail) :
    (d.read depth).Reads (Cursor.start (lead ++ tail)) a rest ↔ M tree a ∧ rest = tail := by
  obtain ⟨before, value, hbefore, hvalue, hends, rfl⟩ := hfirst
  constructor
  · intro h
    obtain ⟨blanks, tree', value', hblanks, hvalue', ha, hc⟩ := hd.sound h
    have hends' : tree'.EndsBefore rest := by
      rintro spelling rfl
      exact (hM spelling a ha).elim
    rw [Cursor.rest_start, List.append_assoc] at hc
    have htail := (run_unique hbefore (hvalue.stops tail) hblanks (hvalue'.stops rest) hc).2
    obtain ⟨rfl, rfl⟩ := hvalue.unique hvalue' htail hends hends'
    exact ⟨ha, rfl⟩
  · rintro ⟨ha, rfl⟩
    exact hd.complete hbefore hvalue ha hends (by simp)

theorem Reflects.parseLeading_iff (hd : d.Reflects nestingLimit M)
    (hM : ∀ spelling a, ¬ M (.number spelling) a) (hfirst : IsFirstValue tree lead tail) :
    d.parseLeading (lead ++ tail) = .ok a ↔ M tree a := by
  rw [parseLeading_eq_ok_iff]
  simp only [hd.reads_first_iff hM hfirst, exists_and_left, exists_eq, and_true]

theorem Reflects.parse_iff (hd : d.Reflects nestingLimit M)
    (hM : ∀ spelling a, ¬ M (.number spelling) a) (hfirst : IsFirstValue tree lead tail) :
    d.parse (lead ++ tail) = .ok a ↔ M tree a ∧ Blank tail := by
  rw [parse_eq_ok_iff]
  simp only [hd.reads_first_iff hM hfirst, and_assoc, exists_and_left, exists_eq_left]

end

end Decoder

end TileFetch.Json
