import TileFetch.Json.Writer
import TileFetch.Proofs.Json.Decoders

/-!
# What is written

Whatever is written is a value of the grammar, without blanks: `isValue_write`.  Its tree spells
the texts and the integers that were written.
-/

namespace TileFetch.Json

open Text.Utf8 (encode encode_append encode_cons utf8EncodeChar_ascii)

variable {cs ds : List Char} {ch : Char} {n : Nat}

/-! ## ASCII characters -/

theorem encode_cons_ascii (h : ch.toNat < 0x80) : encode (ch :: cs) = byteOf ch :: encode cs := by
  rw [encode_cons, utf8EncodeChar_ascii h]
  rfl

theorem encode_ascii (h : ∀ ch ∈ cs, ch.toNat < 0x80) : encode cs = cs.map byteOf := by
  induction cs with
  | nil => rfl
  | cons ch cs ih =>
      obtain ⟨hch, hcs⟩ := List.forall_mem_cons.mp h
      rw [encode_cons_ascii hch, ih hcs, List.map_cons]

theorem toNat_byteOf (h : ch.toNat < 0x80) : (byteOf ch).toNat = ch.toNat :=
  Text.Utf8.toNat_ofNat (by omega)

/-! ## Digits -/

theorem isDigit_bounds (h : ch.isDigit = true) : 0x30 ≤ ch.toNat ∧ ch.toNat ≤ 0x39 := by
  simpa [Char.isDigit, UInt32.le_iff_toNat_le] using h

theorem isDigitByte_byteOf (h : ch.isDigit = true) : isDigitByte (byteOf ch) = true := by
  have hbounds := isDigit_bounds h
  have hbyte : (byteOf ch).toNat = ch.toNat := toNat_byteOf (by omega)
  simp [isDigitByte, UInt8.le_iff_toNat_le, hbyte, hbounds]

theorem digitOfByte_byteOf (h : ch.isDigit = true) : digitOfByte (byteOf ch) = ch.toNat - 0x30 := by
  have hbounds := isDigit_bounds h
  rw [digitOfByte, toNat_byteOf (by omega)]

theorem encode_digits (h : ∀ ch ∈ cs, ch.isDigit = true) : encode cs = cs.map byteOf :=
  encode_ascii fun ch hch ↦ by
    have hbounds := isDigit_bounds (h ch hch)
    omega

theorem isDigits_encode (hne : cs ≠ []) (h : ∀ ch ∈ cs, ch.isDigit = true) :
    IsDigits (encode cs) := by
  rw [encode_digits h]
  refine ⟨by simpa using hne, fun b hb ↦ ?_⟩
  obtain ⟨ch, hch, rfl⟩ := List.mem_map.mp hb
  exact isDigitByte_byteOf (h ch hch)

theorem isNatural_encode (hne : cs ≠ []) (h : ∀ ch ∈ cs, ch.isDigit = true)
    (hhead : cs.head? ≠ some '0') : IsNatural (encode cs) := by
  refine ⟨isDigits_encode hne h, fun hzero ↦ (hhead ?_).elim⟩
  obtain ⟨ch, cs, rfl⟩ := List.exists_cons_of_ne_nil hne
  have hbounds := isDigit_bounds (h ch List.mem_cons_self)
  rw [encode_digits h, List.map_cons, List.head?_cons, Option.some_inj, ← UInt8.toNat_inj,
    toNat_byteOf (by omega)] at hzero
  rw [List.head?_cons, Option.some_inj, ← Char.toNat_inj, hzero]
  rfl

theorem isDigit_of_mem_toDigits (h : ch ∈ Nat.toDigits 10 n) : ch.isDigit = true :=
  Nat.isDigit_of_mem_toDigits (by decide) (by decide) h

theorem head?_toDigits_ne (h : n ≠ 0) : (Nat.toDigits 10 n).head? ≠ some '0' := by
  induction n using Nat.strong_induction_on with
  | _ n ih =>
      rw [Nat.toDigits_eq_if (by decide)]
      split_ifs with hn
      · interval_cases n <;> simp_all
      · have hhead := ih (n / 10) (by omega) (by omega)
        rwa [List.head?_append_of_ne_nil _ Nat.toDigits_ne_nil]

theorem isNatural_toDigits (n : Nat) : IsNatural (encode (Nat.toDigits 10 n)) := by
  by_cases hn : n = 0
  · subst hn
    exact isNatural_iff.mpr (.inl rfl)
  · exact isNatural_encode Nat.toDigits_ne_nil (fun _ ↦ isDigit_of_mem_toDigits)
      (head?_toDigits_ne hn)

theorem digitsAfter_encode (h : ∀ ch ∈ cs, ch.isDigit = true) (n : Nat) :
    digitsAfter n (encode cs) = Nat.ofDigitChars 10 cs n := by
  rw [encode_digits h]
  induction cs generalizing n with
  | nil => rfl
  | cons ch cs ih =>
      obtain ⟨hch, hcs⟩ := List.forall_mem_cons.mp h
      rw [List.map_cons, digitsAfter_cons, ih hcs, digitOfByte_byteOf hch, Nat.mul_comm]
      rfl

theorem digitsValue_toDigits (n : Nat) : digitsValue (encode (Nat.toDigits 10 n)) = n :=
  (digitsAfter_encode (fun _ ↦ isDigit_of_mem_toDigits) 0).trans Nat.ofDigitChars_ten_toDigits

/-! ## Numbers -/

theorem spellsInt_writeInt (i : Int) : SpellsInt (encode (writeInt i)) i := by
  cases i with
  | ofNat n =>
      have h := SpellsInt.natural (isNatural_toDigits n)
      rwa [digitsValue_toDigits] at h
  | negSucc n =>
      have h := SpellsInt.negative (isNatural_toDigits (n + 1))
        (by rw [digitsValue_toDigits]; omega)
      rwa [digitsValue_toDigits] at h

theorem SpellsInt.isNumber {bytes : List UInt8} {i : Int} (h : SpellsInt bytes i) :
    IsNumber bytes := by
  cases h with
  | natural h => exact @Decoder.isNumber_signBytes_append false _ h
  | negative h _ => exact @Decoder.isNumber_signBytes_append true _ h

theorem isFraction_encode (hne : cs ≠ []) (h : ∀ ch ∈ cs, ch.isDigit = true) :
    IsFraction (encode ('.' :: cs)) :=
  .inr ⟨encode cs, isDigits_encode hne h, encode_cons_ascii (by decide)⟩

theorem isExponent_encode {sign : Char} (hsign : sign = '+' ∨ sign = '-') (n : Nat) :
    IsExponent (encode ('e' :: sign :: Nat.toDigits 10 n)) := by
  refine .inr ⟨0x65, [byteOf sign], _, .inl rfl, .inr ?_, (isNatural_toDigits n).1, ?_⟩
  · rcases hsign with rfl | rfl
    · exact .inl rfl
    · exact .inr rfl
  · rcases hsign with rfl | rfl <;> rfl

theorem isMagnitude_encode {whole fraction exponent : List Char}
    (hwhole : IsNatural (encode whole)) (hfraction : IsFraction (encode fraction))
    (hexponent : IsExponent (encode exponent)) :
    IsMagnitude (encode (whole ++ fraction ++ exponent)) :=
  ⟨_, _, _, hwhole, hfraction, hexponent, by simp only [encode_append]⟩

theorem isMagnitude_write (format : RealFormat) (d : Number.Decimal) :
    IsMagnitude (encode (format.write d)) := by
  have hpoint : ∀ whole fraction : List Char, IsNatural (encode whole) → fraction ≠ [] →
      (∀ ch ∈ fraction, ch.isDigit = true) →
      IsMagnitude (encode (whole ++ '.' :: fraction)) := by
    intro whole fraction hwhole hne hfraction
    rw [← List.append_nil (whole ++ '.' :: fraction)]
    exact isMagnitude_encode hwhole (isFraction_encode hne hfraction) (.inl rfl)
  have hzeros : ∀ {n : Nat}, ∀ ch ∈ List.replicate n '0', ch.isDigit = true := by
    intro n ch hch
    rw [List.eq_of_mem_replicate hch]
    rfl
  unfold RealFormat.write
  by_cases hzero : d.digits = 0
  · rw [if_pos hzero]
    exact hpoint ['0'] ['0'] (isNatural_toDigits 0) (by simp)
      (hzeros (n := 1))
  have hdigits : ∀ ch ∈ Nat.toDigits 10 d.digits, ch.isDigit = true :=
    fun _ ↦ isDigit_of_mem_toDigits
  have hne : Nat.toDigits 10 d.digits ≠ [] := Nat.toDigits_ne_nil
  have hhead := head?_toDigits_ne hzero
  rw [if_neg hzero]
  generalize Nat.toDigits 10 d.digits = digits at hdigits hne hhead
  have hlength := List.length_pos_iff.mpr hne
  -- The digits before the point are the first ones, so that they do not begin with a zero.
  have hwhole : ∀ {n : Nat}, 0 < n → IsNatural (encode (digits.take n)) := by
    intro n hn
    refine isNatural_encode ?_ (fun ch hch ↦ hdigits ch (List.mem_of_mem_take hch)) ?_
    · rw [ne_eq, List.take_eq_nil_iff]
      rintro (rfl | hnil)
      · simp at hn
      · exact hne hnil
    · rwa [List.head?_take, if_neg hn.ne']
  dsimp only
  split_ifs with hplaces hexponent hfirst
  · refine hpoint _ _ (isNatural_encode ?_ ?_ ?_) (by simp) (hzeros (n := 1))
    · simp [hne]
    · intro ch hch
      exact (List.mem_append.mp hch).elim (hdigits ch) (hzeros ch)
    · rwa [List.head?_append_of_ne_nil _ hne]
  · refine hpoint _ _ (hwhole (by omega)) ?_ fun ch hch ↦ hdigits ch (List.mem_of_mem_drop hch)
    rw [ne_eq, List.drop_eq_nil_iff]
    omega
  · refine hpoint ['0'] _ (isNatural_toDigits 0) (by simp [hne]) fun ch hch ↦ ?_
    exact (List.mem_append.mp hch).elim (hzeros ch) (hdigits ch)
  all_goals
    refine isMagnitude_encode (hwhole Nat.one_pos) ?_ (isExponent_encode (by simp) _)
  · exact .inl rfl
  · exact .inl rfl
  all_goals
    refine isFraction_encode ?_ fun ch hch ↦ hdigits ch (List.mem_of_mem_drop hch)
    rw [ne_eq, List.drop_eq_nil_iff]
    omega

theorem isNumber_writeNumber (n : Number) : IsNumber (encode (writeNumber n)) := by
  cases n with
  | int i => exact (spellsInt_writeInt i).isNumber
  | real x =>
      rw [writeNumber, writeReal]
      split_ifs
      · exact .inr ⟨_, isMagnitude_write _ _, encode_cons_ascii (by decide)⟩
      · exact .inl (isMagnitude_write _ _)

/-! ## Texts -/

def spelling (s : String) : List UInt8 :=
  encode (s.toList.flatMap escapedChar)

theorem isHex4_control (h : n < 0x20) :
    IsHex4 (encode ['0', '0', Nat.digitChar (n / 16), Nat.digitChar (n % 16)]) n := by
  have hdigit : ∀ d < 16, hexDigit? (byteOf (Nat.digitChar d)) = some d := by decide
  have hascii : ∀ d < 16, (Nat.digitChar d).toNat < 0x80 := by decide
  have hbytes : encode ['0', '0', Nat.digitChar (n / 16), Nat.digitChar (n % 16)] =
      [byteOf '0', byteOf '0', byteOf (Nat.digitChar (n / 16)), byteOf (Nat.digitChar (n % 16))] := by
    rw [encode_cons_ascii (by decide), encode_cons_ascii (by decide),
      encode_cons_ascii (hascii _ (by omega)), encode_cons_ascii (hascii _ (by omega))]
    rfl
  have h4 := IsHex4.mk (hdigit 0 (by decide)) (hdigit 0 (by decide)) (hdigit (n / 16) (by omega))
    (hdigit (n % 16) (by omega))
  have hvalue : ((0 * 16 + 0) * 16 + n / 16) * 16 + n % 16 = n := by omega
  rw [hbytes]
  rwa [hvalue] at h4

theorem spells_escapedChar {bytes : List UInt8} (h : Spells bytes cs) :
    Spells (encode (escapedChar ch) ++ bytes) (ch :: cs) := by
  have hshort : ∀ letter {ch : Char}, (byteOf letter, ch) ∈ shortEscapes →
      encode ['\\', letter] = [0x5C, byteOf letter] →
      Spells (encode ['\\', letter] ++ bytes) (ch :: cs) := by
    intro letter ch hmem hbytes
    rw [hbytes]
    exact .escape (.short hmem) h
  unfold escapedChar
  split_ifs with h1 h2 h3 h4 h5 h6 h7 h8
  · exact hshort '"' (by rw [h1]; decide) rfl
  · exact hshort '\\' (by rw [h2]; decide) rfl
  · exact hshort _ (by rw [h3]; decide) rfl
  · exact hshort _ (by rw [h4]; decide) rfl
  · exact hshort _ (by rw [h5]; decide) rfl
  · exact hshort _ (by rw [h6]; decide) rfl
  · exact hshort _ (by rw [h7]; decide) rfl
  · have hpoint := IsCodePoint.unit (isHex4_control h8) (.inl (by omega))
    rw [Char.ofNat_toNat] at hpoint
    have hspells := Spells.escape (.codePoint hpoint) h
    rw [encode_cons_ascii (by decide), encode_cons_ascii (by decide)]
    exact hspells
  · have hplain : IsPlainChar ch := ⟨by omega, h1, h2⟩
    simpa [encode] using Spells.plain hplain h

theorem spells_spelling (s : String) : Spells (spelling s) s.toList := by
  unfold spelling
  induction s.toList with
  | nil => exact .nil
  | cons ch cs ih =>
      rw [List.flatMap_cons, encode_append]
      exact spells_escapedChar ih

theorem encode_writeString (s : String) :
    encode (writeString s) = 0x22 :: (spelling s ++ [0x22]) := by
  rw [writeString, List.cons_append, encode_cons_ascii (by decide), encode_append]
  rfl

theorem encode_member {mark : Char} (hmark : mark.toNat < 0x80) (key : String)
    (value more : List Char) :
    encode (mark :: writeString key ++ ':' :: value ++ more) =
      byteOf mark :: 0x22 :: (spelling key ++ 0x22 :: 0x3A :: (encode value ++ encode more)) := by
  rw [encode_append, encode_append, encode_cons_ascii hmark, encode_writeString,
    encode_cons_ascii (by decide)]
  simp [byteOf]

/-! ## Values -/

mutual

def tree : Json → Tree
  | .null => .null
  | .bool b => .bool b
  | .number n => .number (encode (writeNumber n))
  | .string s => .text (spelling s)
  | .array items => .list (itemTrees items)
  | .object members => .object (memberTrees members)

def itemTrees : List Json → List Tree
  | [] => []
  | item :: items => item.tree :: itemTrees items

def memberTrees : List (String × Json) → List (List UInt8 × Tree)
  | [] => []
  | (key, value) :: members => (spelling key, value.tree) :: memberTrees members

end

theorem IsMembers.cons_written {first : Bool} {lead value more : List UInt8} {j : Json}
    {members : List (List UInt8 × Tree)} (key : String) (hlead : Leads first lead)
    (hvalue : IsValue j.tree value) (hmore : IsMembers false members more) :
    IsMembers first ((spelling key, j.tree) :: members)
      (lead ++ 0x22 :: (spelling key ++ 0x22 :: ([0x3A] ++ (value ++ more)))) :=
  .cons hlead (spells_spelling key).isText (isMark_self 0x3A) hvalue hmore

mutual

theorem isValue_write : ∀ j : Json, IsValue j.tree (encode j.write)
  | .null => .null
  | .bool true => .yes
  | .bool false => .no
  | .number n => .number (isNumber_writeNumber n)
  | .string s => by
      rw [write, encode_writeString]
      exact .text (spells_spelling s).isText
  | .array [] => .list (.nil blank_nil)
  | .array (item :: items) => by
      obtain ⟨bytes, hitems, hbytes⟩ := exists_isItems_write items
      have hfirst : IsItems true (itemTrees (item :: items)) ([] ++ (encode item.write ++ bytes)) :=
        .cons blank_nil (isValue_write item) hitems
      rw [write, List.cons_append, encode_cons_ascii (by decide), encode_append, hbytes]
      simpa [byteOf, tree] using IsValue.list hfirst
  | .object [] => .object (.nil blank_nil)
  | .object ((key, value) :: members) => by
      obtain ⟨bytes, hmembers, hbytes⟩ := exists_isMembers_write members
      have hfirst : IsMembers true (memberTrees ((key, value) :: members)) _ :=
        .cons_written key blank_nil (isValue_write value) hmembers
      rw [write, encode_member (by decide), hbytes]
      simpa [byteOf, tree] using IsValue.object hfirst

theorem exists_isItems_write : ∀ items : List Json,
    ∃ bytes, IsItems false (itemTrees items) bytes ∧ encode (writeItems items) = bytes ++ [0x5D]
  | [] => ⟨[], .nil blank_nil, rfl⟩
  | item :: items => by
      obtain ⟨bytes, hitems, hbytes⟩ := exists_isItems_write items
      refine ⟨_, .cons (isMark_self 0x2C) (isValue_write item) hitems, ?_⟩
      rw [writeItems, List.cons_append, encode_cons_ascii (by decide), encode_append, hbytes]
      simp [byteOf]

theorem exists_isMembers_write : ∀ members : List (String × Json),
    ∃ bytes, IsMembers false (memberTrees members) bytes ∧
      encode (writeMembers members) = bytes ++ [0x7D]
  | [] => ⟨[], .nil blank_nil, rfl⟩
  | (key, value) :: members => by
      obtain ⟨bytes, hmembers, hbytes⟩ := exists_isMembers_write members
      refine ⟨_, .cons_written key (isMark_self 0x2C) (isValue_write value) hmembers, ?_⟩
      rw [writeMembers, encode_member (by decide), hbytes]
      simp [byteOf]

end

theorem isDocument_text (j : Json) : IsDocument j.tree (Text.Utf8.bytes j.text) := by
  refine ⟨[], _, [], blank_nil, isValue_write j, blank_nil, ?_⟩
  rw [Text.Utf8.bytes, text, String.toList_ofList, List.nil_append, List.append_nil]

theorem isString_tree (s : String) : (Json.string s).tree.IsString s :=
  ⟨_, rfl, spells_spelling s⟩

theorem isInteger_tree {lowest highest i : Int} (hlow : lowest ≤ i) (hhigh : i ≤ highest) :
    (int i).tree.IsInteger lowest highest i :=
  ⟨_, rfl, spellsInt_writeInt i, hlow, hhigh⟩

end TileFetch.Json
