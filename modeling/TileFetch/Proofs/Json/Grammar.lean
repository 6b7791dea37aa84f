import Mathlib
import TileFetch.Json.Reader

/-!
# The grammar of JSON

What a JSON text is, and what it says, without any mention of how it is read.  A tree is what a
text is taken apart into: texts and numbers stand in it as they are spelled, and an object has all
its members, also those whose key stood before.  The texts in a tree may have bytes that are no
characters and escapes that stand for none, so that there are trees of all texts that are JSON to
a reader that does not look at them closely.

A text has one tree only: `IsValue.unique`.
-/

namespace TileFetch.Json

/-! ## Blanks and marks -/

def Blank (bytes : List UInt8) : Prop :=
  ∀ b ∈ bytes, isBlankByte b = true

def IsMark (mark : UInt8) (bytes : List UInt8) : Prop :=
  ∃ before after, Blank before ∧ Blank after ∧ bytes = before ++ mark :: after

/-- What stands in front of the first item of a row, or of a later one. -/
def Leads (first : Bool) (bytes : List UInt8) : Prop :=
  if first then Blank bytes else IsMark 0x2C bytes

/-! ## Numbers -/

def IsDigits (bytes : List UInt8) : Prop :=
  bytes ≠ [] ∧ ∀ b ∈ bytes, isDigitByte b = true

/-- The digits of a natural number: a zero in front stands alone. -/
def IsNatural (bytes : List UInt8) : Prop :=
  IsDigits bytes ∧ (bytes.head? = some 0x30 → bytes = [0x30])

/-- The value of digits that go on after digits of value `n`. -/
def digitsAfter (n : Nat) (bytes : List UInt8) : Nat :=
  bytes.foldl (fun n b ↦ n * 10 + digitOfByte b) n

def digitsValue (bytes : List UInt8) : Nat :=
  digitsAfter 0 bytes

def IsFraction (bytes : List UInt8) : Prop :=
  bytes = [] ∨ ∃ digits, IsDigits digits ∧ bytes = 0x2E :: digits

def IsExponent (bytes : List UInt8) : Prop :=
  bytes = [] ∨ ∃ letter sign digits, (letter = 0x65 ∨ letter = 0x45) ∧
    (sign = [] ∨ sign = [0x2B] ∨ sign = [0x2D]) ∧ IsDigits digits ∧
      bytes = letter :: (sign ++ digits)

def IsMagnitude (bytes : List UInt8) : Prop :=
  ∃ whole fraction exponent, IsNatural whole ∧ IsFraction fraction ∧ IsExponent exponent ∧
    bytes = whole ++ fraction ++ exponent

def IsNumber (bytes : List UInt8) : Prop :=
  IsMagnitude bytes ∨ ∃ magnitude, IsMagnitude magnitude ∧ bytes = 0x2D :: magnitude

/-- The integer that a number is, if it is written as one.  Zero has no sign. -/
inductive SpellsInt : List UInt8 → Int → Prop
  | natural {bytes} : IsNatural bytes → SpellsInt bytes (digitsValue bytes)
  | negative {bytes} : IsNatural bytes → digitsValue bytes ≠ 0 →
      SpellsInt (0x2D :: bytes) (-digitsValue bytes)

/-! ## Texts -/

def shortEscapes : List (UInt8 × Char) :=
  [(0x22, '"'), (0x5C, '\\'), (0x2F, '/'), (0x62, '\x08'), (0x66, '\x0c'), (0x6E, '\n'),
    (0x72, '\r'), (0x74, '\t')]

inductive IsHex4 : List UInt8 → Nat → Prop
  | mk {a b c d w x y z} : hexDigit? a = some w → hexDigit? b = some x → hexDigit? c = some y →
      hexDigit? d = some z → IsHex4 [a, b, c, d] (((w * 16 + x) * 16 + y) * 16 + z)

inductive IsText : List UInt8 → Prop
  | nil : IsText []
  | plain {b bytes} : isPlainByte b = true → IsText bytes → IsText (b :: bytes)
  | escape {letter c bytes} : (letter, c) ∈ shortEscapes → IsText bytes →
      IsText (0x5C :: letter :: bytes)
  | unit {digits n bytes} : IsHex4 digits n → IsText bytes →
      IsText (0x5C :: 0x75 :: (digits ++ bytes))

/-- What follows `\u`, and the character that it stands for.  A character beyond `U+FFFF` has
two units. -/
inductive IsCodePoint : List UInt8 → Char → Prop
  | unit {digits n} : IsHex4 digits n → n < 0xD800 ∨ 0xDFFF < n →
      IsCodePoint digits (Char.ofNat n)
  | pair {digits n digits' n'} : IsHex4 digits n → 0xD800 ≤ n → n ≤ 0xDBFF →
      IsHex4 digits' n' → 0xDC00 ≤ n' → n' ≤ 0xDFFF →
      IsCodePoint (digits ++ 0x5C :: 0x75 :: digits')
        (Char.ofNat ((n - 0xD800) * 0x400 + (n' - 0xDC00) + 0x10000))

inductive IsEscape : List UInt8 → Char → Prop
  | short {letter c} : (letter, c) ∈ shortEscapes → IsEscape [letter] c
  | codePoint {units c} : IsCodePoint units c → IsEscape (0x75 :: units) c

def IsPlainChar (c : Char) : Prop :=
  0x20 ≤ c.toNat ∧ c ≠ '"' ∧ c ≠ '\\'

inductive Spells : List UInt8 → List Char → Prop
  | nil : Spells [] []
  | plain {c bytes cs} : IsPlainChar c → Spells bytes cs →
      Spells (String.utf8EncodeChar c ++ bytes) (c :: cs)
  | escape {escape c bytes cs} : IsEscape escape c → Spells bytes cs →
      Spells (0x5C :: (escape ++ bytes)) (c :: cs)

/-! ## Values -/

inductive Tree where
  | null
  | bool (value : Bool)
  | number (spelling : List UInt8)
  | text (spelling : List UInt8)
  | list (items : List Tree)
  | object (members : List (List UInt8 × Tree))

mutual

/-- The bytes are a value, without blanks around it. -/
inductive IsValue : Tree → List UInt8 → Prop
  | null : IsValue .null [0x6E, 0x75, 0x6C, 0x6C]
  | yes : IsValue (.bool true) [0x74, 0x72, 0x75, 0x65]
  | no : IsValue (.bool false) [0x66, 0x61, 0x6C, 0x73, 0x65]
  | number {bytes} : IsNumber bytes → IsValue (.number bytes) bytes
  | text {bytes} : IsText bytes → IsValue (.text bytes) (0x22 :: (bytes ++ [0x22]))
  | list {items bytes} :
      IsItems true items bytes → IsValue (.list items) (0x5B :: (bytes ++ [0x5D]))
  | object {members bytes} : IsMembers true members bytes →
      IsValue (.object members) (0x7B :: (bytes ++ [0x7D]))

inductive IsItems : Bool → List Tree → List UInt8 → Prop
  | nil {first bytes} : Blank bytes → IsItems first [] bytes
  | cons {first lead tree value trees more} : Leads first lead → IsValue tree value →
      IsItems false trees more → IsItems first (tree :: trees) (lead ++ (value ++ more))

inductive IsMembers : Bool → List (List UInt8 × Tree) → List UInt8 → Prop
  | nil {first bytes} : Blank bytes → IsMembers first [] bytes
  | cons {first lead key colon tree value members more} : Leads first lead → IsText key →
      IsMark 0x3A colon → IsValue tree value → IsMembers false members more →
      IsMembers first ((key, tree) :: members)
        (lead ++ 0x22 :: (key ++ 0x22 :: (colon ++ (value ++ more))))

end

/-- The bytes are a value with nothing but blanks around it. -/
def IsDocument (tree : Tree) (bytes : List UInt8) : Prop :=
  ∃ before value after, Blank before ∧ IsValue tree value ∧ Blank after ∧
    bytes = before ++ value ++ after

def isNumberByte (b : UInt8) : Bool :=
  isDigitByte b || b = 0x2B || b = 0x2D || b = 0x2E || b = 0x45 || b = 0x65

def Stops (p : UInt8 → Bool) (bytes : List UInt8) : Prop :=
  ∀ b ∈ bytes.head?, p b = false

/-- The tree ends where `rest` begins: if it is a number then it does not go on. -/
def Tree.EndsBefore (tree : Tree) (rest : List UInt8) : Prop :=
  ∀ spelling, tree = .number spelling → Stops isNumberByte rest

/-- The tree is the first value of a text, up to `lead`, and `tail` is what follows it. -/
def IsFirstValue (tree : Tree) (lead tail : List UInt8) : Prop :=
  ∃ before value, Blank before ∧ IsValue tree value ∧ tree.EndsBefore tail ∧ lead = before ++ value

variable {bytes rest rest' run run' : List UInt8} {p : UInt8 → Bool} {first : Bool}

/-! ## Where a run of bytes ends -/

@[simp] theorem stops_nil : Stops p [] := by
  simp [Stops]

@[simp] theorem stops_cons {b : UInt8} : Stops p (b :: rest) ↔ p b = false := by
  simp [Stops]

theorem takeWhile_run (hrun : ∀ b ∈ run, p b = true) (hrest : Stops p rest) :
    (run ++ rest).takeWhile p = run := by
  rw [List.takeWhile_append_of_pos hrun]
  cases rest with
  | nil => simp
  | cons b rest => simp [stops_cons.mp hrest]

theorem dropWhile_run (hrun : ∀ b ∈ run, p b = true) (hrest : Stops p rest) :
    (run ++ rest).dropWhile p = rest := by
  rw [List.dropWhile_append_of_pos hrun]
  cases rest with
  | nil => simp
  | cons b rest => simp [stops_cons.mp hrest]

theorem run_unique (hrun : ∀ b ∈ run, p b = true) (hrest : Stops p rest)
    (hrun' : ∀ b ∈ run', p b = true) (hrest' : Stops p rest') (h : run ++ rest = run' ++ rest') :
    run = run' ∧ rest = rest' := by
  constructor
  · rw [← takeWhile_run hrun hrest, h, takeWhile_run hrun' hrest']
  · rw [← dropWhile_run hrun hrest, h, dropWhile_run hrun' hrest']

@[simp] theorem blank_nil : Blank [] := by
  simp [Blank]

theorem isMark_self (mark : UInt8) : IsMark mark [mark] :=
  ⟨[], [], blank_nil, blank_nil, rfl⟩

theorem IsMark.unique {mark : UInt8} (hmark : isBlankByte mark = false) (hrun : IsMark mark run)
    (hrun' : IsMark mark run') (hrest : Stops isBlankByte rest) (hrest' : Stops isBlankByte rest')
    (h : run ++ rest = run' ++ rest') : rest = rest' := by
  obtain ⟨before, after, hbefore, hafter, rfl⟩ := hrun
  obtain ⟨before', after', hbefore', hafter', rfl⟩ := hrun'
  simp only [List.append_assoc, List.cons_append] at h
  have hcons := (run_unique hbefore (stops_cons.mpr hmark) hbefore' (stops_cons.mpr hmark) h).2
  exact (run_unique hafter hrest hafter' hrest' (List.cons.inj hcons).2).2

theorem Leads.unique (hrun : Leads first run) (hrun' : Leads first run')
    (hrest : Stops isBlankByte rest) (hrest' : Stops isBlankByte rest')
    (h : run ++ rest = run' ++ rest') : rest = rest' := by
  cases first with
  | true => exact (run_unique hrun hrest hrun' hrest' h).2
  | false => exact IsMark.unique (by decide) hrun hrun' hrest hrest' h

theorem Leads.ne_of_blank {mark b : UInt8} {more : List UInt8} (hlead : Leads first run)
    (hblank : Blank bytes) (hb : isBlankByte b = false) (hmark : isBlankByte mark = false)
    (hne : mark ≠ b) (hcomma : mark ≠ 0x2C) : bytes ++ mark :: rest ≠ run ++ b :: more := by
  intro heq
  cases first with
  | true =>
      have hcons := (run_unique hblank (stops_cons.mpr hmark) hlead (stops_cons.mpr hb) heq).2
      exact hne (List.cons.inj hcons).1
  | false =>
      obtain ⟨before, after, hbefore, -, rfl⟩ := hlead
      rw [List.append_assoc, List.cons_append] at heq
      have hcons :=
        (run_unique hblank (stops_cons.mpr hmark) hbefore (stops_cons.mpr (by decide)) heq).2
      exact hcomma (List.cons.inj hcons).1

/-! ## Numbers end where no byte of a number follows -/

theorem Stops.endsBefore (h : Stops isNumberByte rest) (tree : Tree) : tree.EndsBefore rest :=
  fun _ _ ↦ h

theorem IsDigits.numberByte (h : IsDigits bytes) : ∀ b ∈ bytes, isNumberByte b = true := by
  intro b hb
  simp [isNumberByte, h.2 b hb]

theorem IsMagnitude.numberByte (h : IsMagnitude bytes) : ∀ b ∈ bytes, isNumberByte b = true := by
  obtain ⟨whole, fraction, exponent, hwhole, hfraction, hexponent, rfl⟩ := h
  have hsigns : ∀ sign : List UInt8, sign = [] ∨ sign = [0x2B] ∨ sign = [0x2D] →
      ∀ b ∈ sign, isNumberByte b = true := by
    rintro _ (rfl | rfl | rfl) b hb
    · simp at hb
    · rw [List.mem_singleton.mp hb]
      rfl
    · rw [List.mem_singleton.mp hb]
      rfl
  intro b hb
  rcases List.mem_append.mp hb with hb | hb
  · rcases List.mem_append.mp hb with hb | hb
    · exact hwhole.1.numberByte b hb
    · obtain rfl | ⟨digits, hdigits, rfl⟩ := hfraction
      · simp at hb
      · obtain rfl | hb := List.mem_cons.mp hb
        · rfl
        · exact hdigits.numberByte b hb
  · obtain rfl | ⟨letter, sign, digits, hletter, hsign, hdigits, rfl⟩ := hexponent
    · simp at hb
    · obtain rfl | hb := List.mem_cons.mp hb
      · obtain rfl | rfl := hletter <;> rfl
      · rcases List.mem_append.mp hb with hb | hb
        · exact hsigns sign hsign b hb
        · exact hdigits.numberByte b hb

theorem IsNumber.numberByte (h : IsNumber bytes) : ∀ b ∈ bytes, isNumberByte b = true := by
  obtain h | ⟨magnitude, h, rfl⟩ := h
  · exact h.numberByte
  · intro b hb
    obtain rfl | hb := List.mem_cons.mp hb
    · rfl
    · exact h.numberByte b hb

theorem IsMagnitude.exists_cons (h : IsMagnitude bytes) :
    ∃ b more, bytes = b :: more ∧ isDigitByte b = true := by
  obtain ⟨whole, fraction, exponent, ⟨hdigits, -⟩, -, -, rfl⟩ := h
  obtain ⟨b, more, rfl⟩ := List.exists_cons_of_ne_nil hdigits.1
  exact ⟨b, more ++ fraction ++ exponent, rfl, hdigits.2 b List.mem_cons_self⟩

theorem IsNumber.exists_cons (h : IsNumber bytes) :
    ∃ b more, bytes = b :: more ∧ (isDigitByte b = true ∨ b = 0x2D) := by
  obtain h | ⟨magnitude, -, rfl⟩ := h
  · obtain ⟨b, more, rfl, hb⟩ := h.exists_cons
    exact ⟨b, more, rfl, .inl hb⟩
  · exact ⟨_, _, rfl, .inr rfl⟩

/-! ## A text has one tree -/

theorem IsText.unique (h : IsText run) (h' : IsText run')
    (heq : run ++ 0x22 :: rest = run' ++ 0x22 :: rest') : run = run' ∧ rest = rest' := by
  have hletter : ∀ e ∈ shortEscapes, e.1 ≠ 0x75 := by decide
  induction h generalizing run' with
  | nil =>
      cases h' with
      | nil => exact ⟨rfl, (List.cons.inj heq).2⟩
      | plain hplain => simp [← (List.cons.inj heq).1, isPlainByte] at hplain
      | escape => simp at heq
      | unit => simp at heq
  | plain hplain _ ih =>
      cases h' with
      | nil => simp [(List.cons.inj heq).1, isPlainByte] at hplain
      | plain _ htext =>
          simp only [List.cons_append, List.cons.injEq] at heq
          obtain ⟨rfl, heq⟩ := heq
          obtain ⟨rfl, rfl⟩ := ih htext heq
          exact ⟨rfl, rfl⟩
      | escape => simp [(List.cons.inj heq).1, isPlainByte] at hplain
      | unit => simp [(List.cons.inj heq).1, isPlainByte] at hplain
  | escape hmem _ ih =>
      cases h' with
      | nil => simp at heq
      | plain hplain => simp [← (List.cons.inj heq).1, isPlainByte] at hplain
      | escape _ htext =>
          simp only [List.cons_append, List.cons.injEq, true_and] at heq
          obtain ⟨rfl, heq⟩ := heq
          obtain ⟨rfl, rfl⟩ := ih htext heq
          exact ⟨rfl, rfl⟩
      | unit =>
          simp only [List.cons_append, List.cons.injEq, true_and] at heq
          exact (hletter _ hmem heq.1).elim
  | unit hdigits _ ih =>
      cases h' with
      | nil => simp at heq
      | plain hplain => simp [← (List.cons.inj heq).1, isPlainByte] at hplain
      | escape hmem =>
          simp only [List.cons_append, List.cons.injEq, true_and] at heq
          exact (hletter _ hmem heq.1.symm).elim
      | unit hdigits' htext =>
          cases hdigits
          cases hdigits'
          simp only [List.cons_append, List.nil_append, List.cons.injEq, true_and] at heq
          obtain ⟨rfl, rfl, rfl, rfl, heq⟩ := heq
          obtain ⟨rfl, rfl⟩ := ih htext heq
          exact ⟨rfl, rfl⟩

def Tree.opening (b : UInt8) : Tree → Bool
  | .null => b = 0x6E
  | .bool true => b = 0x74
  | .bool false => b = 0x66
  | .number _ => isDigitByte b || b = 0x2D
  | .text _ => b = 0x22
  | .list _ => b = 0x5B
  | .object _ => b = 0x7B

theorem IsValue.exists_cons {tree : Tree} (h : IsValue tree bytes) :
    ∃ b more, bytes = b :: more ∧ tree.opening b = true := by
  cases h with
  | number h =>
      obtain ⟨b, more, rfl, hb⟩ := h.exists_cons
      exact ⟨b, more, rfl, by simpa [Tree.opening] using hb⟩
  | _ => exact ⟨_, _, rfl, rfl⟩

def outerBytes : List UInt8 :=
  [0x20, 0x0A, 0x09, 0x0D, 0x2C, 0x3A, 0x5D, 0x7D]

theorem Tree.not_opening {b : UInt8} (hb : b ∈ outerBytes) (tree : Tree) :
    tree.opening b = false := by
  simp only [outerBytes, List.mem_cons, List.not_mem_nil, or_false] at hb
  rcases hb with rfl | rfl | rfl | rfl | rfl | rfl | rfl | rfl <;>
    rcases tree with _ | (_ | _) | _ | _ | _ | _ <;> rfl

theorem isBlankByte_iff {b : UInt8} :
    isBlankByte b = true ↔ b = 0x20 ∨ b = 0x0A ∨ b = 0x09 ∨ b = 0x0D := by
  simp [isBlankByte, or_assoc]

theorem mem_outerBytes {b : UInt8} (h : isBlankByte b = true) : b ∈ outerBytes := by
  rcases isBlankByte_iff.mp h with rfl | rfl | rfl | rfl <;> decide

theorem IsValue.stops {tree : Tree} (h : IsValue tree bytes) (rest : List UInt8) :
    Stops isBlankByte (bytes ++ rest) := by
  obtain ⟨b, more, rfl, hb⟩ := h.exists_cons
  rw [List.cons_append, stops_cons]
  by_contra hblank
  rw [tree.not_opening (mem_outerBytes (Bool.not_eq_false _ ▸ hblank))] at hb
  simp at hb

theorem IsValue.exists_cons_ne {tree : Tree} (h : IsValue tree bytes) (rest : List UInt8) :
    ∃ b tail, bytes ++ rest = b :: tail ∧ b ≠ 0x5D := by
  obtain ⟨b, more, rfl, hb⟩ := h.exists_cons
  refine ⟨b, more ++ rest, rfl, ?_⟩
  rintro rfl
  rw [tree.not_opening (by decide)] at hb
  simp at hb

theorem stops_isNumberByte {b : UInt8} (hb : b ∈ outerBytes) :
    Stops isNumberByte (b :: rest) := by
  rw [stops_cons]
  simp only [outerBytes, List.mem_cons, List.not_mem_nil, or_false] at hb
  rcases hb with rfl | rfl | rfl | rfl | rfl | rfl | rfl | rfl <;> rfl

theorem Blank.stops {b : UInt8} (h : Blank bytes) (hb : b ∈ outerBytes) :
    Stops isNumberByte (bytes ++ b :: rest) := by
  cases bytes with
  | nil => exact stops_isNumberByte hb
  | cons c bytes => exact stops_isNumberByte (mem_outerBytes (h c List.mem_cons_self))

theorem Blank.stops_isNumberByte (h : Blank bytes) : Stops isNumberByte bytes := by
  cases bytes with
  | nil => exact stops_nil
  | cons b bytes =>
      exact TileFetch.Json.stops_isNumberByte (mem_outerBytes (h b List.mem_cons_self))

theorem IsDocument.exists_first {tree : Tree} (h : IsDocument tree bytes) :
    ∃ lead tail, IsFirstValue tree lead tail ∧ Blank tail ∧ bytes = lead ++ tail := by
  obtain ⟨before, value, after, hbefore, hvalue, hafter, rfl⟩ := h
  exact ⟨before ++ value, after,
    ⟨before, value, hbefore, hvalue, hafter.stops_isNumberByte.endsBefore tree, rfl⟩, hafter, rfl⟩

theorem IsMark.stops {mark : UInt8} (h : IsMark mark bytes) (hmark : mark ∈ outerBytes)
    (rest : List UInt8) : Stops isNumberByte (bytes ++ rest) := by
  obtain ⟨before, after, hbefore, -, rfl⟩ := h
  rw [List.append_assoc, List.cons_append]
  exact hbefore.stops hmark

theorem IsItems.stops {trees : List Tree} (h : IsItems false trees bytes) (rest : List UInt8) :
    Stops isNumberByte (bytes ++ 0x5D :: rest) := by
  cases h with
  | nil hblank => exact hblank.stops (by decide)
  | cons hlead =>
      rw [List.append_assoc]
      exact IsMark.stops hlead (by decide) _

theorem IsMembers.stops {members : List (List UInt8 × Tree)} (h : IsMembers false members bytes)
    (rest : List UInt8) : Stops isNumberByte (bytes ++ 0x7D :: rest) := by
  cases h with
  | nil hblank => exact hblank.stops (by decide)
  | cons hlead =>
      rw [List.append_assoc]
      exact IsMark.stops hlead (by decide) _

theorem IsValue.ne_of_blank {tree : Tree} {lead value more : List UInt8}
    (h : IsValue tree value) (hlead : Leads first lead) (hblank : Blank bytes) :
    bytes ++ 0x5D :: rest ≠ lead ++ (value ++ more) := by
  obtain ⟨b, tail, rfl, hb⟩ := h.exists_cons
  apply hlead.ne_of_blank hblank _ rfl _ (by decide)
  · exact stops_cons.mp (h.stops [])
  · rintro rfl
    simp [tree.not_opening (b := 0x5D) (by decide)] at hb

/-- Values that are not both numbers begin with bytes of their own. -/
theorem IsValue.opening_eq {tree tree' : Tree} {value value' : List UInt8}
    (h : IsValue tree value) (h' : IsValue tree' value') (heq : value ++ rest = value' ++ rest') :
    ∃ b, tree.opening b = true ∧ tree'.opening b = true := by
  obtain ⟨b, more, rfl, hb⟩ := h.exists_cons
  obtain ⟨b', more', rfl, hb'⟩ := h'.exists_cons
  obtain ⟨rfl, -⟩ := List.cons.inj heq
  exact ⟨b, hb, hb'⟩

mutual

theorem IsValue.unique {tree tree' : Tree} {value value' rest rest' : List UInt8} :
    IsValue tree value → IsValue tree' value' → value ++ rest = value' ++ rest' →
    tree.EndsBefore rest → tree'.EndsBefore rest' → tree = tree' ∧ rest = rest'
  -- The first byte tells which kind of value it is, on both sides.
  | .null, h', heq, _, _ => by
      obtain ⟨b, hb, hb'⟩ := IsValue.null.opening_eq h' heq
      obtain rfl : b = 0x6E := by simpa [Tree.opening] using hb
      cases h' with
      | null => simpa using heq
      | _ => simp [Tree.opening, isDigitByte] at hb'
  | .yes, h', heq, _, _ => by
      obtain ⟨b, hb, hb'⟩ := IsValue.yes.opening_eq h' heq
      obtain rfl : b = 0x74 := by simpa [Tree.opening] using hb
      cases h' with
      | yes => simpa using heq
      | _ => simp [Tree.opening, isDigitByte] at hb'
  | .no, h', heq, _, _ => by
      obtain ⟨b, hb, hb'⟩ := IsValue.no.opening_eq h' heq
      obtain rfl : b = 0x66 := by simpa [Tree.opening] using hb
      cases h' with
      | no => simpa using heq
      | _ => simp [Tree.opening, isDigitByte] at hb'
  | .number hnumber, h', heq, hends, hends' => by
      obtain ⟨b, hb, hb'⟩ := (IsValue.number hnumber).opening_eq h' heq
      cases h' with
      | number hnumber' =>
          obtain ⟨rfl, rfl⟩ := run_unique hnumber.numberByte (hends _ rfl) hnumber'.numberByte
            (hends' _ rfl) heq
          exact ⟨rfl, rfl⟩
      | _ =>
          obtain rfl := of_decide_eq_true hb'
          simp [Tree.opening, isDigitByte] at hb
  | .text htext, h', heq, _, _ => by
      obtain ⟨b, hb, hb'⟩ := (IsValue.text htext).opening_eq h' heq
      obtain rfl : b = 0x22 := by simpa [Tree.opening] using hb
      cases h' with
      | text htext' =>
          simp only [List.cons_append, List.append_assoc, List.nil_append, List.cons.injEq,
            true_and] at heq
          obtain ⟨rfl, rfl⟩ := htext.unique htext' heq
          exact ⟨rfl, rfl⟩
      | _ => simp [Tree.opening, isDigitByte] at hb'
  | .list hitems, h', heq, _, _ => by
      obtain ⟨b, hb, hb'⟩ := (IsValue.list hitems).opening_eq h' heq
      obtain rfl : b = 0x5B := by simpa [Tree.opening] using hb
      cases h' with
      | list hitems' =>
          simp only [List.cons_append, List.append_assoc, List.nil_append, List.cons.injEq,
            true_and] at heq
          obtain ⟨rfl, rfl⟩ := hitems.unique hitems' heq
          exact ⟨rfl, rfl⟩
      | _ => simp [Tree.opening, isDigitByte] at hb'
  | .object hmembers, h', heq, _, _ => by
      obtain ⟨b, hb, hb'⟩ := (IsValue.object hmembers).opening_eq h' heq
      obtain rfl : b = 0x7B := by simpa [Tree.opening] using hb
      cases h' with
      | object hmembers' =>
          simp only [List.cons_append, List.append_assoc, List.nil_append, List.cons.injEq,
            true_and] at heq
          obtain ⟨rfl, rfl⟩ := hmembers.unique hmembers' heq
          exact ⟨rfl, rfl⟩
      | _ => simp [Tree.opening, isDigitByte] at hb'

theorem IsItems.unique {first : Bool} {trees trees' : List Tree}
    {bytes bytes' rest rest' : List UInt8} :
    IsItems first trees bytes → IsItems first trees' bytes' →
    bytes ++ 0x5D :: rest = bytes' ++ 0x5D :: rest' → trees = trees' ∧ rest = rest'
  | .nil hblank, h', heq => by
      cases h' with
      | nil hblank' =>
          have hcons :=
            (run_unique hblank (stops_cons.mpr rfl) hblank' (stops_cons.mpr rfl) heq).2
          exact ⟨rfl, (List.cons.inj hcons).2⟩
      | cons hlead hvalue _ => exact (hvalue.ne_of_blank hlead hblank (by simpa using heq)).elim
  | .cons hlead hvalue hmore, h', heq => by
      cases h' with
      | nil hblank => exact (hvalue.ne_of_blank hlead hblank (by simpa using heq.symm)).elim
      | cons hlead' hvalue' hmore' =>
          simp only [List.append_assoc] at heq
          have htail := hlead.unique hlead' (hvalue.stops _) (hvalue'.stops _) heq
          obtain ⟨rfl, hrest⟩ :=
            hvalue.unique hvalue' htail (fun _ _ ↦ hmore.stops _) fun _ _ ↦ hmore'.stops _
          obtain ⟨rfl, rfl⟩ := hmore.unique hmore' hrest
          exact ⟨rfl, rfl⟩

theorem IsMembers.unique {first : Bool} {members members' : List (List UInt8 × Tree)}
    {bytes bytes' rest rest' : List UInt8} :
    IsMembers first members bytes → IsMembers first members' bytes' →
    bytes ++ 0x7D :: rest = bytes' ++ 0x7D :: rest' → members = members' ∧ rest = rest'
  | .nil hblank, h', heq => by
      cases h' with
      | nil hblank' =>
          have hcons :=
            (run_unique hblank (stops_cons.mpr rfl) hblank' (stops_cons.mpr rfl) heq).2
          exact ⟨rfl, (List.cons.inj hcons).2⟩
      | cons hlead =>
          simp only [List.append_assoc, List.cons_append] at heq
          exact (hlead.ne_of_blank hblank rfl rfl (by decide) (by decide) heq).elim
  | .cons hlead hkey hcolon hvalue hmore, h', heq => by
      cases h' with
      | nil hblank =>
          simp only [List.append_assoc, List.cons_append] at heq
          exact (hlead.ne_of_blank hblank rfl rfl (by decide) (by decide) heq.symm).elim
      | cons hlead' hkey' hcolon' hvalue' hmore' =>
          simp only [List.append_assoc, List.cons_append] at heq
          have hquote := hlead.unique hlead' (stops_cons.mpr rfl) (stops_cons.mpr rfl) heq
          obtain ⟨rfl, hafter⟩ := hkey.unique hkey' (List.cons.inj hquote).2
          have htail := hcolon.unique rfl hcolon' (hvalue.stops _) (hvalue'.stops _) hafter
          obtain ⟨rfl, hrest⟩ :=
            hvalue.unique hvalue' htail (fun _ _ ↦ hmore.stops _) fun _ _ ↦ hmore'.stops _
          obtain ⟨rfl, rfl⟩ := hmore.unique hmore' hrest
          exact ⟨rfl, rfl⟩

end

end TileFetch.Json
