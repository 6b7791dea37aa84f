import Mathlib
import TileFetch.Proofs.Template.Expansion
import TileFetch.Proofs.Text.Utf8

/-!
# What the scanner finds

`scan` takes a template apart without losing or doubling a character, and its placeholders are
the ones that stand in the template.  `Scanned` follows the turns of the scanner, and everything
that is said of its pieces is proved by induction on them.

The pieces are pieces of a string, which is cut at byte indices.  `turn?` is a turn over such
indices, in which a cut inside a character fails; `runs_iff` says that no cut fails and that the
turns end.
-/

namespace TileFetch.Template

open String (ofList utf8Len utf8Len_append utf8Len_cons)

variable {cs before inner name rest : List Char} {pieces : List Piece} {c : Char} {i j : Nat}

/-! ## Turns of the scanner -/

/-- The pieces of a template, turn by turn.  `before` is what stands in front of the next opening
brace. -/
inductive Scanned : List Char → List Piece → Prop where
  | rest (cs : List Char) (hfree : ∀ c ∈ cs, c ≠ openBrace) : Scanned cs (textPieces cs)
  | placeholder (before name : List Char) {rest : List Char} {pieces : List Piece}
      (hfree : ∀ c ∈ before, c ≠ openBrace) (hname : IsName name) (h : Scanned rest pieces) :
      Scanned (before ++ ((Piece.placeholder name).source ++ rest))
        (textPieces before ++ .placeholder name :: pieces)
  | stray (before : List Char) {inner : List Char} {pieces : List Piece}
      (hfree : ∀ c ∈ before, c ≠ openBrace) (hnone : splitName inner = none)
      (h : Scanned inner pieces) :
      Scanned (before ++ openBrace :: inner) (.text (before ++ [openBrace]) :: pieces)

theorem source_append (name rest : List Char) :
    (Piece.placeholder name).source ++ rest = openBrace :: (name ++ closeBrace :: rest) := by
  simp [Piece.source]

theorem no_open_takeWhile (cs : List Char) : ∀ c ∈ cs.takeWhile (· ≠ openBrace), c ≠ openBrace :=
  fun _ hc ↦ by simpa using List.mem_takeWhile_imp hc

theorem eq_takeWhile_append {brace : Char} (h : cs.dropWhile (· ≠ openBrace) = brace :: inner) :
    brace = openBrace ∧ cs = cs.takeWhile (· ≠ openBrace) ++ openBrace :: inner := by
  have hbrace : brace = openBrace := by
    have hhead := List.head?_dropWhile_not (· ≠ openBrace) cs
    rw [h] at hhead
    simpa using hhead
  refine ⟨hbrace, ?_⟩
  calc cs = cs.takeWhile (· ≠ openBrace) ++ cs.dropWhile (· ≠ openBrace) :=
        List.takeWhile_append_dropWhile.symm
    _ = cs.takeWhile (· ≠ openBrace) ++ openBrace :: inner := by rw [h, hbrace]

theorem scanned_scan (cs : List Char) : Scanned cs (scan cs) := by
  fun_induction scan cs with
  | case1 cs h =>
      apply Scanned.rest
      intro c hc
      simpa using List.dropWhile_eq_nil_iff.mp h c hc
  | case2 cs brace inner h before name rest hn ih =>
      obtain ⟨hname, hinner⟩ := splitName_eq_some_iff.mp hn
      obtain ⟨-, hcs⟩ := eq_takeWhile_append h
      rw [hinner, ← source_append] at hcs
      nth_rewrite 1 [hcs]
      exact .placeholder before name (no_open_takeWhile cs) hname ih
  | case3 cs brace inner h before hn ih =>
      obtain ⟨rfl, hcs⟩ := eq_takeWhile_append h
      nth_rewrite 1 [hcs]
      exact .stray before (no_open_takeWhile cs) hn ih

/-! ## Texts -/

theorem Scanned.flatMap_source (h : Scanned cs pieces) : pieces.flatMap Piece.source = cs := by
  have htext : ∀ cs, (textPieces cs).flatMap Piece.source = cs := flatMap_textPieces fun _ ↦ rfl
  induction h with
  | rest cs hfree => exact htext cs
  | placeholder before name hfree hname h ih =>
      rw [List.flatMap_append, htext, List.flatMap_cons, ih]
  | stray before hfree hnone h ih => simp [Piece.source, ih]

theorem empty_notMem_textPieces (cs : List Char) : .text [] ∉ textPieces cs := by
  cases cs <;> simp [textPieces]

theorem Scanned.empty_notMem (h : Scanned cs pieces) : .text [] ∉ pieces := by
  induction h with
  | rest cs hfree => exact empty_notMem_textPieces cs
  | placeholder before name hfree hname h ih =>
      simpa [ih] using empty_notMem_textPieces before
  | stray before hfree hnone h ih => simpa using ih

/-! ## Placeholders -/

/-- A placeholder of this name stands in the template, with `i` bytes in front of it. -/
def OccursAt (cs : List Char) (i : Nat) (name : List Char) : Prop :=
  IsName name ∧ ∃ before after,
    cs = before ++ ((Piece.placeholder name).source ++ after) ∧ utf8Len before = i

def placeholdersFrom (i : Nat) : List Piece → List (Nat × List Char)
  | [] => []
  | .text cs :: pieces => placeholdersFrom (i + utf8Len cs) pieces
  | .placeholder name :: pieces =>
      (i, name) :: placeholdersFrom (i + utf8Len (Piece.placeholder name).source) pieces

theorem utf8Len_source (name : List Char) :
    utf8Len (Piece.placeholder name).source = 1 + utf8Len name + 1 := by
  have hopen : openBrace.utf8Size = 1 := rfl
  have hclose : utf8Len [closeBrace] = 1 := rfl
  simp only [Piece.source, List.cons_append, utf8Len_cons, utf8Len_append, hopen, hclose]
  omega

theorem occursAt_cons : OccursAt (c :: cs) i name ↔
    (i = 0 ∧ IsName name ∧ (Piece.placeholder name).source <+: c :: cs) ∨
      ∃ j, OccursAt cs j name ∧ i = c.utf8Size + j := by
  constructor
  · rintro ⟨hname, before, after, hcs, rfl⟩
    cases before with
    | nil => exact .inl ⟨rfl, hname, after, hcs.symm⟩
    | cons d before =>
        obtain ⟨rfl, rfl⟩ := List.cons.inj hcs
        exact .inr ⟨_, ⟨hname, before, after, rfl, rfl⟩, by simp [add_comm]⟩
  · rintro (⟨rfl, hname, after, hcs⟩ | ⟨j, ⟨hname, before, after, rfl, rfl⟩, rfl⟩)
    · exact ⟨hname, [], after, hcs.symm, rfl⟩
    · exact ⟨hname, c :: before, after, rfl, by simp [add_comm]⟩

theorem occursAt_append (hfree : ∀ c ∈ before, c ≠ openBrace) :
    OccursAt (before ++ cs) i name ↔ ∃ j, OccursAt cs j name ∧ i = utf8Len before + j := by
  induction before generalizing i with
  | nil => simp
  | cons c before ih =>
      obtain ⟨hc, hbefore⟩ := List.forall_mem_cons.mp hfree
      rw [List.cons_append, occursAt_cons]
      simp only [ih hbefore, utf8Len_cons]
      constructor
      · rintro (⟨-, -, after, hcs⟩ | ⟨_, ⟨j, hj, rfl⟩, rfl⟩)
        · exact (hc (List.cons.inj hcs).1.symm).elim
        · exact ⟨j, hj, by omega⟩
      · rintro ⟨j, hj, rfl⟩
        exact .inr ⟨_, ⟨j, hj, rfl⟩, by omega⟩

theorem occursAt_open : OccursAt (openBrace :: cs) i name ↔
    (i = 0 ∧ ∃ rest, splitName cs = some (name, rest)) ∨
      ∃ j, OccursAt cs j name ∧ i = 1 + j := by
  have hstarts : (IsName name ∧ (Piece.placeholder name).source <+: openBrace :: cs) ↔
      ∃ rest, splitName cs = some (name, rest) := by
    simp only [splitName_eq_some_iff, exists_and_left]
    apply and_congr_right
    intro _
    simp [Piece.source, List.IsPrefix, eq_comm]
  rw [occursAt_cons, hstarts]
  rfl

theorem not_occursAt (hfree : ∀ c ∈ cs, c ≠ openBrace) : ¬ OccursAt cs i name := by
  rintro ⟨-, before, after, rfl, -⟩
  exact hfree openBrace (by simp [Piece.source]) rfl

theorem placeholdersFrom_textPieces (i : Nat) (cs : List Char) (pieces : List Piece) :
    placeholdersFrom i (textPieces cs ++ pieces) = placeholdersFrom (i + utf8Len cs) pieces := by
  cases cs <;> rfl

theorem occursAt_placeholder {found : List Char} (hname : IsName found) :
    OccursAt ((Piece.placeholder found).source ++ rest) i name ↔
      (i = 0 ∧ name = found) ∨
        ∃ j, OccursAt rest j name ∧ i = utf8Len (Piece.placeholder found).source + j := by
  have hsplit : splitName (found ++ closeBrace :: rest) = some (found, rest) :=
    splitName_eq_some_iff.mpr ⟨hname, rfl⟩
  have hinner : found ++ closeBrace :: rest = found ++ [closeBrace] ++ rest := by simp
  have hwidth : utf8Len (Piece.placeholder found).source = 1 + utf8Len (found ++ [closeBrace]) := by
    rw [utf8Len_source, utf8Len_append, add_assoc]
    rfl
  rw [source_append, occursAt_open, hsplit, hinner, hwidth]
  simp only [occursAt_append hname.no_open]
  constructor
  · rintro (⟨rfl, after, hfound⟩ | ⟨_, ⟨j, hj, rfl⟩, rfl⟩)
    · exact .inl ⟨rfl, (congrArg Prod.fst (Option.some.inj hfound)).symm⟩
    · exact .inr ⟨j, hj, by omega⟩
  · rintro (⟨rfl, rfl⟩ | ⟨j, hj, rfl⟩)
    · exact .inl ⟨rfl, rest, rfl⟩
    · exact .inr ⟨_, ⟨j, hj, rfl⟩, by omega⟩

theorem occursAt_stray (hnone : splitName inner = none) :
    OccursAt (openBrace :: inner) i name ↔ ∃ j, OccursAt inner j name ∧ i = 1 + j := by
  rw [occursAt_open, hnone]
  simp

theorem Scanned.mem_placeholdersFrom_iff (h : Scanned cs pieces) (start : Nat) :
    (i, name) ∈ placeholdersFrom start pieces ↔ ∃ j, OccursAt cs j name ∧ i = start + j := by
  induction h generalizing start with
  | rest cs hfree =>
      have hnone : placeholdersFrom start (textPieces cs) = [] := by
        cases cs <;> rfl
      simp [hnone, not_occursAt hfree]
  | @placeholder before found rest pieces hfree hname h ih =>
      rw [placeholdersFrom_textPieces, placeholdersFrom, List.mem_cons, ih]
      simp only [occursAt_append hfree, occursAt_placeholder hname, Prod.mk.injEq]
      constructor
      · rintro (⟨rfl, rfl⟩ | ⟨j, hj, rfl⟩)
        · exact ⟨_, ⟨0, .inl ⟨rfl, rfl⟩, rfl⟩, rfl⟩
        · exact ⟨_, ⟨_, .inr ⟨j, hj, rfl⟩, rfl⟩, by omega⟩
      · rintro ⟨_, ⟨_, ⟨rfl, rfl⟩ | ⟨j, hj, rfl⟩, rfl⟩, rfl⟩
        · exact .inl ⟨rfl, rfl⟩
        · exact .inr ⟨j, hj, by omega⟩
  | @stray before inner pieces hfree hnone h ih =>
      have hbrace : utf8Len [openBrace] = 1 := rfl
      rw [placeholdersFrom, ih]
      simp only [occursAt_append hfree, occursAt_stray hnone, utf8Len_append, hbrace]
      constructor
      · rintro ⟨j, hj, rfl⟩
        exact ⟨_, ⟨_, ⟨j, hj, rfl⟩, rfl⟩, by omega⟩
      · rintro ⟨_, ⟨_, ⟨j, hj, rfl⟩, rfl⟩, rfl⟩
        exact ⟨j, hj, by omega⟩

def EndsBefore (first second : Nat × List Char) : Prop :=
  first.1 + utf8Len (Piece.placeholder first.2).source ≤ second.1

theorem le_of_mem_placeholdersFrom {start : Nat} {found : Nat × List Char}
    (h : found ∈ placeholdersFrom start pieces) : start ≤ found.1 := by
  induction pieces generalizing start with
  | nil => simp [placeholdersFrom] at h
  | cons piece pieces ih =>
      cases piece with
      | text cs => exact (Nat.le_add_right _ _).trans (ih h)
      | placeholder name =>
          rcases List.mem_cons.mp h with rfl | h
          · exact Nat.le_refl _
          · exact (Nat.le_add_right _ _).trans (ih h)

theorem pairwise_placeholdersFrom (start : Nat) (pieces : List Piece) :
    (placeholdersFrom start pieces).Pairwise EndsBefore := by
  induction pieces generalizing start with
  | nil => exact .nil
  | cons piece pieces ih =>
      cases piece with
      | text cs => exact ih _
      | placeholder name =>
          exact .cons (fun _ hfound ↦ le_of_mem_placeholdersFrom hfound) (ih _)

/-! ## Turns over byte indices -/

/-- The text between two byte indices; there is none if one of them is inside a character. -/
def slice? (t : String) (i j : Nat) : Option String :=
  if i ≤ j ∧ (String.Pos.Raw.mk i).isValid t ∧ (String.Pos.Raw.mk j).isValid t then
    some (String.Pos.Raw.extract t ⟨i⟩ ⟨j⟩)
  else none

def firstIndex? (p : Char → Bool) (s : String) : Option Nat :=
  if s.toList.any p then some (utf8Len (s.toList.takeWhile (!p ·))) else none

def closing? (inner : String) : Option (Option Nat) :=
  match firstIndex? isBrace inner with
  | none => some none
  | some close => do
      let byte ← (Text.Utf8.bytes inner)[close]?
      return if 0 < close ∧ byte = 0x7d then some close else none

/-- What a turn emits, and the byte index behind which the next turn goes on, if there is one. -/
structure Turn where
  emitted : List Piece
  next : Option Nat

/-- A turn over the text behind byte `i`, which fails if an index at which it cuts is inside a
character. -/
def turn? (t : String) (i : Nat) : Option Turn := do
  let rest ← slice? t i t.utf8ByteSize
  match firstIndex? (· = openBrace) rest with
  | none => return ⟨textPieces rest.toList, none⟩
  | some opening =>
      let start := i + opening + 1
      let before ← slice? t i (i + opening)
      let inner ← slice? t start t.utf8ByteSize
      match ← closing? inner with
      | some close =>
          let name ← slice? t start (start + close)
          return ⟨textPieces before.toList ++ [.placeholder name.toList], some (start + close + 1)⟩
      | none =>
          let kept ← slice? t i start
          return ⟨[.text kept.toList], some start⟩

/-- The turns from byte `i` on come to an end, and together they emit the pieces. -/
inductive Runs (t : String) : Nat → List Piece → Prop where
  | last {i : Nat} {pieces : List Piece} (h : turn? t i = some ⟨pieces, none⟩) : Runs t i pieces
  | next {i j : Nat} {emitted pieces : List Piece} (h : turn? t i = some ⟨emitted, some j⟩)
      (hrest : Runs t j pieces) : Runs t i (emitted ++ pieces)

theorem isValid_utf8Len (before cs : List Char) :
    (String.Pos.Raw.mk (utf8Len before)).isValid (ofList (before ++ cs)) = true := by
  rw [String.Pos.Raw.isValid_eq_true_iff, String.Pos.Raw.isValid_iff_exists_append]
  exact ⟨ofList before, ofList cs, String.ofList_append, (String.rawEndPos_ofList before).symm⟩

theorem slice?_eq_some {t : String} (past found more : List Char)
    (ht : t = ofList (past ++ found ++ more)) (hi : i = utf8Len past)
    (hj : j = utf8Len past + utf8Len found) : slice? t i j = some (ofList found) := by
  have hstart : (String.Pos.Raw.mk i).isValid t = true := by
    rw [ht, hi, List.append_assoc]
    exact isValid_utf8Len past (found ++ more)
  have hend : (String.Pos.Raw.mk j).isValid t = true := by
    rw [ht, hj, ← utf8Len_append]
    exact isValid_utf8Len (past ++ found) more
  have hle : i ≤ j := by omega
  rw [slice?, if_pos ⟨hle, hstart, hend⟩, ht, hi, hj, String.extract_of_valid]

variable {p : Char → Bool}

theorem firstIndex?_eq_none (h : ∀ c ∈ cs, p c = false) : firstIndex? p (ofList cs) = none := by
  simpa [firstIndex?] using h

theorem firstIndex?_eq_some (h : ∀ c ∈ before, p c = false) (hc : p c = true)
    (after : List Char) : firstIndex? p (ofList (before ++ c :: after)) = some (utf8Len before) := by
  have hkeep : ∀ d ∈ before, (!p d) = true := fun d hd ↦ by simp [h d hd]
  have hstop : (!p c) = false := by simp [hc]
  rw [firstIndex?, String.toList_ofList, (takeWhile_append_brace after hkeep hstop).1]
  simp [hc]

theorem byte_brace {brace : Char} (h : isBrace brace = true) (before after : List Char) :
    (Text.Utf8.bytes (ofList (before ++ brace :: after)))[utf8Len before]? =
      some (if brace = closeBrace then 0x7d else 0x7b) := by
  have hbrace : String.utf8EncodeChar brace = [if brace = closeBrace then 0x7d else 0x7b] := by
    rcases (by simpa [isBrace] using h : brace = openBrace ∨ brace = closeBrace) with rfl | rfl <;>
      rfl
  rw [Text.Utf8.bytes, String.toList_ofList, Text.Utf8.encode_append, Text.Utf8.encode_cons, hbrace,
    ← Text.Utf8.width_eq, Text.Utf8.width, List.getElem?_append_right (Nat.le_refl _), Nat.sub_self]
  rfl

theorem splitName_append {brace : Char} (hname : ∀ c ∈ name, isBrace c = false)
    (hbrace : isBrace brace = true) (rest : List Char) :
    splitName (name ++ brace :: rest) =
      if name ≠ [] ∧ brace = closeBrace then some (name, rest) else none := by
  have hkeep : ∀ c ∈ name, (!isBrace c) = true := fun c hc ↦ by simp [hname c hc]
  have hstop : (!isBrace brace) = false := by simp [hbrace]
  obtain ⟨htake, hdrop⟩ := takeWhile_append_brace rest hkeep hstop
  rw [splitName, htake, hdrop]
  cases name <;> simp

theorem closing?_eq (inner : List Char) :
    closing? (ofList inner) = some ((splitName inner).map fun found ↦ utf8Len found.1) := by
  cases hfind : inner.find? isBrace with
  | none =>
      have hfree : ∀ c ∈ inner, isBrace c = false := by simpa using List.find?_eq_none.mp hfind
      have hdrop : inner.dropWhile (!isBrace ·) = [] := by simpa using hfree
      rw [closing?, firstIndex?_eq_none hfree]
      simp [splitName, hdrop]
  | some brace =>
      obtain ⟨hbrace, name, rest, rfl, hfree⟩ := List.find?_eq_some_iff_append.mp hfind
      have hname : ∀ c ∈ name, isBrace c = false := by simpa using hfree
      have hlen : 0 < utf8Len name ↔ name ≠ [] := by
        rw [Nat.pos_iff_ne_zero, ne_eq, String.utf8Len_eq_zero]
      rw [closing?, firstIndex?_eq_some hname hbrace, splitName_append hname hbrace]
      simp only [byte_brace hbrace, Option.bind_eq_bind, Option.bind_some, hlen]
      by_cases hclose : brace = closeBrace <;> by_cases hne : name = [] <;> simp [hclose, hne]

section Cuts

variable {t : String} {past : List Char}

theorem slice?_rest (past cs : List Char) (ht : t = ofList (past ++ cs)) (hi : i = utf8Len past) :
    slice? t i t.utf8ByteSize = some (ofList cs) := by
  have hend : t.utf8ByteSize = utf8Len past + utf8Len cs := by
    rw [ht, String.utf8ByteSize_ofList, utf8Len_append]
  exact slice?_eq_some past cs [] (by rw [ht, List.append_nil]) hi hend

theorem turn?_of_no_open (ht : t = ofList (past ++ cs)) (hfree : ∀ c ∈ cs, c ≠ openBrace) :
    turn? t (utf8Len past) = some ⟨textPieces cs, none⟩ := by
  have hnone : firstIndex? (· = openBrace) (ofList cs) = none :=
    firstIndex?_eq_none fun c hc ↦ by simpa using hfree c hc
  simp [turn?, slice?_rest past _ ht rfl, hnone]

theorem slices_of_open (ht : t = ofList (past ++ (before ++ openBrace :: inner))) :
    slice? t (utf8Len past) (utf8Len past + utf8Len before) = some (ofList before) ∧
      slice? t (utf8Len past + utf8Len before + 1) t.utf8ByteSize = some (ofList inner) := by
  refine ⟨?_, ?_⟩
  · apply slice?_eq_some past before (openBrace :: inner) _ rfl rfl
    rw [ht, List.append_assoc]
  · apply slice?_rest (past ++ before ++ [openBrace]) inner
    · simp [ht]
    · simp only [utf8Len_append]
      rfl

theorem firstIndex?_open (hfree : ∀ c ∈ before, c ≠ openBrace) (inner : List Char) :
    firstIndex? (· = openBrace) (ofList (before ++ openBrace :: inner)) = some (utf8Len before) :=
  firstIndex?_eq_some (fun c hc ↦ by simpa using hfree c hc) (by simp) inner

theorem turn?_of_stray (ht : t = ofList (past ++ (before ++ openBrace :: inner)))
    (hfree : ∀ c ∈ before, c ≠ openBrace) (hnone : splitName inner = none) :
    turn? t (utf8Len past) = some ⟨[.text (before ++ [openBrace])],
      some (utf8Len (past ++ (before ++ [openBrace])))⟩ := by
  obtain ⟨hbefore, hinner⟩ := slices_of_open ht
  have hnext : utf8Len (past ++ (before ++ [openBrace])) = utf8Len past + utf8Len before + 1 := by
    simp only [utf8Len_append, add_assoc]
    rfl
  have hkept : slice? t (utf8Len past) (utf8Len past + utf8Len before + 1) =
      some (ofList (before ++ [openBrace])) := by
    apply slice?_eq_some past (before ++ [openBrace]) inner
    · simp [ht]
    · rfl
    · rw [← hnext, utf8Len_append]
  rw [turn?, slice?_rest past _ ht rfl, hnext]
  simp only [Option.bind_eq_bind, Option.bind_some, firstIndex?_open hfree, hbefore, hinner,
    closing?_eq, hnone, Option.map_none, hkept, String.toList_ofList]
  rfl

theorem turn?_of_placeholder
    (ht : t = ofList (past ++ (before ++ ((Piece.placeholder name).source ++ rest))))
    (hfree : ∀ c ∈ before, c ≠ openBrace) (hname : IsName name) :
    turn? t (utf8Len past) = some ⟨textPieces before ++ [.placeholder name],
      some (utf8Len (past ++ (before ++ (Piece.placeholder name).source)))⟩ := by
  rw [source_append] at ht
  have hsplit : splitName (name ++ closeBrace :: rest) = some (name, rest) :=
    splitName_eq_some_iff.mpr ⟨hname, rfl⟩
  obtain ⟨hbefore, hinner⟩ := slices_of_open ht
  have hslice : slice? t (utf8Len past + utf8Len before + 1)
      (utf8Len past + utf8Len before + 1 + utf8Len name) = some (ofList name) := by
    have hbrace : utf8Len [openBrace] = 1 := rfl
    apply slice?_eq_some (past ++ before ++ [openBrace]) name (closeBrace :: rest)
    · simp [ht]
    · simp only [utf8Len_append, hbrace]
    · simp only [utf8Len_append, hbrace]
  have hnext : utf8Len past + utf8Len before + 1 + utf8Len name + 1 =
      utf8Len (past ++ (before ++ (Piece.placeholder name).source)) := by
    simp only [utf8Len_append, utf8Len_source, add_assoc]
  rw [turn?, slice?_rest past _ ht rfl]
  simp only [Option.bind_eq_bind, Option.bind_some, firstIndex?_open hfree, hbefore, hinner,
    closing?_eq, hsplit, Option.map_some, hslice, hnext, String.toList_ofList]
  rfl

end Cuts

/-- The turns behind any part of a template emit the pieces of what is left. -/
theorem Scanned.runs (h : Scanned cs pieces) {t : String} {past : List Char}
    (ht : t = ofList (past ++ cs)) : Runs t (utf8Len past) pieces := by
  induction h generalizing past with
  | rest cs hfree => exact .last (turn?_of_no_open ht hfree)
  | placeholder before name hfree hname h ih =>
      rw [List.append_cons]
      exact .next (turn?_of_placeholder ht hfree hname) (ih (by simpa using ht))
  | stray before hfree hnone h ih =>
      exact .next (turn?_of_stray ht hfree hnone) (ih (by simpa using ht))

theorem Runs.unique {t : String} {others : List Piece} (h : Runs t i pieces)
    (hother : Runs t i others) : pieces = others := by
  induction h generalizing others with
  | last hturn =>
      cases hother with
      | last hturn' =>
          have hsame := hturn.symm.trans hturn'
          simpa using hsame
      | next hturn' =>
          have hsame := hturn.symm.trans hturn'
          simp at hsame
  | next hturn hrest ih =>
      cases hother with
      | last hturn' =>
          have hsame := hturn.symm.trans hturn'
          simp at hsame
      | next hturn' hrest' =>
          have hsame := hturn.symm.trans hturn'
          simp only [Option.some.injEq, Turn.mk.injEq] at hsame
          obtain ⟨rfl, rfl⟩ := hsame
          rw [ih hrest']

/-- No cut is inside a character, the turns end, and they emit the pieces of the template. -/
theorem runs_iff {t : String} : Runs t 0 pieces ↔ pieces = scan t.toList := by
  have ht : t = ofList ([] ++ t.toList) := String.ofList_toList.symm
  have hruns : Runs t 0 (scan t.toList) := (scanned_scan t.toList).runs ht
  constructor
  · intro h
    exact h.unique hruns
  · rintro rfl
    exact hruns

theorem disjoint_of_mem {found : List (Nat × List Char)} (h : found.Pairwise EndsBefore)
    {first second : Nat × List Char} (hfirst : first ∈ found) (hsecond : second ∈ found) :
    first = second ∨ EndsBefore first second ∨ EndsBefore second first := by
  induction h with
  | nil => simp at hfirst
  | cons hbefore _ ih =>
      rcases List.mem_cons.mp hfirst with rfl | hfirst'
      · rcases List.mem_cons.mp hsecond with rfl | hsecond'
        · exact .inl rfl
        · exact .inr (.inl (hbefore _ hsecond'))
      · rcases List.mem_cons.mp hsecond with rfl | hsecond'
        · exact .inr (.inr (hbefore _ hfirst'))
        · exact ih hfirst' hsecond'

/-- The scanner comes to an end, and no index at which it cuts the template is inside a
character.  Its pieces give the template back, and none of them is an empty text.  The
placeholders among them, each with its byte index, are all that occur in the template, from left
to right; no two placeholders overlap. -/
theorem scan_finds_placeholders (t : String) :
    let pieces := scan t.toList
    let found := placeholdersFrom 0 pieces
    (∀ emitted, Runs t 0 emitted ↔ emitted = pieces) ∧
      pieces.flatMap Piece.source = t.toList ∧
      .text [] ∉ pieces ∧
      (∀ i name, (i, name) ∈ found ↔ OccursAt t.toList i name) ∧
      found.Pairwise EndsBefore ∧
      ∀ i name j other, OccursAt t.toList i name → OccursAt t.toList j other →
        (i, name) = (j, other) ∨ EndsBefore (i, name) (j, other) ∨
          EndsBefore (j, other) (i, name) := by
  intro pieces found
  have hscanned : Scanned t.toList pieces := scanned_scan t.toList
  have hmem : ∀ i name, (i, name) ∈ found ↔ OccursAt t.toList i name := by
    intro i name
    simp [found, hscanned.mem_placeholdersFrom_iff]
  have hpairwise : found.Pairwise EndsBefore := pairwise_placeholdersFrom 0 pieces
  refine ⟨fun _ ↦ runs_iff, hscanned.flatMap_source, hscanned.empty_notMem, hmem, hpairwise, ?_⟩
  intro i name j other hi hj
  exact disjoint_of_mem hpairwise ((hmem i name).mpr hi) ((hmem j other).mpr hj)

/-- A brace that begins no placeholder stays, and the next one may begin one. -/
example : scan "ä\x7b\x7bz\x7d\x7d\x7b\x7d\x7bx".toList =
    [.text ['ä', '\x7b'], .placeholder ['z'], .text ['\x7d', '\x7b'],
      .text ['\x7d', '\x7b'], .text ['x']] := by
  cbv

example : slice? "ä" 0 2 = some "ä" ∧ slice? "ä" 0 1 = none := by
  decide

end TileFetch.Template
