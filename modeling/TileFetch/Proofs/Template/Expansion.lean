import Mathlib
import TileFetch.Template.Scan

/-!
# What expanding a template does

`Expands` says what a template becomes, without any mention of pieces: from left to right a
placeholder with a value becomes that value, and every other character stays where it is.
`expands_iff` says that this is what `expand` computes.  The equations for `expand` go character
by character, and with them a template is expanded part by part.
-/

namespace TileFetch.Template

variable {value? : List Char → Option (List Char)} {cs out name rest : List Char} {c : Char}

/-! ## Names of placeholders -/

def IsName (name : List Char) : Prop :=
  name ≠ [] ∧ ∀ c ∈ name, isBrace c = false

theorem takeWhile_append_brace {p : Char → Bool} {brace : Char} (rest : List Char)
    (hname : ∀ c ∈ name, p c = true) (hbrace : p brace = false) :
    (name ++ brace :: rest).takeWhile p = name ∧
      (name ++ brace :: rest).dropWhile p = brace :: rest := by
  rw [List.takeWhile_append_of_pos hname, List.dropWhile_append_of_pos hname]
  simp [hbrace]

theorem splitName_eq_some_iff :
    splitName cs = some (name, rest) ↔ IsName name ∧ cs = name ++ closeBrace :: rest := by
  constructor
  · intro h
    unfold splitName at h
    split at h
    · rename_i c tail d after htake hdrop
      split at h
      · obtain ⟨rfl, rfl⟩ : c :: tail = name ∧ after = rest := by simpa using h
        refine ⟨⟨List.cons_ne_nil _ _, fun x hx ↦ ?_⟩, ?_⟩
        · rw [← htake] at hx
          simpa using List.mem_takeWhile_imp hx
        · rw [← htake, ← ‹d = closeBrace›, ← hdrop, List.takeWhile_append_dropWhile]
      · contradiction
    · contradiction
  · rintro ⟨⟨hne, hname⟩, rfl⟩
    obtain ⟨c, tail, rfl⟩ := List.exists_cons_of_ne_nil hne
    have hkeep : ∀ x ∈ c :: tail, (!isBrace x) = true := fun x hx ↦ by simp [hname x hx]
    have hbrace : (!isBrace closeBrace) = false := rfl
    obtain ⟨htake, hdrop⟩ := takeWhile_append_brace rest hkeep hbrace
    rw [splitName, htake, hdrop]
    simp

/-! ## Equations of `expand` -/

theorem flatMap_textPieces {f : Piece → List Char} (hf : ∀ cs, f (.text cs) = cs)
    (cs : List Char) : (textPieces cs).flatMap f = cs := by
  cases cs <;> simp [textPieces, hf]

theorem expand_of_no_open (h : cs.dropWhile (· ≠ openBrace) = []) : expand value? cs = cs := by
  rw [expand, scan]
  split
  · exact flatMap_textPieces (fun _ ↦ rfl) cs
  · rename_i brace inner hopen
    exact (List.cons_ne_nil brace inner (hopen.symm.trans h)).elim

theorem expand_of_open {brace : Char} {inner : List Char}
    (h : cs.dropWhile (· ≠ openBrace) = brace :: inner) :
    expand value? cs = cs.takeWhile (· ≠ openBrace) ++
      match splitName inner with
      | some (name, rest) =>
          (value? name).getD (Piece.placeholder name).source ++ expand value? rest
      | none => brace :: expand value? inner := by
  rw [expand, scan]
  split
  · rename_i hnone
    exact (List.cons_ne_nil brace inner (h.symm.trans hnone)).elim
  · rename_i brace' inner' hopen
    obtain ⟨rfl, rfl⟩ : brace' = brace ∧ inner' = inner := by
      simpa using hopen.symm.trans h
    split
    · rename_i name rest hname
      rw [hname, List.flatMap_append, flatMap_textPieces fun _ ↦ rfl]
      rfl
    · rename_i hname
      rw [hname]
      simp [expand]

@[simp] theorem expand_nil : expand value? [] = [] :=
  expand_of_no_open rfl

theorem expand_cons_of_ne (h : c ≠ openBrace) (cs : List Char) :
    expand value? (c :: cs) = c :: expand value? cs := by
  have hdrop : (c :: cs).dropWhile (· ≠ openBrace) = cs.dropWhile (· ≠ openBrace) := by simp [h]
  cases hcs : cs.dropWhile (· ≠ openBrace) with
  | nil => rw [expand_of_no_open (hdrop.trans hcs), expand_of_no_open hcs]
  | cons brace inner =>
      rw [expand_of_open (hdrop.trans hcs), expand_of_open hcs]
      simp [h]

theorem expand_open (cs : List Char) :
    expand value? (openBrace :: cs) =
      match splitName cs with
      | some (name, rest) =>
          (value? name).getD (Piece.placeholder name).source ++ expand value? rest
      | none => openBrace :: expand value? cs := by
  have hopen : (openBrace :: cs).dropWhile (· ≠ openBrace) = openBrace :: cs := by simp
  rw [expand_of_open hopen]
  simp

theorem expand_append_of_no_open (h : ∀ c ∈ cs, c ≠ openBrace) (more : List Char) :
    expand value? (cs ++ more) = cs ++ expand value? more := by
  induction cs with
  | nil => rfl
  | cons c cs ih =>
      rw [List.cons_append, expand_cons_of_ne (h c List.mem_cons_self),
        ih fun d hd ↦ h d (List.mem_cons_of_mem c hd), List.cons_append]

theorem IsName.no_open (h : IsName name) : ∀ c ∈ name ++ [closeBrace], c ≠ openBrace := by
  intro c hc
  rcases List.mem_append.mp hc with hc | hc
  · rintro rfl
    exact Bool.false_ne_true (h.2 _ hc).symm
  · obtain rfl := List.mem_singleton.mp hc
    decide

theorem expand_placeholder (h : IsName name) (rest : List Char) :
    expand value? ((Piece.placeholder name).source ++ rest) =
      (value? name).getD (Piece.placeholder name).source ++ expand value? rest := by
  have hsplit : splitName (name ++ closeBrace :: rest) = some (name, rest) :=
    splitName_eq_some_iff.mpr ⟨h, rfl⟩
  simp [Piece.source, expand_open, hsplit]

theorem expand_cons
    (h : ∀ name rest, IsName name → c :: cs = (Piece.placeholder name).source ++ rest →
      value? name = none) :
    expand value? (c :: cs) = c :: expand value? cs := by
  by_cases hc : c = openBrace
  · subst hc
    rw [expand_open]
    cases hsplit : splitName cs with
    | none => rfl
    | some found =>
        obtain ⟨name, rest⟩ := found
        obtain ⟨hname, rfl⟩ := splitName_eq_some_iff.mp hsplit
        have hnone : value? name = none := h name rest hname (by simp [Piece.source])
        have hkept : expand value? (name ++ [closeBrace] ++ rest) =
            name ++ [closeBrace] ++ expand value? rest :=
          expand_append_of_no_open hname.no_open rest
        simp only [List.append_assoc, List.singleton_append] at hkept
        simp [hnone, Piece.source, hkept]
  · exact expand_cons_of_ne hc cs

/-! ## Expansion as a relation -/

inductive Expands (value? : List Char → Option (List Char)) : List Char → List Char → Prop where
  | done : Expands value? [] []
  | gap (name value : List Char) {rest out : List Char} (hname : IsName name)
      (hvalue : value? name = some value) (h : Expands value? rest out) :
      Expands value? ((Piece.placeholder name).source ++ rest) (value ++ out)
  | keep (c : Char) {cs out : List Char}
      (hnone : ∀ name rest, IsName name → c :: cs = (Piece.placeholder name).source ++ rest →
        value? name = none)
      (h : Expands value? cs out) : Expands value? (c :: cs) (c :: out)

theorem Expands.eq_expand (h : Expands value? cs out) : out = expand value? cs := by
  induction h with
  | done => simp
  | gap name value hname hvalue h ih => simp [expand_placeholder hname, hvalue, ih]
  | keep c hnone h ih => rw [expand_cons hnone, ih]

theorem expands_expand (value? : List Char → Option (List Char)) (cs : List Char) :
    Expands value? cs (expand value? cs) := by
  -- By the length of the template: a placeholder is taken off as a whole.
  induction hn : cs.length using Nat.strong_induction_on generalizing cs with
  | _ n ih =>
      subst hn
      cases cs with
      | nil => simpa using Expands.done
      | cons c cs =>
          by_cases hgap : ∃ name value rest, IsName name ∧
              c :: cs = (Piece.placeholder name).source ++ rest ∧ value? name = some value
          · obtain ⟨name, value, rest, hname, heq, hvalue⟩ := hgap
            rw [heq, expand_placeholder hname, hvalue]
            refine .gap name value hname hvalue (ih rest.length ?_ rest rfl)
            simp [heq, Piece.source]
            omega
          · have hnone : ∀ name rest, IsName name →
                c :: cs = (Piece.placeholder name).source ++ rest → value? name = none := by
              intro name rest hname heq
              rw [Option.eq_none_iff_forall_ne_some]
              intro value hvalue
              exact hgap ⟨name, value, rest, hname, heq, hvalue⟩
            rw [expand_cons hnone]
            exact .keep c hnone (ih cs.length (by simp) cs rfl)

theorem expands_iff : Expands value? cs out ↔ out = expand value? cs :=
  ⟨Expands.eq_expand, fun h ↦ h ▸ expands_expand value? cs⟩

/-! ## Parts of a template -/

namespace Expands

/-- A template can be cut in front of a character that no placeholder with a value has behind
its opening brace. -/
theorem append_cons (h : Expands value? cs out) (hclose : c ≠ closeBrace)
    (hfree : ∀ name, IsName name → c ∈ name → value? name = none) {after out' : List Char}
    (hafter : Expands value? (c :: after) out') :
    Expands value? (cs ++ c :: after) (out ++ out') := by
  induction h with
  | done => exact hafter
  | gap name value hname hvalue _ ih =>
      rw [List.append_assoc, List.append_assoc]
      exact .gap name value hname hvalue ih
  | @keep d cs out hnone _ ih =>
      refine .keep d (fun name rest hname heq ↦ ?_) ih
      have hsplit : (d :: cs) ++ c :: after = (Piece.placeholder name).source ++ rest := heq
      rcases List.append_eq_append_iff.mp hsplit with ⟨beyond, hsource, hcut⟩ | ⟨rest, hcs, -⟩
      · cases beyond with
        | nil => exact hnone name [] hname (by simpa using hsource.symm)
        | cons e beyond =>
            -- The placeholder would go on beyond the cut.
            obtain rfl : c = e := (List.cons.inj hcut).1
            obtain ⟨-, hbody⟩ : openBrace = d ∧ name ++ [closeBrace] = cs ++ c :: beyond := by
              simpa [Piece.source] using hsource
            have hmem : c ∈ name ++ [closeBrace] := by simp [hbody]
            rcases List.mem_append.mp hmem with hmem | hmem
            · exact hfree name hname hmem
            · exact (hclose (List.mem_singleton.mp hmem)).elim
      · exact hnone name rest hname hcs

/-- Only the values of placeholders that occur matter. -/
theorem congr {other? : List Char → Option (List Char)} (h : Expands value? cs out)
    (hsame : ∀ name, (Piece.placeholder name).source <:+: cs → value? name = other? name) :
    Expands other? cs out := by
  induction h with
  | done => exact .done
  | gap name value hname hvalue _ ih =>
      have hother : other? name = some value := by
        rw [← hsame name (List.prefix_append _ _).isInfix, hvalue]
      exact .gap name value hname hother
        (ih fun name' h' ↦ hsame name' (h'.trans (List.suffix_append _ _).isInfix))
  | keep c hnone _ ih =>
      refine .keep c (fun name rest hname heq ↦ ?_)
        (ih fun name' h' ↦ hsame name' (h'.trans (List.suffix_cons c _).isInfix))
      rw [← hsame name ⟨[], rest, heq.symm⟩]
      exact hnone name rest hname heq

theorem mem (h : Expands value? cs out) (hc : c ∈ out) :
    c ∈ cs ∨ ∃ name value, value? name = some value ∧ c ∈ value := by
  induction h with
  | done => simp at hc
  | gap name value hname hvalue _ ih =>
      rcases List.mem_append.mp hc with hc | hc
      · exact .inr ⟨name, value, hvalue, hc⟩
      · exact (ih hc).imp_left (List.mem_append_right _)
  | keep d hnone _ ih =>
      rcases List.mem_cons.mp hc with rfl | hc
      · exact .inl List.mem_cons_self
      · exact (ih hc).imp_left (List.mem_cons_of_mem d)

variable {p : Char → Prop}

/-- If every value has a character of some kind, expanding does not lose the last one. -/
theorem exists_mem (h : Expands value? cs out)
    (hvalue : ∀ name value, value? name = some value → ∃ c ∈ value, p c)
    (hcs : ∃ c ∈ cs, p c) : ∃ c ∈ out, p c := by
  induction h with
  | done => exact hcs
  | gap name value hname hsome _ ih =>
      obtain ⟨c, hc, hpc⟩ := hvalue name value hsome
      exact ⟨c, List.mem_append_left _ hc, hpc⟩
  | keep d hnone _ ih =>
      obtain ⟨c, hc, hpc⟩ := hcs
      rcases List.mem_cons.mp hc with rfl | hc
      · exact ⟨c, List.mem_cons_self, hpc⟩
      · obtain ⟨e, he, hpe⟩ := ih ⟨c, hc, hpc⟩
        exact ⟨e, List.mem_cons_of_mem d he, hpe⟩

/-- If no character of that kind is there afterwards, the template has no placeholder with a
value. -/
theorem untouched {other? : List Char → Option (List Char)} (h : Expands value? cs out)
    (hvalue : ∀ name value, value? name = some value → ∃ c ∈ value, p c)
    (hout : ∀ c ∈ out, ¬ p c) (hnames : ∀ name, value? name = none → other? name = none) :
    Expands other? cs cs := by
  induction h with
  | done => exact .done
  | gap name value hname hsome _ ih =>
      obtain ⟨c, hc, hpc⟩ := hvalue name value hsome
      exact (hout c (List.mem_append_left _ hc) hpc).elim
  | keep d hnone _ ih =>
      exact .keep d (fun name rest hname heq ↦ hnames name (hnone name rest hname heq))
        (ih fun c hc ↦ hout c (List.mem_cons_of_mem d hc))

end Expands

end TileFetch.Template
