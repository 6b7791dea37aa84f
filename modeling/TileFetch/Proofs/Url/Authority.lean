import Mathlib
import TileFetch.Url.Parser

/-!
# What follows the authority of a URL

Reading a URL of a special scheme goes from left to right.  The characters that end the
authority also end every part of it, so what follows them has no say in scheme, credentials,
host and port: `readAuthority_append`.
-/

namespace TileFetch.Url

variable {scheme cs authority : List Char} {e : Char}

def readTail (u : Url) (cs : List Char) : Url :=
  readEnd .special { u with path := readPath .special (cs.takeWhile (!isPathEnd ·)) }
    (cs.dropWhile (!isPathEnd ·))

def InAuthority (cs : List Char) : Prop :=
  ∀ c ∈ cs, isAuthorityEnd .special c = false

/-! ## Where a text stops -/

section Stop

variable {p : Char → Bool} (he : p e = false)

include he

theorem takeWhile_append_stop (cs tail : List Char) :
    (cs ++ e :: tail).takeWhile p = cs.takeWhile p := by
  induction cs with
  | nil => simp [he]
  | cons c cs ih => by_cases hc : p c = true <;> simp [hc, ih]

theorem dropWhile_append_stop (cs tail : List Char) :
    (cs ++ e :: tail).dropWhile p = cs.dropWhile p ++ e :: tail := by
  induction cs with
  | nil => simp [he]
  | cons c cs ih => by_cases hc : p c = true <;> simp [hc, ih]

end Stop

theorem isAuthorityEnd_special_iff :
    isAuthorityEnd .special e = true ↔ e = '/' ∨ e = '?' ∨ e = '#' ∨ e = '\\' := by
  simp [isAuthorityEnd, or_assoc]

/-! ## Parts of the authority -/

namespace InAuthority

variable (hcs : InAuthority cs)

include hcs

theorem sublist {part : List Char} (h : part.Sublist cs) : InAuthority part :=
  fun c hc ↦ hcs c (h.subset hc)

theorem takeWhile_eq : cs.takeWhile (!isAuthorityEnd .special ·) = cs :=
  List.takeWhile_eq_self_iff.mpr fun c hc ↦ by simp [hcs c hc]

theorem dropWhile_eq : cs.dropWhile (!isAuthorityEnd .special ·) = [] :=
  List.dropWhile_eq_nil_iff.mpr fun c hc ↦ by simp [hcs c hc]

end InAuthority

theorem splitCredentials_sublist {info after : List Char}
    (h : splitCredentials cs = some (info, after)) : after.Sublist cs := by
  simp only [splitCredentials, Option.ite_none_right_eq_some, Option.some.injEq,
    Prod.mk.injEq] at h
  obtain ⟨-, -, rfl⟩ := h
  have hsub := (List.takeWhile_sublist (· ≠ '@') (l := cs.reverse)).reverse
  rwa [List.reverse_reverse] at hsub

theorem splitHost_suffix (kind : SchemeKind) (inBrackets : Bool) (cs : List Char) :
    (splitHost kind inBrackets cs).2 <:+ cs := by
  induction cs generalizing inBrackets with
  | nil => exact List.suffix_rfl
  | cons c cs ih =>
      simp only [splitHost]
      split
      · exact List.suffix_rfl
      · exact (ih _).trans (List.suffix_cons c cs)

/-- Inside the authority the host ends in front of a port or not at all. -/
theorem splitHost_rest (inBrackets : Bool) (hcs : InAuthority cs) :
    (splitHost .special inBrackets cs).2 = [] ∨
      ∃ port, (splitHost .special inBrackets cs).2 = ':' :: port := by
  induction cs generalizing inBrackets with
  | nil => exact .inl rfl
  | cons c cs ih =>
      have hend : isAuthorityEnd .special c = false := hcs c List.mem_cons_self
      simp only [splitHost, hend, Bool.or_false]
      split
      · rename_i hcolon
        obtain ⟨rfl, -⟩ : c = ':' ∧ inBrackets = false := by simpa using hcolon
        exact .inr ⟨cs, rfl⟩
      · exact ih _ (hcs.sublist (List.sublist_cons_self c cs))

def readHost (cs : List Char) : Except UrlFault Host :=
  if cs.isEmpty then .error .emptyHost else Host.read cs

theorem readHostAndPort_special (scheme cs : List Char) :
    readHostAndPort .special scheme cs =
      (readHost (splitHost .special false cs).1).bind fun host ↦
        if host = .empty ∧ (splitHost .special false cs).2.head? = some ':' then
          .error .emptyHost
        else
          (readOptionalPort scheme (splitHost .special false cs).2).map fun x ↦ (host, x) := by
  simp only [readHostAndPort, readHost, reduceCtorEq, if_false]
  split
  · rfl
  · cases Host.read (splitHost .special false cs).1 with
    | error fault => rfl
    | ok host =>
        cases readOptionalPort scheme (splitHost .special false cs).2 <;>
          simp [bind, Except.bind, Except.map]

section End

variable (hcs : InAuthority cs) (he : isAuthorityEnd .special e = true)

include he

theorem ne_colon_of_end : e ≠ ':' := by
  rintro rfl
  simp [isAuthorityEnd] at he

theorem not_digit_of_end : e.isDigit = false := by
  rcases isAuthorityEnd_special_iff.mp he with rfl | rfl | rfl | rfl <;> rfl

theorem readPort_append (tail : List Char) (hcs : InAuthority cs) :
    readPort scheme (cs ++ e :: tail) =
      (readPort scheme cs).map fun (port, rest) ↦ (port, rest ++ e :: tail) := by
  have hdigit := not_digit_of_end he
  simp only [readPort, takeWhile_append_stop hdigit, dropWhile_append_stop hdigit]
  cases portNumber? (cs.takeWhile Char.isDigit) with
  | none => rfl
  | some port =>
      cases hrest : cs.dropWhile Char.isDigit with
      | nil =>
          simp only [List.nil_append, List.head?_cons, Option.any_some, he, List.head?_nil,
            Option.any_none, Bool.not_true, Bool.false_eq_true, if_false]
          split <;> rfl
      | cons c rest =>
          have hc : isAuthorityEnd .special c = false :=
            hcs c ((List.dropWhile_sublist _).subset (hrest ▸ List.mem_cons_self))
          simp only [List.cons_append, List.head?_cons, Option.any_some, hc, Bool.not_false,
            if_true]
          rfl

theorem splitHost_append (inBrackets : Bool) (tail : List Char) (hcs : InAuthority cs) :
    splitHost .special inBrackets (cs ++ e :: tail) =
      ((splitHost .special inBrackets cs).1,
        (splitHost .special inBrackets cs).2 ++ e :: tail) := by
  induction cs generalizing inBrackets with
  | nil => simp [splitHost, he]
  | cons c cs ih =>
      have hin : InAuthority cs := hcs.sublist (List.sublist_cons_self c cs)
      simp only [List.cons_append, splitHost, ih _ hin]
      split <;> rfl

theorem readOptionalPort_append (tail : List Char) (hcs : InAuthority cs) :
    readOptionalPort scheme (cs ++ e :: tail) =
      (readOptionalPort scheme cs).map fun (port, rest) ↦ (port, rest ++ e :: tail) := by
  cases cs with
  | nil => simp [readOptionalPort, ne_colon_of_end he, Except.map]
  | cons c cs =>
      by_cases hc : c = ':'
      · subst hc
        exact readPort_append he tail (hcs.sublist (List.sublist_cons_self ..))
      · simp [readOptionalPort, hc, Except.map]

theorem readHostAndPort_append (tail : List Char) (hcs : InAuthority cs) :
    readHostAndPort .special scheme (cs ++ e :: tail) =
      (readHostAndPort .special scheme cs).map
        fun (host, port, rest) ↦ (host, port, rest ++ e :: tail) := by
  have hrest : InAuthority (splitHost .special false cs).2 :=
    hcs.sublist (splitHost_suffix .special false cs).sublist
  have hcolon : ((splitHost .special false cs).2 ++ e :: tail).head? = some ':' ↔
      (splitHost .special false cs).2.head? = some ':' := by
    cases (splitHost .special false cs).2 with
    | nil => simp [ne_colon_of_end he]
    | cons c rest => simp
  rw [readHostAndPort_special, readHostAndPort_special]
  simp only [splitHost_append he false tail hcs, hcolon, readOptionalPort_append he tail hrest]
  cases readHost (splitHost .special false cs).1 with
  | error fault => rfl
  | ok host =>
      by_cases hbad : host = .empty ∧ (splitHost .special false cs).2.head? = some ':'
      · simp [hbad, Except.bind, Except.map]
      · simp only [Except.bind, hbad, if_false]
        cases readOptionalPort scheme (splitHost .special false cs).2 <;> rfl

end End

theorem readPort_rest {port : Option Nat} {rest : List Char} (hcs : InAuthority cs)
    (h : readPort scheme cs = .ok (port, rest)) : rest = [] := by
  cases hdrop : cs.dropWhile Char.isDigit with
  | nil =>
      simp only [readPort, hdrop] at h
      split at h
      · contradiction
      · split at h
        · contradiction
        · split at h <;> simp_all
  | cons c more =>
      have hc : isAuthorityEnd .special c = false :=
        hcs c ((List.dropWhile_sublist _).subset (hdrop ▸ List.mem_cons_self))
      simp only [readPort, hdrop, List.head?_cons, Option.any_some, hc, Bool.not_false,
        if_true] at h
      split at h <;> contradiction

/-- Host and port take up the whole of the authority. -/
theorem readHostAndPort_rest {host : Host} {port : Option Nat} {rest : List Char}
    (hcs : InAuthority cs) (h : readHostAndPort .special scheme cs = .ok (host, port, rest)) :
    rest = [] := by
  have hport : readOptionalPort scheme (splitHost .special false cs).2 = .ok (port, rest) := by
    rw [readHostAndPort_special] at h
    cases hhost : readHost (splitHost .special false cs).1 with
    | error fault => simp [hhost, Except.bind] at h
    | ok found =>
        simp only [hhost, Except.bind] at h
        split at h
        · contradiction
        · cases hfound : readOptionalPort scheme (splitHost .special false cs).2 with
          | error fault => simp [hfound, Except.map] at h
          | ok x => simp_all [Except.map]
  rcases splitHost_rest false hcs with hnil | ⟨text, htext⟩
  · rw [hnil] at hport
    simp_all [readOptionalPort]
  · have hin : InAuthority text := by
      apply hcs.sublist
      exact ((List.suffix_cons ':' text).trans (htext ▸ splitHost_suffix ..)).sublist
    rw [htext] at hport
    exact readPort_rest hin hport

def readLogin (authority : List Char) :
    Except UrlFault (List Char × List Char × List Char) :=
  match splitCredentials authority with
  | some ([], []) => .error .emptyHost
  | _ => readCredentials .special authority

theorem readCredentials_append (hauthority : InAuthority authority)
    (he : isAuthorityEnd .special e = true) (tail : List Char) :
    readCredentials .special (authority ++ e :: tail) =
      (readLogin authority).map
        fun (username, password, rest) ↦ (username, password, rest ++ e :: tail) := by
  have htake := takeWhile_append_stop (p := (!isAuthorityEnd .special ·)) (e := e) (by simp [he])
    authority tail
  have hdrop := dropWhile_append_stop (p := (!isAuthorityEnd .special ·)) (e := e) (by simp [he])
    authority tail
  rw [hauthority.takeWhile_eq] at htake
  rw [hauthority.dropWhile_eq, List.nil_append] at hdrop
  simp only [readCredentials, readLogin, htake, hdrop, hauthority.takeWhile_eq,
    hauthority.dropWhile_eq]
  cases splitCredentials authority with
  | none => rfl
  | some found =>
      obtain ⟨info, after⟩ := found
      cases info with
      | nil => cases after <;> simp [Except.map]
      | cons c info => simp [Except.map]

theorem InAuthority.rest_of_readLogin {username password rest : List Char}
    (hauthority : InAuthority authority)
    (h : readLogin authority = .ok (username, password, rest)) : InAuthority rest := by
  simp only [readLogin, readCredentials, hauthority.takeWhile_eq, hauthority.dropWhile_eq] at h
  apply hauthority.sublist
  cases hsplit : splitCredentials authority with
  | none =>
      obtain ⟨-, -, rfl⟩ : [] = username ∧ [] = password ∧ authority = rest := by
        simpa [hsplit] using h
      exact List.Sublist.refl _
  | some found =>
      obtain ⟨info, after⟩ := found
      have hafter : after = rest := by
        cases info with
        | nil => cases after <;> simp_all
        | cons c info => simp_all
      exact hafter ▸ splitCredentials_sublist hsplit

def readOrigin (scheme authority : List Char) : Except UrlFault Url :=
  (readLogin authority).bind fun (username, password, rest) ↦
    (readHostAndPort .special scheme rest).bind fun (host, port, _) ↦
      if host = .empty && !(username.isEmpty && password.isEmpty) then .error .emptyHost
      else .ok ⟨scheme, username, password, host, port, .segments [], none, none⟩

/-- What follows the authority changes path, query and fragment only. -/
theorem readAuthority_append (hauthority : InAuthority authority)
    (he : isAuthorityEnd .special e = true) (tail : List Char) :
    readAuthority .special scheme (authority ++ e :: tail) =
      (readOrigin scheme authority).map (readTail · (e :: tail)) := by
  rw [readAuthority, readOrigin, readCredentials_append hauthority he tail]
  cases hlogin : readLogin authority with
  | error fault => rfl
  | ok login =>
      obtain ⟨username, password, rest⟩ := login
      have hrest := hauthority.rest_of_readLogin hlogin
      simp only [Except.map, Except.bind, bind, readHostAndPort_append he tail hrest]
      cases hhost : readHostAndPort .special scheme rest with
      | error fault => rfl
      | ok found =>
          obtain ⟨host, port, beyond⟩ := found
          obtain rfl := readHostAndPort_rest hrest hhost
          cases hbad : (decide (host = .empty) && !(username.isEmpty && password.isEmpty))
          · simp only [List.nil_append, hbad, Bool.false_eq_true, if_false]
            rfl
          · simp only [List.nil_append, hbad, if_true]

end TileFetch.Url
