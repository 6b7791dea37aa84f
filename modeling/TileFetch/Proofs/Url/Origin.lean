import TileFetch.Proofs.Url.Authority

/-!
# Texts of URLs that agree up to the end of the authority

If one of them is the text of a URL of a special scheme, so are the others, and the URLs have
the same scheme, credentials, host and port: `exists_origin`.
-/

namespace TileFetch.Url

variable {cs tail left right : List Char} {c d : Char}

/-! ## The characters that count -/

def isMargin (c : Char) : Bool :=
  c.toNat ≤ 0x20

theorem rdropWhile_append_stop {p : Char → Bool} (hd : p d = false) (cs tail : List Char) :
    (cs ++ d :: tail).rdropWhile p = cs ++ d :: tail.rdropWhile p := by
  simp [List.rdropWhile, dropWhile_append_stop hd]

theorem rdropWhile_append_of_neg {p : Char → Bool} (h : ∀ c ∈ cs, p c = false)
    (tail : List Char) : (cs ++ tail).rdropWhile p = cs ++ tail.rdropWhile p := by
  rcases List.eq_nil_or_concat cs with rfl | ⟨before, d, rfl⟩
  · rfl
  · simpa using rdropWhile_append_stop (h d (by simp)) before tail

def counted (cs : List Char) : List Char :=
  clean (trimEnds cs)

theorem isMargin_of_end (hd : isAuthorityEnd .special d = true) : isMargin d = false := by
  rcases isAuthorityEnd_special_iff.mp hd with rfl | rfl | rfl | rfl <;> rfl

theorem isIgnored_of_end (hd : isAuthorityEnd .special d = true) : isIgnored d = false := by
  rcases isAuthorityEnd_special_iff.mp hd with rfl | rfl | rfl | rfl <;> rfl

@[simp] theorem clean_append (cs more : List Char) : clean (cs ++ more) = clean cs ++ clean more :=
  List.filter_append ..

theorem clean_cons (h : isIgnored c = false) (cs : List Char) :
    clean (c :: cs) = c :: clean cs := by
  simp [clean, h]

theorem counted_append (hd : isAuthorityEnd .special d = true) (cs tail : List Char) :
    counted (cs ++ d :: tail) =
      clean (cs.dropWhile isMargin) ++ d :: clean (tail.rdropWhile isMargin) := by
  have hmargin := isMargin_of_end hd
  have htrim : trimEnds (cs ++ d :: tail) =
      cs.dropWhile isMargin ++ d :: tail.rdropWhile isMargin := by
    rw [← rdropWhile_append_stop hmargin, ← dropWhile_append_stop hmargin]
    rfl
  rw [counted, htrim, clean_append, clean_cons (isIgnored_of_end hd)]

/-! ## The scheme -/

def schemeOf? (cs : List Char) : Option (List Char) :=
  if cs.head?.any isLetter && cs.all isSchemeChar then some (cs.map Text.lowerAscii) else none

theorem splitScheme_append (hcs : ':' ∉ cs) (rest : List Char) :
    splitScheme (cs ++ ':' :: rest) = (schemeOf? cs).map fun scheme ↦ (scheme, rest) := by
  have hcolon : isSchemeChar ':' = false := rfl
  have hhead : (cs ++ ':' :: rest).head?.any isLetter = cs.head?.any isLetter := by
    cases cs <;> rfl
  rw [splitScheme, hhead, dropWhile_append_stop hcolon, takeWhile_append_stop hcolon, schemeOf?]
  by_cases hletter : cs.head?.any isLetter = true
  · cases hdrop : cs.dropWhile isSchemeChar with
    | nil =>
        have hall := List.dropWhile_eq_nil_iff.mp hdrop
        have hself : cs.takeWhile isSchemeChar = cs := List.takeWhile_eq_self_iff.mpr hall
        simp [hletter, hself, List.all_eq_true.mpr hall]
    | cons e more =>
        have hmem : e ∈ cs := (List.dropWhile_sublist _).subset (hdrop ▸ List.mem_cons_self)
        have hne : e ≠ ':' := fun h ↦ hcs (h ▸ hmem)
        have hall : cs.all isSchemeChar = false := by
          rw [Bool.eq_false_iff]
          intro hall
          have hnil := List.dropWhile_eq_nil_iff.mpr (List.all_eq_true.mp hall)
          exact List.cons_ne_nil _ _ (hdrop.symm.trans hnil)
        simp [hletter, hall, hne]
  · simp [hletter]

theorem scheme_readEnd (kind : SchemeKind) (u : Url) (cs : List Char) :
    (readEnd kind u cs).scheme = u.scheme := by
  unfold readEnd
  split <;> rfl

theorem scheme_readAuthority {kind : SchemeKind} {scheme : List Char} {u : Url}
    (h : readAuthority kind scheme cs = .ok u) : u.scheme = scheme := by
  simp only [readAuthority, bind, Except.bind] at h
  split at h
  · contradiction
  · split at h
    · contradiction
    · split at h
      · contradiction
      · obtain rfl := Except.ok.inj h
        exact scheme_readEnd ..

theorem scheme_readFile {u : Url} (h : readFile cs = .ok u) : u.scheme = ['f', 'i', 'l', 'e'] := by
  simp only [readFile, bind, Except.bind] at h
  cases hslashes : dropTwoSlashes? cs with
  | none =>
      simp only [hslashes] at h
      obtain rfl := Except.ok.inj h
      exact scheme_readEnd ..
  | some rest =>
      cases hhost : readFileHost rest with
      | error fault => simp [hslashes, hhost] at h
      | ok found =>
          simp only [hslashes, hhost] at h
          obtain rfl := Except.ok.inj h
          exact scheme_readEnd ..

theorem scheme_readOther {scheme : List Char} {u : Url} (h : readOther scheme cs = .ok u) :
    u.scheme = scheme := by
  unfold readOther at h
  split at h
  · exact scheme_readAuthority h
  · obtain rfl := Except.ok.inj h
    exact scheme_readEnd ..

/-- The scheme of a URL is the one that its text begins with. -/
theorem splitScheme_of_ofChars {u : Url} (h : ofChars cs = .ok u) :
    ∃ rest, splitScheme (counted cs) = some (u.scheme, rest) := by
  have hcounted : clean (trimEnds cs) = counted cs := rfl
  simp only [ofChars, hcounted] at h
  cases hsplit : splitScheme (counted cs) with
  | none => simp [hsplit] at h
  | some found =>
      obtain ⟨scheme, rest⟩ := found
      simp only [hsplit] at h
      refine ⟨rest, ?_⟩
      cases hkind : SchemeKind.of scheme with
      | special =>
          simp only [hkind] at h
          rw [scheme_readAuthority h]
      | other =>
          simp only [hkind] at h
          rw [scheme_readOther h]
      | file =>
          simp only [hkind] at h
          have hfile : scheme = ['f', 'i', 'l', 'e'] := by
            by_contra hne
            simp [SchemeKind.of, hne] at hkind
            split at hkind <;> contradiction
          rw [scheme_readFile h, hfile]

theorem ofChars_special {scheme rest : List Char}
    (h : splitScheme (counted cs) = some (scheme, rest))
    (hkind : SchemeKind.of scheme = .special) :
    ofChars cs = readAuthority .special scheme (rest.dropWhile (isSlash .special)) := by
  have hcounted : splitScheme (clean (trimEnds cs)) = some (scheme, rest) := h
  simp only [ofChars, hcounted, hkind]

/-! ## The authority -/

/-- After the first colon of the text comes more than slashes. -/
structure HasAuthority (cs left right : List Char) : Prop where
  eq_append : cs = left ++ ':' :: right
  no_colon : ':' ∉ left
  more : ∃ c ∈ right, isSlash .special c = false ∧ isIgnored c = false

def afterSlashes (cs : List Char) : List Char :=
  (((counted cs).dropWhile (· ≠ ':')).drop 1).dropWhile (isSlash .special)

def afterAuthority (cs : List Char) : List Char :=
  (afterSlashes cs).dropWhile (!isAuthorityEnd .special ·)

theorem dropWhile_append_of_exists {p : Char → Bool} (h : ∃ c ∈ cs, p c = false)
    (more : List Char) : (cs ++ more).dropWhile p = cs.dropWhile p ++ more := by
  obtain ⟨c, hc, hpc⟩ := h
  have hne : (cs.dropWhile p).isEmpty = false := by
    rw [Bool.eq_false_iff]
    intro hempty
    have hall := List.dropWhile_eq_nil_iff.mp (List.isEmpty_iff.mp hempty)
    exact Bool.false_ne_true (hpc.symm.trans (hall c hc))
  simp [List.dropWhile_append, hne]

theorem exists_first_end (cs : List Char) (h : ∃ c ∈ cs, isAuthorityEnd .special c = true) :
    ∃ authority e mid, InAuthority authority ∧ isAuthorityEnd .special e = true ∧
      cs = authority ++ e :: mid := by
  induction cs with
  | nil => simp at h
  | cons c cs ih =>
      cases hc : isAuthorityEnd .special c with
      | true => exact ⟨[], c, cs, by simp [InAuthority], hc, rfl⟩
      | false =>
          obtain ⟨authority, e, mid, hin, he, rfl⟩ := ih (by simpa [hc] using h)
          exact ⟨c :: authority, e, mid, List.forall_mem_cons.mpr ⟨hc, hin⟩, he, rfl⟩

namespace HasAuthority

variable (h : HasAuthority cs left right) (hd : isAuthorityEnd .special d = true)

include h

theorem counted_eq (hd : isAuthorityEnd .special d = true) (tail : List Char) :
    counted (cs ++ d :: tail) = clean (left.dropWhile isMargin) ++
      ':' :: (clean right ++ d :: clean (tail.rdropWhile isMargin)) := by
  have hmargin : isMargin ':' = false := rfl
  rw [counted_append hd, h.eq_append, dropWhile_append_stop hmargin, clean_append,
    clean_cons rfl]
  simp

theorem no_colon_clean : ':' ∉ clean (left.dropWhile isMargin) := by
  intro hmem
  exact h.no_colon ((List.dropWhile_sublist _).subset (List.mem_of_mem_filter hmem))

theorem splitScheme_eq (hd : isAuthorityEnd .special d = true) (tail : List Char) :
    splitScheme (counted (cs ++ d :: tail)) =
      (schemeOf? (clean (left.dropWhile isMargin))).map fun scheme ↦
        (scheme, clean right ++ d :: clean (tail.rdropWhile isMargin)) := by
  rw [h.counted_eq hd, splitScheme_append h.no_colon_clean]

/-- The text in front of the colon is the scheme. -/
theorem schemeOf_eq (hd : isAuthorityEnd .special d = true) {tail : List Char} {u : Url}
    (hok : ofChars (cs ++ d :: tail) = .ok u) :
    schemeOf? (clean (left.dropWhile isMargin)) = some u.scheme := by
  obtain ⟨rest, hrest⟩ := splitScheme_of_ofChars hok
  rw [h.splitScheme_eq hd, Option.map_eq_some_iff] at hrest
  obtain ⟨scheme, hscheme, heq⟩ := hrest
  obtain rfl : scheme = u.scheme := congrArg Prod.fst heq
  exact hscheme

theorem dropWhile_slash (more : List Char) :
    (clean right ++ more).dropWhile (isSlash .special) =
      (clean right).dropWhile (isSlash .special) ++ more := by
  obtain ⟨c, hc, hslash, hignored⟩ := h.more
  exact dropWhile_append_of_exists ⟨c, by simp [clean, hc, hignored], hslash⟩ more

theorem afterSlashes_eq (hd : isAuthorityEnd .special d = true) (tail : List Char) :
    afterSlashes (cs ++ d :: tail) =
      (clean right).dropWhile (isSlash .special) ++ d :: clean (tail.rdropWhile isMargin) := by
  have hcolon : ∀ c ∈ clean (left.dropWhile isMargin), decide (c ≠ ':') = true := by
    intro c hc
    have hne : c ≠ ':' := fun heq ↦ h.no_colon_clean (heq ▸ hc)
    simpa using hne
  rw [afterSlashes, h.counted_eq hd, List.dropWhile_append_of_pos hcolon, ← h.dropWhile_slash]
  simp

/-- The authority ends at the same place whatever follows. -/
theorem exists_authority (hd : isAuthorityEnd .special d = true) :
    ∃ authority e mid, InAuthority authority ∧ isAuthorityEnd .special e = true ∧
      (e :: mid) <:+ clean right ++ [d] ∧ ∀ tail,
        afterSlashes (cs ++ d :: tail) =
          authority ++ e :: (mid ++ clean (tail.rdropWhile isMargin)) := by
  obtain ⟨authority, e, mid, hin, he, hcut⟩ :=
    exists_first_end ((clean right).dropWhile (isSlash .special) ++ [d]) ⟨d, by simp, hd⟩
  refine ⟨authority, e, mid, hin, he, ?_, fun tail ↦ ?_⟩
  · have hsuffix : e :: mid <:+ (clean right).dropWhile (isSlash .special) ++ [d] :=
      ⟨authority, hcut.symm⟩
    exact hsuffix.trans (h.dropWhile_slash [d] ▸ List.dropWhile_suffix _)
  · rw [h.afterSlashes_eq hd, ← List.cons_append, ← List.append_assoc, ← hcut]
    simp

theorem afterAuthority_eq (hd : isAuthorityEnd .special d = true) :
    ∃ e mid, isAuthorityEnd .special e = true ∧ (e :: mid) <:+ clean right ++ [d] ∧ ∀ tail,
      afterAuthority (cs ++ d :: tail) = e :: (mid ++ clean (tail.rdropWhile isMargin)) := by
  obtain ⟨authority, e, mid, hin, he, hsuffix, htext⟩ := h.exists_authority hd
  refine ⟨e, mid, he, hsuffix, fun tail ↦ ?_⟩
  rw [afterAuthority, htext, dropWhile_append_stop (by simp [he]), hin.dropWhile_eq,
    List.nil_append]

/-- The texts of URLs of a special scheme that agree up to the end of the authority. -/
theorem exists_origin (hd : isAuthorityEnd .special d = true) {tail : List Char} {u : Url}
    (hok : ofChars (cs ++ d :: tail) = .ok u) (hkind : SchemeKind.of u.scheme = .special) :
    ∃ o, ∀ tail, ofChars (cs ++ d :: tail) =
      .ok (readTail o (afterAuthority (cs ++ d :: tail))) := by
  obtain ⟨authority, e, mid, hin, he, -, htext⟩ := h.exists_authority hd
  have hscheme := h.schemeOf_eq hd hok
  have hread : ∀ tail, ofChars (cs ++ d :: tail) = (readOrigin u.scheme authority).map
      (readTail · (afterAuthority (cs ++ d :: tail))) := by
    intro tail
    have hsplit : splitScheme (counted (cs ++ d :: tail)) =
        some (u.scheme, clean right ++ d :: clean (tail.rdropWhile isMargin)) := by
      rw [h.splitScheme_eq hd, hscheme, Option.map_some]
    have hafter : afterAuthority (cs ++ d :: tail) =
        e :: (mid ++ clean (tail.rdropWhile isMargin)) := by
      rw [afterAuthority, htext, dropWhile_append_stop (by simp [he]), hin.dropWhile_eq,
        List.nil_append]
    rw [ofChars_special hsplit hkind, h.dropWhile_slash, ← h.afterSlashes_eq hd, htext,
      readAuthority_append hin he, hafter]
  cases horigin : readOrigin u.scheme authority with
  | error fault => simp [hread, horigin, Except.map] at hok
  | ok o => exact ⟨o, fun tail ↦ by rw [hread, horigin]; rfl⟩

end HasAuthority

structure SameOrigin (u v : Url) : Prop where
  scheme : u.scheme = v.scheme
  username : u.username = v.username
  password : u.password = v.password
  host : u.host = v.host
  port : u.port = v.port

theorem sameOrigin_readTail (o : Url) (cs : List Char) : SameOrigin (readTail o cs) o := by
  unfold readTail readEnd
  split <;> exact ⟨rfl, rfl, rfl, rfl, rfl⟩

theorem SameOrigin.trans {u v w : Url} (h : SameOrigin u v) (h' : SameOrigin v w) :
    SameOrigin u w :=
  ⟨h.1.trans h'.1, h.2.trans h'.2, h.3.trans h'.3, h.4.trans h'.4, h.5.trans h'.5⟩

theorem SameOrigin.symm {u v : Url} (h : SameOrigin u v) : SameOrigin v u :=
  ⟨h.1.symm, h.2.symm, h.3.symm, h.4.symm, h.5.symm⟩

end TileFetch.Url
