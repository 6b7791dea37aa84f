import TileFetch.Proofs.Url.Origin

/-!
# The segments of a path as they are written

Dot segments apart, each segment that is written in the path of a URL is a segment of the URL, in
percent form: `readTail_of_no_dots`.  One written segment can be exchanged for another, and
all that is left and right of it stays: `exists_around`.
-/

namespace TileFetch.Url

variable {p : Char → Bool} {cs rest segment lead ending : List Char} {c : Char}

/-! ## Splitting a text -/

theorem splitOn_cons_stop (hc : p c = true) (cs : List Char) :
    Text.splitOn p (c :: cs) = [] :: Text.splitOn p cs := by
  simp [Text.splitOn, hc]

/-- A character between two stops belongs to the piece that follows it. -/
theorem exists_splitOn_cons (hc : p c = false) (cs : List Char) :
    ∃ piece pieces, Text.splitOn p cs = piece :: pieces ∧
      Text.splitOn p (c :: cs) = (c :: piece) :: pieces := by
  have hne : Text.splitOn p cs ≠ [] := by
    cases cs with
    | nil => simp [Text.splitOn]
    | cons d cs =>
        simp only [Text.splitOn, List.foldr_cons]
        split
        · simp
        · split <;> simp
  obtain ⟨piece, pieces, hpieces⟩ := List.exists_cons_of_ne_nil hne
  refine ⟨piece, pieces, hpieces, ?_⟩
  simp only [Text.splitOn, List.foldr_cons] at hpieces ⊢
  rw [hpieces, hc]
  rfl

theorem splitOn_append_cons (hc : p c = true) (cs rest : List Char) :
    Text.splitOn p (cs ++ c :: rest) = Text.splitOn p cs ++ Text.splitOn p rest := by
  induction cs with
  | nil => exact splitOn_cons_stop hc rest
  | cons d cs ih =>
      cases hd : p d with
      | true =>
          rw [List.cons_append, splitOn_cons_stop hd, splitOn_cons_stop hd, ih]
          rfl
      | false =>
          obtain ⟨piece, pieces, hpieces, hcons⟩ := exists_splitOn_cons hd cs
          obtain ⟨piece', pieces', hpieces', hcons'⟩ := exists_splitOn_cons hd (cs ++ c :: rest)
          obtain ⟨rfl, rfl⟩ : piece' = piece ∧ pieces' = pieces ++ Text.splitOn p rest := by
            rw [ih, hpieces, List.cons_append] at hpieces'
            exact ⟨(List.cons.inj hpieces').1.symm, (List.cons.inj hpieces').2.symm⟩
          rw [List.cons_append, hcons, hcons', List.cons_append]

theorem splitOn_eq_singleton (h : ∀ c ∈ cs, p c = false) : Text.splitOn p cs = [cs] := by
  induction cs with
  | nil => rfl
  | cons c cs ih =>
      obtain ⟨piece, pieces, hpieces, hcons⟩ := exists_splitOn_cons (h c List.mem_cons_self) cs
      obtain ⟨rfl, rfl⟩ : cs = piece ∧ [] = pieces := by
        simpa [ih fun d hd ↦ h d (List.mem_cons_of_mem c hd)] using hpieces
      exact hcons

theorem sublist_of_mem_splitOn (h : segment ∈ Text.splitOn p cs) : segment.Sublist cs := by
  induction cs generalizing segment with
  | nil =>
      obtain rfl : segment = [] := by simpa [Text.splitOn] using h
      exact List.Sublist.refl []
  | cons c cs ih =>
      cases hc : p c with
      | true =>
          rw [splitOn_cons_stop hc] at h
          rcases List.mem_cons.mp h with rfl | h
          · exact List.nil_sublist _
          · exact (ih h).cons c
      | false =>
          obtain ⟨piece, pieces, hpieces, hcons⟩ := exists_splitOn_cons hc cs
          rw [hcons] at h
          rcases List.mem_cons.mp h with rfl | h
          · exact (ih (hpieces ▸ List.mem_cons_self)).cons_cons c
          · exact (ih (hpieces ▸ List.mem_cons_of_mem piece h)).cons c

/-! ## Segments -/

/-- The segment stands for no segment, or for one less. -/
def isDotSegment (segment : List Char) : Bool :=
  isSingleDot segment || isDoubleDot segment

def segmentsAfter (cs : List Char) : List (List Char) :=
  Text.splitOn (isSlash .special) (dropSlash .special (cs.takeWhile (!isPathEnd ·)))

def writtenSegments (cs : List Char) : List (List Char) :=
  segmentsAfter (afterAuthority cs)

/-- Only capital letters have another small form, and that is a letter. -/
theorem lowerAscii_eq_iff {d : Char} (hd : isLetter d = false) :
    Text.lowerAscii c = d ↔ c = d := by
  have hsmall : ∀ n : Fin 26, isLetter (Char.ofNat (65 + n + 32)) = true := by decide
  unfold Text.lowerAscii
  split
  · rename_i hrange
    have hcapital : isLetter c = true := by simp [isLetter, hrange]
    have hletter : isLetter (Char.ofNat (c.toNat + 32)) = true := by
      simp only [Bool.and_eq_true, decide_eq_true_eq, Char.le_def, UInt32.le_iff_toNat_le]
        at hrange
      obtain ⟨hlow, hhigh⟩ : 65 ≤ c.toNat ∧ c.toNat ≤ 90 := hrange
      have hsum : 65 + (c.toNat - 65) + 32 = c.toNat + 32 := by omega
      exact hsum ▸ hsmall ⟨c.toNat - 65, by omega⟩
    constructor <;> rintro rfl <;> simp_all
  · rfl

theorem clean_eq_self (h : ∀ c ∈ cs, isIgnored c = false) : clean cs = cs :=
  List.filter_eq_self.mpr fun c hc ↦ by simp [h c hc]

/-- The mark of a drive letter has to be followed by a character that does not count. -/
theorem takeDrive_eq (done : List (List Char)) (h : ∀ c ∈ segment, isIgnored c = false) :
    takeDrive done segment = (done, segment) := by
  have hnone : splitDrive? segment = none := by
    unfold splitDrive?
    split
    · rename_i letter mark rest hletter hmark
      have hmem : mark ∈ segment :=
        (List.dropWhile_sublist _).subset (List.mem_of_mem_drop (hmark ▸ List.mem_cons_self))
      simp [h mark hmem]
    · rfl
  simp [takeDrive, hnone, clean_eq_self h]

theorem resolveSegments_eq {segments : List (List Char)} (done : List (List Char))
    (hcounts : ∀ segment ∈ segments, ∀ c ∈ segment, isIgnored c = false)
    (hdots : ∀ segment ∈ segments, isDotSegment segment = false) :
    resolveSegments done segments = done ++ segments.map (encode pathSet) := by
  induction segments generalizing done with
  | nil => simp [resolveSegments]
  | cons segment segments ih =>
      obtain ⟨hsingle, hdouble⟩ : isSingleDot segment = false ∧ isDoubleDot segment = false := by
        simpa [isDotSegment] using hdots segment List.mem_cons_self
      rw [resolveSegments, takeDrive_eq done (hcounts segment List.mem_cons_self)]
      simp only [hsingle, hdouble, Bool.false_eq_true, if_false]
      rw [ih _ (fun s hs ↦ hcounts s (List.mem_cons_of_mem _ hs))
        fun s hs ↦ hdots s (List.mem_cons_of_mem _ hs)]
      simp

theorem dropSlash_sublist (kind : SchemeKind) (cs : List Char) :
    (dropSlash kind cs).Sublist cs := by
  cases cs with
  | nil => exact List.Sublist.refl []
  | cons c cs =>
      simp only [dropSlash]
      split
      · exact List.sublist_cons_self c cs
      · exact List.Sublist.refl _

theorem segmentsAfter_sublist (h : segment ∈ segmentsAfter cs) : segment.Sublist cs :=
  (sublist_of_mem_splitOn h).trans ((dropSlash_sublist _ _).trans (List.takeWhile_sublist _))

theorem readTail_of_no_dots (u : Url) (hcounts : ∀ c ∈ cs, isIgnored c = false)
    (hdots : ∀ segment ∈ segmentsAfter cs, isDotSegment segment = false) :
    readTail u cs =
      readEnd .special { u with path := .segments ((segmentsAfter cs).map (encode pathSet)) }
        (cs.dropWhile (!isPathEnd ·)) := by
  have hpath : readPath .special (cs.takeWhile (!isPathEnd ·)) =
      .segments ((segmentsAfter cs).map (encode pathSet)) := by
    simp only [readPath, reduceCtorEq, decide_false, Bool.false_and, Bool.false_eq_true, if_false]
    congr 1
    exact resolveSegments_eq [] (fun s hs c hc ↦ hcounts c ((segmentsAfter_sublist hs).subset hc))
      hdots
  rw [readTail, hpath]

/-! ## One segment among the others -/

/-- The text can stand between two slashes of a path, and all of it counts. -/
def IsSegment (segment : List Char) : Prop :=
  ∀ c ∈ segment, isSlash .special c = false ∧ isPathEnd c = false ∧ isMargin c = false

theorem isIgnored_of_not_isMargin (h : isMargin c = false) : isIgnored c = false := by
  rw [Bool.eq_false_iff]
  intro hignored
  obtain rfl | rfl | rfl : c = '\t' ∨ c = '\n' ∨ c = '\r' := by
    simpa [isIgnored, or_assoc] using hignored
  all_goals exact absurd h (by decide)

theorem exists_behind (hending : ∀ c, ending.head? = some c → p c = true) :
    ∃ back, ∀ segment, (∀ c ∈ segment, p c = false) →
      Text.splitOn p (segment ++ ending) = segment :: back := by
  cases ending with
  | nil =>
      refine ⟨[], fun segment h ↦ ?_⟩
      rw [List.append_nil, splitOn_eq_singleton h]
  | cons c rest =>
      refine ⟨Text.splitOn p rest, fun segment h ↦ ?_⟩
      rw [splitOn_append_cons (hending c rfl), splitOn_eq_singleton h]
      rfl

theorem IsSegment.not_isPathEnd (hlead : ∀ c ∈ lead ++ ['/'], isPathEnd c = false)
    (hsegment : IsSegment segment) : ∀ c ∈ lead ++ ['/'] ++ segment, (!isPathEnd c) = true := by
  intro c hc
  rcases List.mem_append.mp hc with hc | hc
  · simp [hlead c hc]
  · simp [(hsegment c hc).2.1]

/-- The path ends behind the segment. -/
theorem dropWhile_around (hlead : ∀ c ∈ lead ++ ['/'], isPathEnd c = false)
    (hsegment : IsSegment segment) (ending : List Char) :
    (lead ++ '/' :: (segment ++ ending)).dropWhile (!isPathEnd ·) =
      ending.dropWhile (!isPathEnd ·) := by
  have hkeep := hsegment.not_isPathEnd hlead
  rw [List.append_cons, ← List.append_assoc, List.dropWhile_append_of_pos hkeep]

/-- The segments in front of a segment and those behind it do not depend on it. -/
theorem exists_around (hlead : ∀ c ∈ lead ++ ['/'], isPathEnd c = false)
    (hslash : ∀ c, (lead ++ ['/']).head? = some c → isSlash .special c = true)
    (hending : ∀ c, ending.head? = some c → isSlash .special c = true ∨ isPathEnd c = true) :
    ∃ front back, ∀ segment, IsSegment segment →
      segmentsAfter (lead ++ '/' :: (segment ++ ending)) = front ++ segment :: back := by
  have hhead : ∀ c, (ending.takeWhile (!isPathEnd ·)).head? = some c →
      isSlash .special c = true := by
    intro c hc
    cases ending with
    | nil => simp at hc
    | cons d rest =>
        cases hd : isPathEnd d with
        | true => simp [hd] at hc
        | false =>
            obtain rfl : d = c := by simpa [hd] using hc
            exact (hending d rfl).resolve_right (by simp [hd])
  obtain ⟨back, hback⟩ := exists_behind hhead
  have htake : ∀ segment, IsSegment segment →
      (lead ++ '/' :: (segment ++ ending)).takeWhile (!isPathEnd ·) =
        lead ++ '/' :: (segment ++ ending.takeWhile (!isPathEnd ·)) := by
    intro segment hsegment
    have hkeep := hsegment.not_isPathEnd hlead
    rw [List.append_cons, ← List.append_assoc, List.takeWhile_append_of_pos hkeep]
    simp
  cases lead with
  | nil =>
      refine ⟨[], back, fun segment hsegment ↦ ?_⟩
      rw [segmentsAfter, htake segment hsegment]
      exact hback segment fun c hc ↦ (hsegment c hc).1
  | cons e mid =>
      refine ⟨Text.splitOn (isSlash .special) mid, back, fun segment hsegment ↦ ?_⟩
      have hdrop : ∀ cs, dropSlash .special (e :: cs) = cs := fun cs ↦ by
        simp [dropSlash, hslash e rfl]
      rw [segmentsAfter, htake segment hsegment, List.cons_append, hdrop,
        splitOn_append_cons rfl, hback segment fun c hc ↦ (hsegment c hc).1]

/-- What follows the path does not depend on it. -/
theorem readEnd_segments (u : Url) (segments : List (List Char)) (cs : List Char) :
    readEnd .special { u with path := .segments segments } cs =
      { readEnd .special u cs with path := .segments segments } := by
  unfold readEnd
  split <;> rfl

theorem readTail_around (u : Url) (hlead : ∀ c ∈ lead ++ ['/'], isPathEnd c = false)
    (hsegment : IsSegment segment) {front back : List (List Char)}
    (hcounts : ∀ c ∈ lead ++ '/' :: (segment ++ ending), isIgnored c = false)
    (hsegments : segmentsAfter (lead ++ '/' :: (segment ++ ending)) = front ++ segment :: back)
    (hdots : ∀ s ∈ front ++ segment :: back, isDotSegment s = false) :
    readTail u (lead ++ '/' :: (segment ++ ending)) =
      { readEnd .special u (ending.dropWhile (!isPathEnd ·)) with
        path := .segments (front.map (encode pathSet) ++
          encode pathSet segment :: back.map (encode pathSet)) } := by
  rw [readTail_of_no_dots u hcounts (hsegments ▸ hdots), hsegments, readEnd_segments,
    dropWhile_around hlead hsegment, List.map_append, List.map_cons]

namespace HasAuthority

variable {left right : List Char}

theorem exists_lead (h : HasAuthority cs left right) (hpath : ∀ c ∈ right, isPathEnd c = false) :
    ∃ lead, (∀ c ∈ lead ++ ['/'], isPathEnd c = false) ∧
      (∀ c, (lead ++ ['/']).head? = some c → isSlash .special c = true) ∧
      ∀ tail, afterAuthority (cs ++ '/' :: tail) =
        lead ++ '/' :: clean (tail.rdropWhile isMargin) := by
  obtain ⟨e, mid, he, hsuffix, hafter⟩ := h.afterAuthority_eq (d := '/') rfl
  rcases List.suffix_concat_iff.mp hsuffix with hnil | ⟨lead, hlead, -⟩
  · contradiction
  · have hpathEnd : ∀ c ∈ lead ++ ['/'], isPathEnd c = false := by
      intro c hc
      rcases List.mem_append.mp (hsuffix.subset (hlead ▸ hc)) with hc | hc
      · exact hpath c (List.mem_of_mem_filter hc)
      · obtain rfl := List.mem_singleton.mp hc
        rfl
    refine ⟨lead, hpathEnd, fun c hc ↦ ?_, fun tail ↦ ?_⟩
    · obtain rfl : e = c := by simpa [← hlead] using hc
      have hend := hpathEnd e (hlead ▸ List.mem_cons_self)
      rcases isAuthorityEnd_special_iff.mp he with rfl | rfl | rfl | rfl
      · rfl
      · exact absurd hend (by decide)
      · exact absurd hend (by decide)
      · rfl
    · rw [hafter, ← List.cons_append, hlead]
      simp

theorem isIgnored_afterAuthority (h : c ∈ afterAuthority cs) : isIgnored c = false := by
  have hsub : (afterAuthority cs).Sublist (counted cs) :=
    (List.dropWhile_sublist _).trans <| (List.dropWhile_sublist _).trans <|
      (List.drop_sublist _ _).trans (List.dropWhile_sublist _)
  simpa using List.of_mem_filter (hsub.subset h)

theorem head_of_ending (hending : ∀ c, ending.head? = some c → isAuthorityEnd .special c = true) :
    ∀ c, (clean (ending.rdropWhile isMargin)).head? = some c →
      isSlash .special c = true ∨ isPathEnd c = true := by
  intro c hc
  cases ending with
  | nil => simp [clean] at hc
  | cons d rest =>
      have hd := hending d rfl
      have hstop := rdropWhile_append_stop (isMargin_of_end hd) [] rest
      rw [List.nil_append, List.nil_append] at hstop
      rw [hstop, clean_cons (isIgnored_of_end hd)] at hc
      obtain rfl : d = c := by simpa using hc
      rcases isAuthorityEnd_special_iff.mp hd with rfl | rfl | rfl | rfl
      · exact .inl rfl
      · exact .inr rfl
      · exact .inr rfl
      · exact .inl rfl

/-- In a URL of a special scheme a segment can be exchanged, dot segments apart. -/
theorem exists_exchange (h : HasAuthority cs left right)
    (hpath : ∀ c ∈ right, isPathEnd c = false) (hsegment : IsSegment segment)
    (hending : ∀ c, ending.head? = some c → isAuthorityEnd .special c = true) {v : Url}
    (hv : ofChars (cs ++ '/' :: (segment ++ ending)) = .ok v)
    (hkind : SchemeKind.of v.scheme = .special)
    (hdots : ∀ s ∈ writtenSegments (cs ++ '/' :: (segment ++ ending)), isDotSegment s = false) :
    ∃ front back, v.path = .segments (front ++ encode pathSet segment :: back) ∧
      ∀ other, IsSegment other → isDotSegment other = false →
        ofChars (cs ++ '/' :: (other ++ ending)) =
          .ok { v with path := .segments (front ++ encode pathSet other :: back) } := by
  obtain ⟨o, ho⟩ := h.exists_origin rfl hv hkind
  obtain ⟨lead, hlead, hslash, hafter⟩ := h.exists_lead hpath
  have hafter : ∀ s, IsSegment s → afterAuthority (cs ++ '/' :: (s ++ ending)) =
      lead ++ '/' :: (s ++ clean (ending.rdropWhile isMargin)) := by
    intro s hs
    rw [hafter, rdropWhile_append_of_neg fun c hc ↦ (hs c hc).2.2, clean_append,
      clean_eq_self fun c hc ↦ isIgnored_of_not_isMargin (hs c hc).2.2]
  obtain ⟨front, back, haround⟩ := exists_around hlead hslash (head_of_ending hending)
  -- One reading for the segment and for all others in its place.
  have hread : ∀ s, IsSegment s → (∀ t ∈ front ++ s :: back, isDotSegment t = false) →
      ofChars (cs ++ '/' :: (s ++ ending)) = .ok
        { readEnd .special o
            ((clean (ending.rdropWhile isMargin)).dropWhile (!isPathEnd ·)) with
          path := .segments (front.map (encode pathSet) ++
            encode pathSet s :: back.map (encode pathSet)) } := by
    intro s hs hdots
    rw [ho, hafter s hs, readTail_around o hlead hs ?_ (haround s hs) hdots]
    intro c hc
    exact isIgnored_afterAuthority (hafter s hs ▸ hc)
  rw [writtenSegments, hafter segment hsegment, haround segment hsegment] at hdots
  obtain rfl := Except.ok.inj ((hread segment hsegment hdots).symm.trans hv)
  refine ⟨front.map (encode pathSet), back.map (encode pathSet), rfl, fun other hother hdot ↦ ?_⟩
  apply hread other hother
  simp only [List.mem_append, List.mem_cons] at hdots ⊢
  rintro s (hs | rfl | hs)
  · exact hdots s (.inl hs)
  · exact hdot
  · exact hdots s (.inr (.inr hs))

end HasAuthority

end TileFetch.Url
