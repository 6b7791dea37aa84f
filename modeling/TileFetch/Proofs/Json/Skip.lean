import TileFetch.Proofs.Json.Numbers
import TileFetch.Proofs.Json.Texts

/-!
# Passing over a value

A value is passed over with a stack of the enclosures that it stands in, and not by recursion.
`Closes` says what is left to pass over for such a stack; with it one step of the machine is one
step of the grammar.  What is passed over is a value, whole and nothing more: `reads_skip` and
`exists_of_reads_skip`.
-/

namespace TileFetch.Json

open Reader

variable {c : Cursor} {first : Bool} {lead blanks bytes after rest : List UInt8}
  {frame : Enclosure} {enclosures : List Enclosure} {fuel : Nat}

/-! ## What is left of an enclosure -/

namespace Enclosure

/-- What names a value in an enclosure: nothing, or a key and its colon. -/
def IsLabel : Enclosure → List UInt8 → Prop
  | list, bytes => bytes = []
  | object, bytes =>
      ∃ key colon, IsText key ∧ IsMark 0x3A colon ∧ bytes = 0x22 :: (key ++ 0x22 :: colon)

def Closes (first : Bool) : Enclosure → List UInt8 → List UInt8 → Prop
  | list, bytes, after => ∃ trees items, IsItems first trees items ∧ bytes = items ++ 0x5D :: after
  | object, bytes, after =>
      ∃ trees members, IsMembers first trees members ∧ bytes = members ++ 0x7D :: after

theorem closes_iff : frame.Closes first bytes after ↔
    (∃ blanks, Blank blanks ∧ bytes = blanks ++ frame.closing :: after) ∨
      ∃ lead label tree value more, Leads first lead ∧ frame.IsLabel label ∧ IsValue tree value ∧
        frame.Closes false more after ∧ bytes = lead ++ (label ++ (value ++ more)) := by
  cases frame with
  | list =>
      constructor
      · rintro ⟨trees, items, hitems, rfl⟩
        cases hitems with
        | nil hblank => exact .inl ⟨_, hblank, rfl⟩
        | cons hlead hvalue hmore =>
            exact .inr ⟨_, [], _, _, _, hlead, rfl, hvalue, ⟨_, _, hmore, rfl⟩, by simp⟩
      · rintro (⟨blanks, hblank, rfl⟩ |
          ⟨lead, _, tree, value, _, hlead, rfl, hvalue, ⟨_, _, hmore, rfl⟩, rfl⟩)
        · exact ⟨_, _, .nil hblank, rfl⟩
        · exact ⟨_, _, .cons hlead hvalue hmore, by simp⟩
  | object =>
      constructor
      · rintro ⟨trees, members, hmembers, rfl⟩
        cases hmembers with
        | nil hblank => exact .inl ⟨_, hblank, rfl⟩
        | cons hlead hkey hcolon hvalue hmore =>
            exact .inr ⟨_, _, _, _, _, hlead, ⟨_, _, hkey, hcolon, rfl⟩, hvalue,
              ⟨_, _, hmore, rfl⟩, by simp⟩
      · rintro (⟨blanks, hblank, rfl⟩ | ⟨lead, _, tree, value, _, hlead,
          ⟨_, _, hkey, hcolon, rfl⟩, hvalue, ⟨_, _, hmore, rfl⟩, rfl⟩)
        · exact ⟨_, _, .nil hblank, rfl⟩
        · exact ⟨_, _, .cons hlead hkey hcolon hvalue hmore, by simp⟩

theorem Closes.stops (h : frame.Closes false bytes after) : Stops isNumberByte bytes := by
  cases frame with
  | list =>
      obtain ⟨trees, items, hitems, rfl⟩ := h
      exact hitems.stops after
  | object =>
      obtain ⟨trees, members, hmembers, rfl⟩ := h
      exact hmembers.stops after

end Enclosure

/-- The bytes go on to the end of all the enclosures, innermost first, and `rest` follows. -/
def Closes : Bool → List Enclosure → List UInt8 → List UInt8 → Prop
  | _, [], bytes, rest => bytes = rest
  | first, frame :: outer, bytes, rest =>
      ∃ after, frame.Closes first bytes after ∧ Closes false outer after rest

@[simp] theorem closes_nil : Closes first [] bytes rest ↔ bytes = rest :=
  Iff.rfl

/-! ## Keys -/

theorem Blank.append (h : Blank bytes) (h' : Blank after) : Blank (bytes ++ after) := by
  intro b hb
  exact (List.mem_append.mp hb).elim (h b) (h' b)

theorem IsMark.append_blank {mark : UInt8} (h : IsMark mark bytes) (hblank : Blank blanks) :
    IsMark mark (bytes ++ blanks) := by
  obtain ⟨before, after, hbefore, hafter, rfl⟩ := h
  exact ⟨before, after ++ blanks, hbefore, hafter.append hblank, by simp⟩

theorem Leads.append_blank (h : Leads first lead) (hblank : Blank blanks) :
    Leads first (lead ++ blanks) := by
  cases first with
  | true => exact Blank.append h hblank
  | false => exact IsMark.append_blank h hblank

theorem exists_of_reads_skipKey (h : skipKey.Reads c () rest) :
    ∃ blanks key before, Blank blanks ∧ IsText key ∧ Blank before ∧
      c.rest = blanks ++ 0x22 :: (key ++ 0x22 :: (before ++ 0x3A :: rest)) := by
  obtain ⟨blanks, mid, b, tail, hblanks, hc, -, hmid, h⟩ := h.of_token_cons (by simp)
  dsimp only at h
  split_ifs at h with hquote
  · rw [reads_advance_bind, reads_ahead_bind] at h
    obtain ⟨_, after, hkey, h⟩ := h.of_bind
    obtain ⟨key, htext, htail⟩ := reads_skipText_iff.mp hkey
    obtain ⟨before, hbefore, hafter⟩ := reads_readColon_iff.mp h
    refine ⟨blanks, key, before, hblanks, htext, hbefore, ?_⟩
    rw [Cursor.rest_advance, hmid, List.tail_cons] at htail
    rw [hc, hmid, hquote, htail, hafter]
  · simp at h

theorem reads_skipKey {key before : List UInt8} (hblanks : Blank blanks) (hkey : IsText key)
    (hbefore : Blank before)
    (hc : c.rest = blanks ++ 0x22 :: (key ++ 0x22 :: (before ++ 0x3A :: rest))) :
    skipKey.Reads c () rest := by
  refine Reads.token hblanks (stops_cons.mpr rfl) hc fun mid hmid ↦ ?_
  rw [List.head?_cons]
  dsimp only
  rw [if_pos rfl, reads_advance_bind, reads_ahead_bind]
  have hafter : mid.advance.rest = key ++ 0x22 :: (before ++ 0x3A :: rest) := by simp [hmid]
  refine Reads.bind (reads_skipText_iff.mpr ⟨key, hkey, hafter⟩) fun end_ hend ↦ ?_
  exact reads_readColon_iff.mpr ⟨before, hbefore, hend⟩

/-- What is passed over in front of a value completes its lead and is its label. -/
theorem exists_label_of_reads {r : Reader Unit} (hlead : Leads first lead)
    (h : (if frame = .object then skipKey >>= fun _ ↦ r else r).Reads c () rest) :
    ∃ mid, r.Reads mid () rest ∧ ∀ blanks bytes, Blank blanks → mid.rest = blanks ++ bytes →
      ∃ lead' label, Leads first lead' ∧ frame.IsLabel label ∧
        lead ++ c.rest = lead' ++ (label ++ bytes) := by
  cases frame with
  | list =>
      refine ⟨c, h, fun blanks bytes hblanks hc ↦ ?_⟩
      exact ⟨lead ++ blanks, [], hlead.append_blank hblanks, rfl, by simp [hc]⟩
  | object =>
      obtain ⟨_, mid, hskip, h⟩ := Reads.of_bind h
      obtain ⟨gap, key, before, hgap, hkey, hbefore, hc⟩ := exists_of_reads_skipKey hskip
      refine ⟨mid, h, fun blanks bytes hblanks hmid ↦ ?_⟩
      refine ⟨lead ++ gap, _, hlead.append_blank hgap,
        ⟨key, before ++ 0x3A :: blanks, hkey, ⟨before, blanks, hbefore, hblanks, rfl⟩, rfl⟩, ?_⟩
      simp [hc, hmid]

theorem reads_of_label {r : Reader Unit} {label : List UInt8} (hblanks : Blank blanks)
    (hlabel : frame.IsLabel label) (hc : c.rest = blanks ++ (label ++ bytes))
    (hr : ∀ (mid : Cursor) (gap : List UInt8), Blank gap → mid.rest = gap ++ bytes →
      mid.rest.length ≤ c.rest.length → r.Reads mid () rest) :
    (if frame = .object then skipKey >>= fun _ ↦ r else r).Reads c () rest := by
  cases frame with
  | list =>
      obtain rfl : label = [] := hlabel
      exact hr c blanks hblanks hc le_rfl
  | object =>
      obtain ⟨key, _, hkey, ⟨before, gap, hbefore, hgap, rfl⟩, rfl⟩ := hlabel
      rw [if_pos rfl]
      have hc' : c.rest =
          blanks ++ 0x22 :: (key ++ 0x22 :: (before ++ 0x3A :: (gap ++ bytes))) := by
        simp [hc]
      refine (reads_skipKey hblanks hkey hbefore hc').bind fun mid hmid ↦ hr mid gap hgap hmid ?_
      simp only [hmid, hc', List.length_append, List.length_cons]
      omega

/-! ## The machine -/

theorem exists_of_reads_skipValue_succ
    (ih : ∀ {c : Cursor} {first : Bool} {enclosures : List Enclosure},
      (skipAfterItem fuel (!first) enclosures).Reads c () rest →
        Closes first enclosures c.rest rest)
    (h : (skipValue (fuel + 1) enclosures).Reads c () rest) :
    ∃ blanks tree value after, Blank blanks ∧ IsValue tree value ∧
      c.rest = blanks ++ (value ++ after) ∧ Closes false enclosures after rest := by
  obtain ⟨blanks, mid, b, tail, hblanks, hc, -, hmid, h⟩ := Reads.of_token_cons h (by simp)
  suffices ∃ tree value after, IsValue tree value ∧ mid.rest = value ++ after ∧
      Closes false enclosures after rest by
    obtain ⟨tree, value, after, hvalue, hmid, hafter⟩ := this
    exact ⟨blanks, tree, value, after, hblanks, hvalue, by rw [hc, hmid], hafter⟩
  rw [hmid]
  dsimp only at h
  have hadvance : mid.advance.rest = tail := by simp [hmid]
  split_ifs at h with hnull hyes hno hminus hdigit hquote hlist hobject
  · obtain ⟨end_, hword, h⟩ := h.of_word
    rw [hmid, List.tail_cons] at hword
    exact ⟨_, _, _, .null, by rw [hnull, hword]; rfl, ih h⟩
  · obtain ⟨end_, hword, h⟩ := h.of_word
    rw [hmid, List.tail_cons] at hword
    exact ⟨_, _, _, .yes, by rw [hyes, hword]; rfl, ih h⟩
  · obtain ⟨end_, hword, h⟩ := h.of_word
    rw [hmid, List.tail_cons] at hword
    exact ⟨_, _, _, .no, by rw [hno, hword]; rfl, ih h⟩
  · rw [reads_advance_bind] at h
    obtain ⟨_, end_, hnumber, h⟩ := h.of_bind
    obtain ⟨magnitude, hmagnitude, htail⟩ := exists_of_reads_skipNumber hnumber
    rw [hadvance] at htail
    exact ⟨_, _, _, .number (.inr ⟨magnitude, hmagnitude, rfl⟩), by rw [hminus, htail]; rfl,
      ih h⟩
  · obtain ⟨_, end_, hnumber, h⟩ := h.of_bind
    obtain ⟨magnitude, hmagnitude, htail⟩ := exists_of_reads_skipNumber hnumber
    rw [hmid] at htail
    exact ⟨_, _, _, .number (.inl hmagnitude), htail, ih h⟩
  · rw [reads_advance_bind, reads_ahead_bind] at h
    obtain ⟨_, end_, htext, h⟩ := h.of_bind
    obtain ⟨text, htext, htail⟩ := reads_skipText_iff.mp htext
    rw [hadvance] at htail
    exact ⟨_, _, _, .text htext, by rw [hquote, htail]; simp, ih h⟩
  · have hclose : Closes true (.list :: enclosures) mid.advance.rest rest :=
      ih (reads_advance_bind.mp h)
    obtain ⟨after, ⟨trees, items, hitems, htail⟩, hafter⟩ := hclose
    rw [hadvance] at htail
    exact ⟨_, _, after, .list hitems, by rw [hlist, htail]; simp, hafter⟩
  · have hclose : Closes true (.object :: enclosures) mid.advance.rest rest :=
      ih (reads_advance_bind.mp h)
    obtain ⟨after, ⟨trees, members, hmembers, htail⟩, hafter⟩ := hclose
    rw [hadvance] at htail
    exact ⟨_, _, after, .object hmembers, by rw [hobject, htail]; simp, hafter⟩
  · simp at h

theorem closes_of_reads_skipAfterItem_succ
    (ih : ∀ {c : Cursor} {enclosures : List Enclosure},
      (skipValue fuel enclosures).Reads c () rest → ∃ blanks tree value after, Blank blanks ∧
        IsValue tree value ∧ c.rest = blanks ++ (value ++ after) ∧
          Closes false enclosures after rest)
    (ih' : ∀ {c : Cursor} {enclosures : List Enclosure},
      (skipAfterItem fuel true enclosures).Reads c () rest → Closes false enclosures c.rest rest)
    (h : (skipAfterItem (fuel + 1) (!first) (frame :: enclosures)).Reads c () rest) :
    Closes first (frame :: enclosures) c.rest rest := by
  -- A value that is passed over after its head is an item of the enclosure.
  have hitem : ∀ {lead : List UInt8} {mid : Cursor}, Leads first lead →
      (if frame = .object then skipKey >>= fun _ ↦ skipValue fuel (frame :: enclosures)
        else skipValue fuel (frame :: enclosures)).Reads mid () rest →
      Closes first (frame :: enclosures) (lead ++ mid.rest) rest := by
    intro lead mid hlead h
    obtain ⟨end_, h, hlabel⟩ := exists_label_of_reads hlead h
    obtain ⟨blanks, tree, value, more, hblanks, hvalue, hend, after, hmore, hafter⟩ := ih h
    obtain ⟨lead', label, hlead', hlabel, heq⟩ := hlabel blanks _ hblanks hend
    refine ⟨after, Enclosure.closes_iff.mpr (.inr ?_), hafter⟩
    exact ⟨lead', label, tree, value, more, hlead', hlabel, hvalue, hmore, heq⟩
  rw [skipAfterItem] at h
  obtain ⟨blanks, mid, b, tail, hblanks, hc, -, hmid, h⟩ := Reads.of_token_cons h (by simp)
  rw [hc, hmid]
  dsimp only at h
  have hadvance : mid.advance.rest = tail := by simp [hmid]
  by_cases hcomma : b = 0x2C ∧ first = false
  · rw [if_pos (by simpa using hcomma), reads_advance_bind] at h
    have hlead : Leads first (blanks ++ [0x2C]) := by
      rw [hcomma.2]
      exact ⟨blanks, [], hblanks, blank_nil, rfl⟩
    simpa [hmid, hcomma.1] using hitem hlead h
  rw [if_neg (by simpa using hcomma)] at h
  by_cases hclosing : b = frame.closing
  · rw [if_pos hclosing, reads_advance_bind] at h
    have hafter := ih' h
    rw [hadvance] at hafter
    exact ⟨tail, Enclosure.closes_iff.mpr (.inl ⟨blanks, hblanks, by rw [hclosing]⟩), hafter⟩
  rw [if_neg hclosing] at h
  cases first with
  | true => simpa [hmid] using hitem hblanks h
  | false => simp at h

theorem exists_of_reads_machine (fuel : Nat) :
    (∀ {c : Cursor} {enclosures : List Enclosure},
      (skipValue fuel enclosures).Reads c () rest → ∃ blanks tree value after, Blank blanks ∧
        IsValue tree value ∧ c.rest = blanks ++ (value ++ after) ∧
          Closes false enclosures after rest) ∧
    ∀ {c : Cursor} {first : Bool} {enclosures : List Enclosure},
      (skipAfterItem fuel (!first) enclosures).Reads c () rest →
        Closes first enclosures c.rest rest := by
  -- The two call each other with less fuel, so that one induction serves both.
  induction fuel with
  | zero =>
      constructor
      · intro c enclosures h
        simp [skipValue] at h
      · intro c first enclosures h
        cases enclosures with
        | nil => simpa [skipAfterItem] using h
        | cons frame outer => simp [skipAfterItem] at h
  | succ fuel ih =>
      obtain ⟨hvalue, hafter⟩ := ih
      constructor
      · exact exists_of_reads_skipValue_succ hafter
      · intro c first enclosures h
        cases enclosures with
        | nil => simpa [skipAfterItem] using h
        | cons frame outer => exact closes_of_reads_skipAfterItem_succ hvalue (fun h ↦ hafter h) h

/-- What is passed over is a value. -/
theorem exists_of_reads_skip (h : skip.Reads c () rest) : ∃ blanks tree value, Blank blanks ∧
    IsValue tree value ∧ c.rest = blanks ++ (value ++ rest) := by
  rw [skip, reads_ahead_bind] at h
  obtain ⟨blanks, tree, value, after, hblanks, hvalue, hc, hafter⟩ :=
    (exists_of_reads_machine _).1 h
  exact ⟨blanks, tree, value, hblanks, hvalue, closes_nil.mp hafter ▸ hc⟩

/-! ## Every value is passed over -/

theorem reads_skipValue_succ {tree : Tree} {value : List UInt8}
    (ih : ∀ {c : Cursor} {first : Bool} {enclosures : List Enclosure},
      Closes first enclosures c.rest rest → 2 * c.rest.length + 1 ≤ fuel →
        (skipAfterItem fuel (!first) enclosures).Reads c () rest)
    (hblanks : Blank blanks) (hvalue : IsValue tree value) (hends : tree.EndsBefore after)
    (hc : c.rest = blanks ++ (value ++ after)) (hafter : Closes false enclosures after rest)
    (hfuel : 2 * c.rest.length ≤ fuel + 1) :
    (skipValue (fuel + 1) enclosures).Reads c () rest := by
  refine Reads.token hblanks (hvalue.stops after) hc fun mid hmid ↦ ?_
  have hadvance : 2 * mid.advance.rest.length + 1 ≤ fuel := by
    obtain ⟨b, more, rfl, -⟩ := hvalue.exists_cons
    rw [hc, List.length_append] at hfuel
    simp only [Cursor.rest_advance, hmid, List.cons_append, List.tail_cons, List.length_cons]
      at hfuel ⊢
    omega
  have hshort : ∀ end_ : Cursor, end_.rest = after →
      (skipAfterItem fuel true enclosures).Reads end_ () rest := by
    rintro end_ rfl
    refine ih hafter ?_
    obtain ⟨b, more, rfl, -⟩ := hvalue.exists_cons
    simp only [Cursor.rest_advance, hmid, List.cons_append, List.tail_cons, List.length_append]
      at hadvance
    omega
  cases hvalue with
  | null => exact Reads.word hmid hshort
  | yes => exact Reads.word hmid hshort
  | no => exact Reads.word hmid hshort
  | number hnumber =>
      have hafter' := hends _ rfl
      obtain hmagnitude | ⟨magnitude, hmagnitude, rfl⟩ := hnumber
      · have hread :
            (skipNumber >>= fun _ ↦ skipAfterItem fuel true enclosures).Reads mid () rest :=
          (reads_skipNumber hmagnitude hafter' hmid).bind hshort
        obtain ⟨b, more, rfl, hb⟩ := hmagnitude.exists_cons
        have hne : ∀ x, isDigitByte x = false → b ≠ x := by
          rintro x hx rfl
          simp [hb] at hx
        rw [List.cons_append, List.head?_cons]
        dsimp only
        rwa [if_neg (hne _ rfl), if_neg (hne _ rfl), if_neg (hne _ rfl), if_neg (hne _ rfl),
          if_pos hb]
      · change (advance >>= fun _ ↦ skipNumber >>= fun _ ↦
          skipAfterItem fuel true enclosures).Reads mid () rest
        rw [reads_advance_bind]
        exact (reads_skipNumber hmagnitude hafter' (by simp [hmid])).bind hshort
  | @text text htext =>
      change (advance >>= fun _ ↦ ahead >>= fun n ↦ skipText (n + 1) >>= fun _ ↦
        skipAfterItem fuel true enclosures).Reads mid () rest
      rw [reads_advance_bind, reads_ahead_bind]
      exact (reads_skipText_iff.mpr ⟨text, htext, by simp [hmid]⟩).bind hshort
  | @list _ items hitems =>
      have hmid' : mid.advance.rest = items ++ 0x5D :: after := by simp [hmid]
      have hclose : Closes true (.list :: enclosures) mid.advance.rest rest :=
        ⟨after, ⟨_, _, hitems, hmid'⟩, hafter⟩
      exact reads_advance_bind.mpr (ih hclose hadvance)
  | @object _ members hmembers =>
      have hmid' : mid.advance.rest = members ++ 0x7D :: after := by simp [hmid]
      have hclose : Closes true (.object :: enclosures) mid.advance.rest rest :=
        ⟨after, ⟨_, _, hmembers, hmid'⟩, hafter⟩
      exact reads_advance_bind.mpr (ih hclose hadvance)

theorem Enclosure.IsLabel.exists_cons {label value : List UInt8} {tree : Tree}
    (hlabel : frame.IsLabel label) (hvalue : IsValue tree value) (more : List UInt8) :
    ∃ b tail, label ++ (value ++ more) = b :: tail ∧ isBlankByte b = false ∧ b ≠ frame.closing := by
  cases frame with
  | list =>
      obtain rfl : label = [] := hlabel
      have hstops := hvalue.stops more
      obtain ⟨b, tail, hb, hne⟩ := hvalue.exists_cons_ne more
      exact ⟨b, tail, hb, stops_cons.mp (hb ▸ hstops), hne⟩
  | object =>
      obtain ⟨key, colon, -, -, rfl⟩ := hlabel
      exact ⟨_, _, rfl, rfl, by decide⟩

theorem reads_skipAfterItem_succ
    (ih : ∀ {c : Cursor} {blanks value after : List UInt8} {tree : Tree}
      {enclosures : List Enclosure}, Blank blanks → IsValue tree value →
        tree.EndsBefore after → c.rest = blanks ++ (value ++ after) →
          Closes false enclosures after rest → 2 * c.rest.length ≤ fuel →
            (skipValue fuel enclosures).Reads c () rest)
    (ih' : ∀ {c : Cursor} {enclosures : List Enclosure},
      Closes false enclosures c.rest rest → 2 * c.rest.length + 1 ≤ fuel →
        (skipAfterItem fuel true enclosures).Reads c () rest)
    (h : Closes first (frame :: enclosures) c.rest rest)
    (hfuel : 2 * c.rest.length + 1 ≤ fuel + 1) :
    (skipAfterItem (fuel + 1) (!first) (frame :: enclosures)).Reads c () rest := by
  obtain ⟨after, hframe, hafter⟩ := h
  rw [skipAfterItem]
  rcases Enclosure.closes_iff.mp hframe with ⟨blanks, hblanks, hc⟩ |
    ⟨lead, label, tree, value, more, hlead, hlabel, hvalue, hmore, hc⟩
  · have hblank : isBlankByte frame.closing = false := by cases frame <;> rfl
    have hcomma : frame.closing ≠ 0x2C := by cases frame <;> decide
    refine Reads.token hblanks (stops_cons.mpr hblank) hc fun mid hmid ↦ ?_
    rw [List.head?_cons]
    dsimp only
    rw [if_neg (by simp [hcomma]), if_pos rfl, reads_advance_bind]
    refine ih' (by simpa [hmid] using hafter) ?_
    simp only [hc, List.length_append, List.length_cons] at hfuel
    simp only [Cursor.rest_advance, hmid, List.tail_cons]
    omega
  · have hitem : ∀ (mid : Cursor) (blanks : List UInt8), Blank blanks →
        mid.rest = blanks ++ (label ++ (value ++ more)) → mid.rest.length ≤ c.rest.length →
        (if frame = .object then skipKey >>= fun _ ↦ skipValue fuel (frame :: enclosures)
          else skipValue fuel (frame :: enclosures)).Reads mid () rest := by
      intro mid blanks hblanks hmid hlength
      refine reads_of_label hblanks hlabel hmid fun end_ gap hgap hend hle ↦ ?_
      exact ih hgap hvalue (hmore.stops.endsBefore tree) hend ⟨after, hmore, hafter⟩ (by omega)
    cases first with
    | true =>
        obtain ⟨b, tail, hb, hblank, hclosing⟩ := hlabel.exists_cons hvalue more
        rw [hb] at hc
        refine Reads.token hlead (stops_cons.mpr hblank) hc fun mid hmid ↦ ?_
        rw [List.head?_cons]
        dsimp only
        rw [if_neg (by simp), if_neg hclosing]
        refine hitem mid [] blank_nil (hmid.trans hb.symm) ?_
        simp [hmid, hc]
    | false =>
        obtain ⟨before, gap, hbefore, hgap, rfl⟩ := hlead
        have hc' : c.rest = before ++ 0x2C :: (gap ++ (label ++ (value ++ more))) := by simp [hc]
        refine Reads.token hbefore (stops_cons.mpr rfl) hc' fun mid hmid ↦ ?_
        rw [List.head?_cons]
        dsimp only
        rw [if_pos (by decide), reads_advance_bind]
        refine hitem mid.advance gap hgap (by simp [hmid]) ?_
        simp only [hc', Cursor.rest_advance, hmid, List.tail_cons, List.length_append,
          List.length_cons]
        omega

theorem reads_machine (fuel : Nat) :
    (∀ {c : Cursor} {blanks value after : List UInt8} {tree : Tree}
      {enclosures : List Enclosure}, Blank blanks → IsValue tree value →
        tree.EndsBefore after → c.rest = blanks ++ (value ++ after) →
          Closes false enclosures after rest → 2 * c.rest.length ≤ fuel →
            (skipValue fuel enclosures).Reads c () rest) ∧
    ∀ {c : Cursor} {first : Bool} {enclosures : List Enclosure},
      Closes first enclosures c.rest rest → 2 * c.rest.length + 1 ≤ fuel →
        (skipAfterItem fuel (!first) enclosures).Reads c () rest := by
  -- A value takes a byte at least, and what follows it takes one step more: two for each byte.
  induction fuel with
  | zero =>
      constructor
      · intro c blanks value after tree enclosures _ hvalue _ hc _ hfuel
        obtain ⟨b, more, rfl, -⟩ := hvalue.exists_cons
        simp [hc] at hfuel
      · intro c first enclosures _ hfuel
        omega
  | succ fuel ih =>
      obtain ⟨hvalue, hafter⟩ := ih
      constructor
      · exact reads_skipValue_succ hafter
      · intro c first enclosures h hfuel
        cases enclosures with
        | nil => simpa [skipAfterItem] using h
        | cons frame outer =>
            exact reads_skipAfterItem_succ hvalue (fun h hfuel ↦ hafter h hfuel) h hfuel

/-- Every value is passed over, as far as it goes. -/
theorem reads_skip {tree : Tree} {value : List UInt8} (hblanks : Blank blanks)
    (hvalue : IsValue tree value) (hends : tree.EndsBefore rest)
    (hc : c.rest = blanks ++ (value ++ rest)) : skip.Reads c () rest := by
  rw [skip, reads_ahead_bind]
  exact (reads_machine _).1 hblanks hvalue hends hc rfl (by omega)

end TileFetch.Json
