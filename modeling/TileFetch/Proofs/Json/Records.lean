import TileFetch.Json.Record
import TileFetch.Proofs.Json.Decoders

/-!
# What is read as a record

A record is read from an object whose members may stand in any order, or from a list of its
fields.  `Gathers` and `GathersRow` say what a draft becomes with the members or items of a tree,
and a record is read exactly if its draft can be completed: `Shape.reflects`.
-/

namespace TileFetch.Json

open Reader

variable {α σ : Type} {a : α} {c : Cursor} {first : Bool} {blanks bytes rest left : List UInt8}
  {depth : Nat}

/-! ## Enclosures -/

theorem reads_enter_iff {n : Nat} :
    (enter depth).Reads c n rest ↔ 1 < depth ∧ n = depth - 1 ∧ c.rest.tail = rest := by
  by_cases hdepth : depth ≤ 1
  · simp [enter, hdepth]
  · simp [enter, hdepth]
    omega

theorem reads_enclosed_iff {contents : Reader α} {close : Reader Unit} :
    (enclosed contents close).Reads c a rest ↔
      ∃ mid, contents c = (.ok a, mid) ∧ close.Reads mid () rest := by
  rw [enclosed, reads_attempt_bind, reads_attempt_bind]
  rcases hcontents : contents c with ⟨fault | b, mid⟩
  · simp
  · rcases hclose : close mid with ⟨fault | _, end_⟩
    · simp [Reads, hclose, fail]
    · simp [hclose, Reads.eq_1 close, eq_comm]

theorem reads_closeObject_iff : closeObject.Reads c () rest ↔
    ∃ blanks, Blank blanks ∧ c.rest = blanks ++ 0x7D :: rest := by
  constructor
  · intro h
    obtain ⟨blanks, mid, b, tail, hblanks, hc, -, hmid, h⟩ := Reads.of_token_cons h (by simp)
    dsimp only at h
    split_ifs at h with hb
    · obtain rfl : tail = rest := by simpa [hmid] using h
      exact ⟨blanks, hblanks, by rw [hc, hmid, hb]⟩
    all_goals simp at h
  · rintro ⟨blanks, hblanks, hc⟩
    refine Reads.token hblanks (stops_cons.mpr rfl) hc fun mid hmid ↦ ?_
    simp [hmid]

theorem reads_closeList_iff : closeList.Reads c () rest ↔
    ∃ blanks, Blank blanks ∧ c.rest = blanks ++ 0x5D :: rest := by
  constructor
  · intro h
    obtain ⟨blanks, mid, b, tail, hblanks, hc, -, hmid, h⟩ := Reads.of_token_cons h (by simp)
    dsimp only at h
    split_ifs at h with hb hcomma
    · obtain rfl : tail = rest := by simpa [hmid] using h
      exact ⟨blanks, hblanks, by rw [hc, hmid, hb]⟩
    · obtain ⟨_, _, -, -, -, h⟩ := Reads.of_token (reads_advance_bind.mp h)
      split_ifs at h <;> simp at h
    · simp at h
  · rintro ⟨blanks, hblanks, hc⟩
    refine Reads.token hblanks (stops_cons.mpr rfl) hc fun mid hmid ↦ ?_
    simp [hmid]

theorem reads_moreItems_iff : (moreItems first).Reads c true rest ↔
    ∃ lead b tail, Leads first lead ∧ c.rest = lead ++ rest ∧ Stops isBlankByte rest ∧
      rest = b :: tail ∧ b ≠ 0x5D := by
  constructor
  · intro h
    obtain ⟨blanks, mid, b, tail, hblanks, hc, hstops, hmid, h⟩ := Reads.of_token_cons h (by simp)
    dsimp only at h
    split_ifs at h with hend hfirst hcomma
    · simp at h
    · obtain rfl : mid.rest = rest := (reads_pure.mp h).2
      exact ⟨blanks, b, tail, by simpa [hfirst, Leads] using hblanks, hc, hstops, hmid, hend⟩
    · obtain ⟨gap, end_, d, more, hgap, htail, hstops', hend', h⟩ :=
        Reads.of_token_cons (reads_advance_bind.mp h) (by simp)
      dsimp only at h
      split_ifs at h with hd
      · simp at h
      · obtain rfl : end_.rest = rest := (reads_pure.mp h).2
        refine ⟨blanks ++ 0x2C :: gap, d, more, ?_, ?_, hstops', hend', hd⟩
        · simpa [hfirst, Leads] using ⟨blanks, gap, hblanks, hgap, rfl⟩
        · rw [Cursor.rest_advance, hmid, List.tail_cons] at htail
          simp [hc, hmid, hcomma, htail]
    · simp at h
  · rintro ⟨lead, b, tail, hlead, hc, hstops, rfl, hb⟩
    cases first with
    | true =>
        refine Reads.token hlead hstops hc fun mid hmid ↦ ?_
        simp [hb, hmid]
    | false =>
        obtain ⟨before, gap, hbefore, hgap, rfl⟩ := hlead
        rw [List.append_assoc, List.cons_append] at hc
        refine Reads.token hbefore (stops_cons.mpr rfl) hc fun mid hmid ↦ ?_
        rw [List.head?_cons]
        dsimp only
        rw [if_neg (by decide), if_neg (by decide), if_pos rfl, reads_advance_bind]
        refine Reads.token hgap hstops (by simp [hmid]) fun end_ hend ↦ ?_
        simp [hb, hend]

theorem reads_not_moreItems_iff : (moreItems first).Reads c false rest ↔
    ∃ blanks tail, Blank blanks ∧ c.rest = blanks ++ rest ∧ rest = 0x5D :: tail := by
  constructor
  · intro h
    obtain ⟨blanks, mid, b, tail, hblanks, hc, -, hmid, h⟩ := Reads.of_token_cons h (by simp)
    dsimp only at h
    split_ifs at h with hend hfirst hcomma
    · obtain rfl : mid.rest = rest := (reads_pure.mp h).2
      exact ⟨blanks, tail, hblanks, hc, by rw [hmid, hend]⟩
    · simp at h
    · obtain ⟨_, _, _, _, -, -, -, -, h⟩ :=
        Reads.of_token_cons (reads_advance_bind.mp h) (by simp)
      dsimp only at h
      split_ifs at h <;> simp at h
    · simp at h
  · rintro ⟨blanks, tail, hblanks, hc, rfl⟩
    refine Reads.token hblanks (stops_cons.mpr rfl) hc fun mid hmid ↦ ?_
    simp [hmid]

theorem reads_moreMembers_iff : (moreMembers first).Reads c true rest ↔
    ∃ lead tail, Leads first lead ∧ c.rest = lead ++ rest ∧ rest = 0x22 :: tail := by
  constructor
  · intro h
    obtain ⟨blanks, mid, b, tail, hblanks, hc, -, hmid, h⟩ := Reads.of_token_cons h (by simp)
    dsimp only at h
    split_ifs at h with hend hfirst hquote hcomma
    · simp at h
    · obtain rfl : mid.rest = rest := (reads_pure.mp h).2
      exact ⟨blanks, tail, by simpa [hfirst, Leads] using hblanks, hc, by rw [hmid, hquote]⟩
    · simp at h
    · obtain ⟨gap, end_, d, more, hgap, htail, -, hend', h⟩ :=
        Reads.of_token_cons (reads_advance_bind.mp h) (by simp)
      dsimp only at h
      split_ifs at h with hquote
      · obtain rfl : end_.rest = rest := (reads_pure.mp h).2
        refine ⟨blanks ++ 0x2C :: gap, more, ?_, ?_, by rw [hend', hquote]⟩
        · simpa [hfirst, Leads] using ⟨blanks, gap, hblanks, hgap, rfl⟩
        · rw [Cursor.rest_advance, hmid, List.tail_cons] at htail
          simp [hc, hmid, hcomma, htail]
      all_goals simp at h
    · simp at h
  · rintro ⟨lead, tail, hlead, hc, rfl⟩
    cases first with
    | true =>
        refine Reads.token hlead (stops_cons.mpr rfl) hc fun mid hmid ↦ ?_
        simp [hmid]
    | false =>
        obtain ⟨before, gap, hbefore, hgap, rfl⟩ := hlead
        rw [List.append_assoc, List.cons_append] at hc
        refine Reads.token hbefore (stops_cons.mpr rfl) hc fun mid hmid ↦ ?_
        rw [List.head?_cons]
        dsimp only
        rw [if_neg (by decide), if_neg (by decide), if_pos rfl, reads_advance_bind]
        have hafter : mid.advance.rest = gap ++ 0x22 :: tail := by simp [hmid]
        refine Reads.token hgap (stops_cons.mpr rfl) hafter fun end_ hend ↦ ?_
        simp [hend]

theorem reads_not_moreMembers_iff : (moreMembers first).Reads c false rest ↔
    ∃ blanks tail, Blank blanks ∧ c.rest = blanks ++ rest ∧ rest = 0x7D :: tail := by
  constructor
  · intro h
    obtain ⟨blanks, mid, b, tail, hblanks, hc, -, hmid, h⟩ := Reads.of_token_cons h (by simp)
    dsimp only at h
    split_ifs at h with hend hfirst hquote hcomma
    · obtain rfl : mid.rest = rest := (reads_pure.mp h).2
      exact ⟨blanks, tail, hblanks, hc, by rw [hmid, hend]⟩
    · simp at h
    · simp at h
    · obtain ⟨_, _, _, _, -, -, -, -, h⟩ :=
        Reads.of_token_cons (reads_advance_bind.mp h) (by simp)
      dsimp only at h
      split_ifs at h <;> simp at h
    · simp at h
  · rintro ⟨blanks, tail, hblanks, hc, rfl⟩
    refine Reads.token hblanks (stops_cons.mpr rfl) hc fun mid hmid ↦ ?_
    simp [hmid]

theorem reads_nextKey_some_iff {key : String} : (nextKey first).Reads c (some key) rest ↔
    ∃ lead spelling, Leads first lead ∧ Spells spelling key.toList ∧
      c.rest = lead ++ 0x22 :: (spelling ++ 0x22 :: rest) := by
  rw [nextKey, reads_inside]
  constructor
  · intro h
    obtain ⟨more, mid, hmore, h⟩ := h.of_bind
    cases more with
    | false => simp at h
    | true =>
        obtain ⟨lead, tail, hlead, hc, hmid⟩ := reads_moreMembers_iff.mp hmore
        rw [if_pos rfl, reads_advance_bind] at h
        obtain ⟨text, end_, htext, h⟩ := h.of_bind
        obtain ⟨heq, rfl⟩ := reads_pure.mp h
        obtain rfl := Option.some_inj.mp heq
        obtain ⟨spelling, hspells, htail⟩ := reads_readText_iff.mp htext
        rw [Cursor.rest_advance, hmid, List.tail_cons] at htail
        exact ⟨lead, spelling, hlead, hspells, by rw [hc, hmid, htail]⟩
  · rintro ⟨lead, spelling, hlead, hspells, hc⟩
    refine (reads_moreMembers_iff.mpr ⟨lead, _, hlead, hc, rfl⟩).bind fun mid hmid ↦ ?_
    rw [if_pos rfl, reads_advance_bind]
    have htext : readText.Reads mid.advance key rest :=
      reads_readText_iff.mpr ⟨spelling, hspells, by simp [hmid]⟩
    exact htext.bind fun end_ hend ↦ reads_pure.mpr ⟨rfl, hend⟩

theorem reads_nextKey_none_iff : (nextKey first).Reads c none rest ↔
    ∃ blanks tail, Blank blanks ∧ c.rest = blanks ++ rest ∧ rest = 0x7D :: tail := by
  rw [nextKey, reads_inside, ← reads_not_moreMembers_iff]
  constructor
  · intro h
    obtain ⟨more, mid, hmore, h⟩ := h.of_bind
    cases more with
    | false =>
        rw [if_neg (by decide), reads_pure] at h
        exact h.2 ▸ hmore
    | true =>
        rw [if_pos rfl, reads_advance_bind] at h
        obtain ⟨text, end_, -, h⟩ := h.of_bind
        simp at h
  · intro h
    exact h.bind fun mid hmid ↦ by simp [hmid]

/-! ## Members and items -/

def Named (members : List (List UInt8 × Tree)) (named : List (String × Tree)) : Prop :=
  List.Forall₂ (fun m n ↦ Spells m.1 n.1.toList ∧ n.2 = m.2) members named

section

variable {β : Type} {d : Decoder α} {M : Tree → α → Prop} {step : Step} {b : β}

theorem exists_of_reads_member {k : α → Reader β} (hd : d.Reflects depth M)
    (h : (readColon >>= fun _ ↦ inside step (d.read depth) >>= k).Reads c b rest) :
    ∃ colon tree value a mid, IsMark 0x3A colon ∧ IsValue tree value ∧ M tree a ∧
      c.rest = colon ++ (value ++ mid.rest) ∧ (k a).Reads mid b rest := by
  obtain ⟨_, after, hcolon, h⟩ := h.of_bind
  obtain ⟨a, mid, hread, h⟩ := h.of_bind
  obtain ⟨before, hbefore, hc⟩ := reads_readColon_iff.mp hcolon
  obtain ⟨gap, tree, value, hgap, hvalue, hM, hafter⟩ := hd.sound (reads_inside.mp hread)
  exact ⟨before ++ 0x3A :: gap, tree, value, a, mid, ⟨before, gap, hbefore, hgap, rfl⟩, hvalue, hM,
    by simp [hc, hafter], h⟩

theorem reads_member {k : α → Reader β} {colon value : List UInt8} {tree : Tree}
    (hd : d.Takes depth tree a) (hcolon : IsMark 0x3A colon) (hvalue : IsValue tree value)
    (hends : tree.EndsBefore left) (hc : c.rest = colon ++ (value ++ left))
    (hk : ∀ mid : Cursor, mid.rest = left → (k a).Reads mid b rest) :
    (readColon >>= fun _ ↦ inside step (d.read depth) >>= k).Reads c b rest := by
  obtain ⟨before, gap, hbefore, hgap, rfl⟩ := hcolon
  rw [List.append_assoc, List.cons_append] at hc
  refine (reads_readColon_iff.mpr ⟨before, hbefore, hc⟩).bind fun mid hmid ↦ ?_
  exact (reads_inside.mpr (hd.reads hgap hvalue hends hmid)).bind hk

end

namespace Shape

/-- What a draft becomes with the members of an object: every field at most once, and members that
are no fields are ignored. -/
inductive Gathers (shape : Shape σ α) (M : Field σ → Tree → (σ → σ) → Prop) :
    List (String × Tree) → σ → σ → Prop
  | nil {draft} : Gathers shape M [] draft draft
  | ignored {key tree named draft result} : shape.field? key = none →
      Gathers shape M named draft result → Gathers shape M ((key, tree) :: named) draft result
  | field {key tree field put named draft result} : shape.field? key = some field →
      field.seen draft = false → M field tree put → Gathers shape M named (put draft) result →
      Gathers shape M ((key, tree) :: named) draft result

/-- What a draft becomes with the items of a list.  Fields may be left out at the end. -/
inductive GathersRow (M : Field σ → Tree → (σ → σ) → Prop) :
    List (Field σ) → List Tree → σ → σ → Prop
  | nil {draft} : GathersRow M [] [] draft draft
  | omitted {field fields draft result} : field.omissible = true →
      GathersRow M fields [] draft result → GathersRow M (field :: fields) [] draft result
  | item {field tree put fields trees draft result} : M field tree put →
      GathersRow M fields trees (put draft) result →
      GathersRow M (field :: fields) (tree :: trees) draft result

variable {shape : Shape σ α} {M : Field σ → Tree → (σ → σ) → Prop} {draft result : σ}
  {members : List (List UInt8 × Tree)} {named : List (String × Tree)}

theorem exists_of_reads_readFields (hopen : shape.closed = false)
    (hM : ∀ field ∈ shape.fields, field.decoder.Reflects depth (M field)) {fuel : Nat}
    (h : (shape.readFields depth fuel first draft).Reads c result left) :
    ∃ members named bytes tail, IsMembers first members bytes ∧ Named members named ∧
      shape.Gathers M named draft result ∧ c.rest = bytes ++ left ∧ left = 0x7D :: tail := by
  induction fuel generalizing c first draft with
  | zero => simp [readFields] at h
  | succ fuel ih =>
      obtain ⟨key?, after, hkey, h⟩ := Reads.of_bind h
      cases key? with
      | none =>
          obtain ⟨blanks, tail, hblanks, hc, hafter⟩ := reads_nextKey_none_iff.mp hkey
          obtain ⟨rfl, rfl⟩ := reads_pure.mp h
          exact ⟨[], [], blanks, tail, .nil hblanks, .nil, .nil, hc, hafter⟩
      | some key =>
          obtain ⟨lead, spelling, hlead, hspells, hc⟩ := reads_nextKey_some_iff.mp hkey
          dsimp only at h
          cases hfield : shape.field? key with
          | none =>
              rw [hfield] at h
              dsimp only at h
              rw [if_neg (by simp [hopen])] at h
              obtain ⟨colon, tree, value, _, mid, hcolon, hvalue, -, hafter, h⟩ :=
                exists_of_reads_member Decoder.reflects_ignored h
              obtain ⟨members, named, bytes, tail, hmembers, hnamed, hgathers, hmid, hleft⟩ := ih h
              refine ⟨_, (key, tree) :: named, _, tail,
                .cons hlead hspells.isText hcolon hvalue hmembers, .cons ⟨hspells, rfl⟩ hnamed,
                .ignored hfield hgathers, ?_, hleft⟩
              simp [hc, hafter, hmid]
          | some field =>
              rw [hfield] at h
              dsimp only at h
              split_ifs at h with hseen
              · simp at h
              · obtain ⟨colon, tree, value, put, mid, hcolon, hvalue, hput, hafter, h⟩ :=
                  exists_of_reads_member (hM field (List.mem_of_find?_eq_some hfield)) h
                obtain ⟨members, named, bytes, tail, hmembers, hnamed, hgathers, hmid, hleft⟩ :=
                  ih h
                refine ⟨_, (key, tree) :: named, _, tail,
                  .cons hlead hspells.isText hcolon hvalue hmembers, .cons ⟨hspells, rfl⟩ hnamed,
                  .field hfield (by simpa using hseen) hput hgathers, ?_, hleft⟩
                simp [hc, hafter, hmid]

theorem reads_readFields (hopen : shape.closed = false)
    (hM : ∀ field ∈ shape.fields, ∀ {tree put}, M field tree put →
      field.decoder.Takes depth tree put) {fuel : Nat}
    (hmembers : IsMembers first members bytes) (hnamed : Named members named)
    (hgathers : shape.Gathers M named draft result) (hfuel : bytes.length < fuel)
    (hc : c.rest = bytes ++ 0x7D :: rest) :
    (shape.readFields depth fuel first draft).Reads c result (0x7D :: rest) := by
  -- Each member takes a byte at least, so that the fuel outlasts the bytes.
  induction fuel generalizing c first draft members named bytes with
  | zero => omega
  | succ fuel ih =>
      rw [readFields]
      cases hmembers with
      | nil hblanks =>
          cases hnamed
          cases hgathers
          refine (reads_nextKey_none_iff.mpr ⟨_, rest, hblanks, hc, rfl⟩).bind fun mid hmid ↦ ?_
          exact reads_pure.mpr ⟨rfl, hmid⟩
      | @cons _ lead spelling colon tree value members more hlead hkey hcolon hvalue hmore =>
          obtain _ | @⟨_, ⟨key, _⟩, _, named, ⟨hspells, rfl⟩, hnamed⟩ := hnamed
          have hc' : c.rest = lead ++ 0x22 :: (spelling ++ 0x22 ::
              (colon ++ (value ++ (more ++ 0x7D :: rest)))) := by simp [hc]
          have hfuel' : more.length < fuel := by
            simp only [List.length_append, List.length_cons] at hfuel
            omega
          refine (reads_nextKey_some_iff.mpr ⟨lead, spelling, hlead, hspells, hc'⟩).bind
            fun mid hmid ↦ ?_
          dsimp only
          cases hgathers with
          | ignored hfield hgathers =>
              rw [hfield]
              dsimp only
              rw [if_neg (by simp [hopen])]
              refine reads_member (a := ()) (Decoder.reflects_ignored.takes trivial) hcolon hvalue
                ((hmore.stops rest).endsBefore _) hmid fun end_ hend ↦ ?_
              exact ih hmore hnamed hgathers hfuel' hend
          | field hfield hseen hput hgathers =>
              rw [hfield]
              dsimp only
              rw [if_neg (by simp [hseen])]
              refine reads_member (hM _ (List.mem_of_find?_eq_some hfield) hput) hcolon hvalue
                ((hmore.stops rest).endsBefore _) hmid fun end_ hend ↦ ?_
              exact ih hmore hnamed hgathers hfuel' hend

theorem exists_of_reads_readInOrder {fields : List (Field σ)} {index : Nat}
    (hM : ∀ field ∈ fields, field.decoder.Reflects depth (M field)) (hblanks : Blank blanks)
    (h : (shape.readInOrder depth fields index first draft).Reads c result
      (blanks ++ 0x5D :: rest)) :
    ∃ trees items, IsItems first trees items ∧ GathersRow M fields trees draft result ∧
      c.rest = items ++ 0x5D :: rest := by
  induction fields generalizing c first index draft with
  | nil =>
      obtain ⟨rfl, hc⟩ := reads_pure.mp h
      exact ⟨[], blanks, .nil hblanks, .nil, hc⟩
  | cons field fields ih =>
      obtain ⟨hfield, hfields⟩ := List.forall_mem_cons.mp hM
      obtain ⟨more, mid, hmore, h⟩ := Reads.of_bind h
      cases more with
      | true =>
          rw [if_pos rfl] at h
          obtain ⟨lead, b, tail, hlead, hc, -⟩ := reads_moreItems_iff.mp hmore
          obtain ⟨put, end_, hput, h⟩ := h.of_bind
          obtain ⟨gap, tree, value, hgap, hvalue, hM', hmid⟩ := hfield.sound (reads_inside.mp hput)
          obtain ⟨trees, items, hitems, hgathers, hend⟩ := ih hfields h
          refine ⟨tree :: trees, _, .cons (hlead.append_blank hgap) hvalue hitems,
            .item hM' hgathers, ?_⟩
          simp [hc, hmid, hend]
      | false =>
          rw [if_neg (by decide)] at h
          obtain ⟨before, tail, hbefore, hc, hmid⟩ := reads_not_moreItems_iff.mp hmore
          split_ifs at h with homissible
          · obtain ⟨trees, items, hitems, hgathers, hend⟩ := ih hfields h
            -- The list ends here, so that no item is left.
            have hnone : IsItems first [] [] := .nil blank_nil
            obtain ⟨rfl, rfl⟩ := hnone.unique hitems (hmid.symm.trans hend)
            exact ⟨[], before, .nil hbefore, .omitted homissible hgathers, by rw [hc, hmid]⟩
          · simp at h

theorem exists_reads_readInOrder {fields : List (Field σ)} (index : Nat) {trees : List Tree}
    {items : List UInt8} (hM : ∀ field ∈ fields, field.decoder.Reflects depth (M field))
    (hitems : IsItems first trees items) (hgathers : GathersRow M fields trees draft result)
    (hc : c.rest = items ++ 0x5D :: rest) :
    ∃ blanks, Blank blanks ∧ (shape.readInOrder depth fields index first draft).Reads c result
      (blanks ++ 0x5D :: rest) := by
  induction hgathers generalizing c first index items with
  | nil =>
      cases hitems with
      | nil hblanks => exact ⟨_, hblanks, reads_pure.mpr ⟨rfl, hc⟩⟩
  | omitted homissible _ ih =>
      cases hitems with
      | nil hblanks =>
          obtain ⟨mid, hmore, hmid⟩ := reads_not_moreItems_iff.mpr ⟨_, rest, hblanks, hc, rfl⟩
          obtain ⟨gap, hgap, hread⟩ :=
            ih (index + 1) (List.forall_mem_cons.mp hM).2 (.nil blank_nil) hmid
          refine ⟨gap, hgap, (reads_bind_of_eq hmore).mpr ?_⟩
          rwa [if_neg (by decide), if_pos homissible]
  | @item field _ put fields _ _ _ hput _ ih =>
      obtain ⟨hfield, hfields⟩ := List.forall_mem_cons.mp hM
      cases hitems with
      | @cons _ lead _ value _ more hlead hvalue hitems =>
          simp only [List.append_assoc] at hc
          have hbegin := hvalue.stops (more ++ 0x5D :: rest)
          obtain ⟨b, tail, hb, hend⟩ := hvalue.exists_cons_ne (more ++ 0x5D :: rest)
          obtain ⟨mid, hmore, hmid⟩ :=
            reads_moreItems_iff.mpr ⟨lead, b, tail, hlead, hc, hbegin, hb, hend⟩
          have hread : (inside (.item index) (field.decoder.read depth)).Reads mid put
              (more ++ 0x5D :: rest) :=
            reads_inside.mpr
              (hfield.complete blank_nil hvalue hput ((hitems.stops rest).endsBefore _) hmid)
          obtain ⟨after, hread, hafter⟩ := hread
          obtain ⟨gap, hgap, hrow⟩ := ih (index + 1) hfields hitems hafter
          refine ⟨gap, hgap, (reads_bind_of_eq hmore).mpr ?_⟩
          rw [if_pos rfl]
          exact (reads_bind_of_eq hread).mpr hrow

theorem complete_eq_ok_iff : shape.complete draft = .ok a ↔ shape.finish draft = .ok a := by
  unfold complete
  cases shape.finish draft <;> simp

def Records (shape : Shape σ α) (M : Field σ → Tree → (σ → σ) → Prop) (tree : Tree) (a : α) :
    Prop :=
  ∃ draft, shape.finish draft = .ok a ∧
    ((∃ members named, tree = .object members ∧ Named members named ∧
        shape.Gathers M named shape.blank draft) ∨
      ∃ items, tree = .list items ∧ GathersRow M shape.fields items shape.blank draft)

theorem exists_of_reads_object (hopen : shape.closed = false)
    (hM : ∀ field ∈ shape.fields, field.decoder.Reflects depth (M field))
    (h : (enclosed (ahead >>= fun n ↦ shape.readFields depth (n + 1) true shape.blank >>=
      fun draft ↦ ofExcept (shape.complete draft)) closeObject).Reads c a rest) :
    ∃ members bytes, IsMembers true members bytes ∧ shape.Records M (.object members) a ∧
      c.rest = bytes ++ 0x7D :: rest := by
  obtain ⟨end_, hcontents, hclose⟩ := reads_enclosed_iff.mp h
  obtain ⟨gap, hgap, hend⟩ := reads_closeObject_iff.mp hclose
  obtain ⟨draft, after, hfields, hfinish⟩ :=
    Reads.of_bind (reads_ahead_bind.mp ⟨end_, hcontents, rfl⟩)
  obtain ⟨hfinish, hafter⟩ := reads_ofExcept.mp hfinish
  obtain ⟨members, named, bytes, tail, hmembers, hnamed, hgathers, hbytes, hleft⟩ :=
    exists_of_reads_readFields hopen hM hfields
  -- The reader of the members stops at the closing bracket, so that no blank is left before it.
  have hclosing : ([] : List UInt8) ++ 0x7D :: tail = gap ++ 0x7D :: rest := by
    rw [← hend, ← hafter, hleft]
    rfl
  have htail := (run_unique blank_nil (stops_cons.mpr rfl) hgap (stops_cons.mpr rfl) hclosing).2
  refine ⟨members, bytes, hmembers,
    ⟨draft, complete_eq_ok_iff.mp hfinish, .inl ⟨members, named, rfl, hnamed, hgathers⟩⟩, ?_⟩
  rw [hbytes, hleft, htail]

theorem reads_object (hopen : shape.closed = false)
    (hM : ∀ field ∈ shape.fields, ∀ {tree put}, M field tree put →
      field.decoder.Takes depth tree put)
    (hmembers : IsMembers true members bytes) (hnamed : Named members named)
    (hgathers : shape.Gathers M named shape.blank draft) (hfinish : shape.finish draft = .ok a)
    (hc : c.rest = bytes ++ 0x7D :: rest) :
    (enclosed (ahead >>= fun n ↦ shape.readFields depth (n + 1) true shape.blank >>=
      fun draft ↦ ofExcept (shape.complete draft)) closeObject).Reads c a rest := by
  have hfuel : bytes.length < c.rest.length + 1 := by
    simp only [hc, List.length_append]
    omega
  have hcontents : (ahead >>= fun n ↦ shape.readFields depth (n + 1) true shape.blank >>=
      fun draft ↦ ofExcept (shape.complete draft)).Reads c a (0x7D :: rest) := by
    rw [reads_ahead_bind]
    exact (reads_readFields hopen hM hmembers hnamed hgathers hfuel hc).bind fun end_ hend ↦
      reads_ofExcept.mpr ⟨complete_eq_ok_iff.mpr hfinish, hend⟩
  obtain ⟨end_, hread, hend⟩ := hcontents
  exact reads_enclosed_iff.mpr ⟨end_, hread, reads_closeObject_iff.mpr ⟨[], blank_nil, hend⟩⟩

theorem exists_of_reads_list
    (hM : ∀ field ∈ shape.fields, field.decoder.Reflects depth (M field))
    (h : (enclosed (shape.readInOrder depth shape.fields 0 true shape.blank >>=
      fun draft ↦ ofExcept (shape.complete draft)) closeList).Reads c a rest) :
    ∃ trees items, IsItems true trees items ∧ shape.Records M (.list trees) a ∧
      c.rest = items ++ 0x5D :: rest := by
  obtain ⟨end_, hcontents, hclose⟩ := reads_enclosed_iff.mp h
  obtain ⟨gap, hgap, hend⟩ := reads_closeList_iff.mp hclose
  obtain ⟨draft, after, hrow, hfinish⟩ := Reads.of_bind ⟨end_, hcontents, rfl⟩
  obtain ⟨hfinish, hafter⟩ := reads_ofExcept.mp hfinish
  rw [hafter, hend] at hrow
  obtain ⟨trees, items, hitems, hgathers, hc⟩ := exists_of_reads_readInOrder hM hgap hrow
  exact ⟨trees, items, hitems,
    ⟨draft, complete_eq_ok_iff.mp hfinish, .inr ⟨trees, rfl, hgathers⟩⟩, hc⟩

theorem reads_list {trees : List Tree} {items : List UInt8}
    (hM : ∀ field ∈ shape.fields, field.decoder.Reflects depth (M field))
    (hitems : IsItems true trees items)
    (hgathers : GathersRow M shape.fields trees shape.blank draft)
    (hfinish : shape.finish draft = .ok a) (hc : c.rest = items ++ 0x5D :: rest) :
    (enclosed (shape.readInOrder depth shape.fields 0 true shape.blank >>=
      fun draft ↦ ofExcept (shape.complete draft)) closeList).Reads c a rest := by
  obtain ⟨gap, hgap, hrow⟩ := exists_reads_readInOrder 0 hM hitems hgathers hc
  have hcontents : (shape.readInOrder depth shape.fields 0 true shape.blank >>=
      fun draft ↦ ofExcept (shape.complete draft)).Reads c a (gap ++ 0x5D :: rest) :=
    hrow.bind fun end_ hend ↦ reads_ofExcept.mpr ⟨complete_eq_ok_iff.mpr hfinish, hend⟩
  obtain ⟨end_, hread, hend⟩ := hcontents
  exact reads_enclosed_iff.mpr ⟨end_, hread, reads_closeList_iff.mpr ⟨gap, hgap, hend⟩⟩

theorem takes_object (hopen : shape.closed = false) (hdepth : 1 < depth)
    (hM : ∀ field ∈ shape.fields, ∀ {tree put}, M field tree put →
      field.decoder.Takes (depth - 1) tree put)
    (hnamed : Named members named) (hgathers : shape.Gathers M named shape.blank draft)
    (hfinish : shape.finish draft = .ok a) :
    shape.decoder.Takes depth (.object members) a where
  reads := by
    rintro c blanks _ rest hblanks hvalue - hc
    cases hvalue with
    | object hmembers =>
        refine reads_placed.mpr (Reads.token hblanks (stops_cons.mpr rfl) hc fun mid hmid ↦ ?_)
        refine (reads_enter_iff.mpr ⟨hdepth, rfl, rfl⟩).bind fun inner hinner ↦ ?_
        exact reads_object hopen hM hmembers hnamed hgathers hfinish (by simp [hinner, hmid])

/-- Records are read from the trees that have one, if other members are passed over. -/
theorem reflects (hopen : shape.closed = false) (hdepth : 1 < depth)
    (hM : ∀ field ∈ shape.fields, field.decoder.Reflects (depth - 1) (M field)) :
    shape.decoder.Reflects depth (shape.Records M) where
  sound := by
    intro c a rest h
    obtain ⟨blanks, mid, b, tail, hblanks, hc, -, hmid, h⟩ :=
      Reads.of_token_cons (reads_placed.mp h) (by simp)
    dsimp only at h
    split_ifs at h with hlist hobject
    · obtain ⟨_, inner, henter, h⟩ := h.of_bind
      obtain ⟨-, rfl, htail⟩ := reads_enter_iff.mp henter
      obtain ⟨trees, items, hitems, hrecord, hinner⟩ := exists_of_reads_list hM h
      rw [hmid, List.tail_cons] at htail
      exact ⟨blanks, _, _, hblanks, .list hitems, hrecord,
        by simp [hc, hmid, hlist, htail, hinner]⟩
    · obtain ⟨_, inner, henter, h⟩ := h.of_bind
      obtain ⟨-, rfl, htail⟩ := reads_enter_iff.mp henter
      obtain ⟨members, bytes, hmembers, hrecord, hinner⟩ := exists_of_reads_object hopen hM h
      rw [hmid, List.tail_cons] at htail
      exact ⟨blanks, _, _, hblanks, .object hmembers, hrecord,
        by simp [hc, hmid, hobject, htail, hinner]⟩
    · exact (Decoder.not_reads_refuseType h).elim
  complete := by
    rintro c a blanks value rest _ hblanks hvalue ⟨draft, hfinish, htree⟩ hends hc
    rcases htree with ⟨members, named, rfl, hnamed, hgathers⟩ | ⟨trees, rfl, hgathers⟩
    · exact (takes_object hopen hdepth (fun field hfield _ _ ↦ (hM field hfield).takes) hnamed
        hgathers hfinish).reads hblanks hvalue hends hc
    · cases hvalue with
      | list hitems =>
          refine reads_placed.mpr (Reads.token hblanks (stops_cons.mpr rfl) hc fun mid hmid ↦ ?_)
          refine (reads_enter_iff.mpr ⟨hdepth, rfl, rfl⟩).bind fun inner hinner ↦ ?_
          exact reads_list hM hitems hgathers hfinish (by simp [hinner, hmid])

end Shape

end TileFetch.Json
