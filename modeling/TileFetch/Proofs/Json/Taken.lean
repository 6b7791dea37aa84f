import TileFetch.Json.Row
import TileFetch.Proofs.Dict
import TileFetch.Proofs.Json.Records
import TileFetch.Proofs.Json.Written

/-!
# What decoders take

For each decoder the trees that it takes, and what it takes them for.  A record that was written
is read as a draft with its members: `Shape.takes_written`.
-/

namespace TileFetch.Json

open Reader

variable {α β σ : Type} {a : α} {b : β} {c : Cursor} {depth : Nat} {tree : Tree}

namespace Decoder

/-! ## Single values -/

theorem takes_bool (value : Bool) : bool.Takes depth (.bool value) value where
  reads := by
    rintro c blanks _ rest hblanks hvalue - hc
    apply reads_placed.mpr
    cases hvalue with
    | yes =>
        refine Reads.token hblanks (stops_cons.mpr rfl) hc fun mid hmid ↦ ?_
        exact Reads.word hmid fun end_ hend ↦ reads_pure.mpr ⟨rfl, hend⟩
    | no =>
        refine Reads.token hblanks (stops_cons.mpr rfl) hc fun mid hmid ↦ ?_
        exact Reads.word hmid fun end_ hend ↦ reads_pure.mpr ⟨rfl, hend⟩

theorem takes_string (s : String) : string.Takes depth (Json.string s).tree s :=
  reflects_string.takes (isString_tree s)

theorem takes_stringOrNull (s? : Option String) :
    string.option.Takes depth (stringOrNull s?).tree s? := by
  cases s? with
  | none => exact takes_option_none
  | some s => exact (takes_string s).option Tree.noConfusion

theorem takes_natural {bits n : Nat} (hbits : bits ≤ 64) (hn : n < 2 ^ bits) :
    (natural bits).Takes depth (nat n).tree n := by
  have hpow : 2 ^ bits ≤ 2 ^ 64 := Nat.pow_le_pow_right (by decide) hbits
  have hinteger : Tree.IsInteger 0 (2 ^ bits - 1 : Nat) (nat n).tree n :=
    isInteger_tree (by omega) (by omega)
  refine ((reflects_integer (by decide) ?_).takes hinteger).map Int.toNat
  omega

theorem takes_signed {bits : Nat} {i : Int} (hbits : bits ≤ 64)
    (hlow : -(2 ^ (bits - 1) : Nat) ≤ i) (hhigh : i < (2 ^ (bits - 1) : Nat)) :
    (signed bits).Takes depth (int i).tree i := by
  have hpow : 2 ^ (bits - 1) ≤ 2 ^ 63 := Nat.pow_le_pow_right (by decide) (by omega)
  have hinteger : Tree.IsInteger (-(2 ^ (bits - 1) : Nat)) (2 ^ (bits - 1) - 1 : Nat)
      (int i).tree i := isInteger_tree hlow (by omega)
  refine (reflects_integer ?_ ?_).takes hinteger
  · change -2 ^ 63 ≤ -((2 ^ (bits - 1) : Nat) : Int)
    omega
  · change ((2 ^ (bits - 1) - 1 : Nat) : Int) < 2 ^ 64
    omega

theorem Takes.check {d : Decoder α} {f : α → Except String β} (h : d.Takes depth tree a)
    (hf : f a = .ok b) : (d.check f).Takes depth tree b where
  reads hblanks hvalue hends hc := by
    refine (h.reads hblanks hvalue hends hc).bind fun mid hmid ↦ ?_
    rw [hf]
    exact reads_pure.mpr ⟨rfl, hmid⟩

theorem ofJson_check {d : Decoder α} {f : α → Except String β} {j : Json}
    (h : d.ofJson j = .ok a) :
    (d.check f).ofJson j = (f a).mapError fun reason ↦ { cause := .refused reason } := by
  simp only [Decoder.check, h, bind, Except.bind]
  cases f a <;> rfl

theorem Takes.parse_check {d : Decoder α} {f : α → Except String β} {bytes : List UInt8}
    (h : d.Takes nestingLimit tree a) (hdocument : IsDocument tree bytes) :
    (d.check f).parse bytes = (f a).mapError fun reason ↦ { cause := .refused reason } := by
  cases hf : f a with
  | ok b => exact (h.check hf).parse hdocument
  | error reason =>
      obtain ⟨rest, hread, -⟩ := parse_eq_ok_iff.mp (h.parse hdocument)
      obtain ⟨mid, hmid, -⟩ := hread
      have hrefuse : ((d.check f).read nestingLimit) (Cursor.start bytes) =
          (.error { cause := .refused reason }, mid) := by
        refine (bind_eq hmid).trans ?_
        rw [hf]
        rfl
      exact congrArg Prod.fst (bind_eq_error hrefuse)

theorem takes_variant {variants : List (String × α)} {name : String}
    (h : findEntry name variants = some a) :
    (variant variants).Takes depth (Json.string name).tree a where
  reads := by
    rintro c blanks _ rest hblanks hvalue - hc
    cases (hvalue : IsValue (.text (spelling name)) _)
    refine Reads.token hblanks (stops_cons.mpr rfl) hc fun mid hmid ↦ ?_
    refine reads_placed.mpr (reads_advance_bind.mpr ?_)
    have htext : readText.Reads mid.advance name rest :=
      reads_readText_iff.mpr ⟨_, spells_spelling name, by simp [hmid]⟩
    refine htext.bind fun end_ hend ↦ ?_
    rw [variantNamed, h]
    exact reads_pure.mpr ⟨rfl, hend⟩

/-! ## Dictionaries -/

def TakesEntries (d : Decoder α) (depth : Nat) (members : List (List UInt8 × Tree))
    (entries : List (String × α)) : Prop :=
  List.Forall₂ (fun m e ↦ Spells m.1 e.1.toList ∧ d.Takes depth m.2 e.2) members entries

theorem reads_readMembers {d : Decoder α} {first : Bool} {members : List (List UInt8 × Tree)}
    {entries done : List (String × α)} {bytes rest : List UInt8} {fuel : Nat}
    (hmembers : IsMembers first members bytes) (h : d.TakesEntries depth members entries)
    (hfuel : bytes.length < fuel) (hc : c.rest = bytes ++ 0x7D :: rest) :
    (readMembers (d.read depth) fuel first done).Reads c
      (entries.foldl (fun es e ↦ putEntry e.1 e.2 es) done) (0x7D :: rest) := by
  induction fuel generalizing c first done members entries bytes with
  | zero => omega
  | succ fuel ih =>
      rw [readMembers]
      cases hmembers with
      | nil hblanks =>
          cases h
          refine (reads_nextKey_none_iff.mpr ⟨_, rest, hblanks, hc, rfl⟩).bind fun mid hmid ↦ ?_
          exact reads_pure.mpr ⟨rfl, hmid⟩
      | @cons _ lead spelling colon tree value members more hlead hkey hcolon hvalue hmore =>
          obtain _ | @⟨_, ⟨key, a⟩, _, entries, ⟨hspells, htakes⟩, h⟩ := h
          have hc' : c.rest = lead ++ 0x22 :: (spelling ++ 0x22 ::
              (colon ++ (value ++ (more ++ 0x7D :: rest)))) := by simp [hc]
          have hfuel' : more.length < fuel := by
            simp only [List.length_append, List.length_cons] at hfuel
            omega
          refine (reads_nextKey_some_iff.mpr ⟨lead, spelling, hlead, hspells, hc'⟩).bind
            fun mid hmid ↦ ?_
          exact reads_member htakes hcolon hvalue ((hmore.stops rest).endsBefore _) hmid
            fun end_ hend ↦ ih hmore h hfuel' hend

theorem takes_dict {d : Decoder α} {members : List (List UInt8 × Tree)} (entries : Dict α)
    (hdepth : 1 < depth) (h : d.TakesEntries (depth - 1) members entries.entries) :
    (dict d).Takes depth (.object members) entries := by
  rw [← Dict.ofPairs_entries entries]
  refine Takes.map (Takes.mk ?_) Dict.ofPairs
  rintro c blanks _ rest hblanks hvalue - hc
  cases hvalue with
  | @object _ bytes hmembers =>
      refine reads_placed.mpr (Reads.token hblanks (stops_cons.mpr rfl) hc fun mid hmid ↦ ?_)
      refine (reads_enter_iff.mpr ⟨hdepth, rfl, rfl⟩).bind fun inner hinner ↦ ?_
      have hrest : inner.rest = bytes ++ 0x7D :: rest := by simp [hinner, hmid]
      have hfuel : bytes.length < inner.rest.length + 1 := by
        simp only [hrest, List.length_append]
        omega
      have hread : (ahead >>= fun n ↦ readMembers (d.read (depth - 1)) (n + 1) true []).Reads inner
          entries.entries (0x7D :: rest) := by
        rw [reads_ahead_bind, ← Dict.foldl_putEntry_of_ordered entries.ordered]
        exact reads_readMembers hmembers h hfuel hrest
      obtain ⟨end_, hread, hend⟩ := hread
      exact reads_enclosed_iff.mpr
        ⟨end_, hread, reads_closeObject_iff.mpr ⟨[], blank_nil, hend⟩⟩

theorem takes_texts (texts : Dict String) (hdepth : 1 < depth) :
    (dict string).Takes depth (ofTexts texts).tree texts := by
  refine takes_dict texts hdepth ?_
  induction texts.entries with
  | nil => exact .nil
  | cons e entries ih => exact .cons ⟨spells_spelling e.1, takes_string e.2⟩ ih

end Decoder

/-! ## Records and rows -/

theorem named_memberTrees (members : List (String × Json)) :
    Named (memberTrees members) (members.map fun m ↦ (m.1, m.2.tree)) := by
  induction members with
  | nil => exact .nil
  | cons m members ih => exact .cons ⟨spells_spelling m.1, rfl⟩ ih

/-- What is written of a record is read as a draft with its members. -/
theorem Shape.takes_written {shape : Shape σ α} {members : List (String × Json)} (draft : σ)
    (hopen : shape.closed = false) (hdepth : 1 < depth)
    (hgathers : shape.Gathers (fun field tree put ↦ field.decoder.Takes (depth - 1) tree put)
      (members.map fun m ↦ (m.1, m.2.tree)) shape.blank draft)
    (hfinish : shape.finish draft = .ok a) :
    shape.decoder.Takes depth (Json.object members).tree a :=
  takes_object hopen hdepth (fun _ _ _ _ htakes ↦ htakes) (named_memberTrees members) hgathers
    hfinish

namespace RowShape

inductive TakesParts (depth : Nat) : List (String × Decoder α) → List Tree → List α → Prop
  | nil : TakesParts depth [] [] []
  | cons {name d parts tree trees a as} : d.Takes depth tree a → TakesParts depth parts trees as →
      TakesParts depth ((name, d) :: parts) (tree :: trees) (a :: as)

theorem exists_reads_readParts {parts : List (String × Decoder α)} {trees : List Tree}
    {as : List α} (index : Nat) {items rest : List UInt8} (h : TakesParts depth parts trees as)
    (hitems : IsItems (index = 0) trees items) (hc : c.rest = items ++ 0x5D :: rest) :
    ∃ blanks, Blank blanks ∧
      (readParts depth parts index).Reads c as (blanks ++ 0x5D :: rest) := by
  induction h generalizing c index items with
  | nil =>
      cases hitems with
      | nil hblanks => exact ⟨_, hblanks, reads_pure.mpr ⟨rfl, hc⟩⟩
  | @cons name d parts tree trees a as htakes _ ih =>
      cases hitems with
      | @cons _ lead _ value _ more hlead hvalue hitems =>
          simp only [List.append_assoc] at hc
          have hbegin := hvalue.stops (more ++ 0x5D :: rest)
          obtain ⟨b, tail, hb, hend⟩ := hvalue.exists_cons_ne (more ++ 0x5D :: rest)
          obtain ⟨mid, hmore, hmid⟩ :=
            reads_moreItems_iff.mpr ⟨lead, b, tail, hlead, hc, hbegin, hb, hend⟩
          have hread : (inside (.item index) (d.read depth)).Reads mid a (more ++ 0x5D :: rest) :=
            reads_inside.mpr
              (htakes.reads blank_nil hvalue ((hitems.stops rest).endsBefore _) hmid)
          obtain ⟨after, hread, hafter⟩ := hread
          obtain ⟨gap, hgap, hrow⟩ := ih (index + 1) (by simpa using hitems) hafter
          refine ⟨gap, hgap, (reads_bind_of_eq hmore).mpr ?_⟩
          rw [if_pos rfl]
          refine (reads_bind_of_eq hread).mpr (hrow.bind fun end_ hend ↦ ?_)
          exact reads_pure.mpr ⟨rfl, hend⟩

theorem takes_list {shape : RowShape α β} {trees : List Tree} {as : List α} (hdepth : 1 < depth)
    (h : TakesParts (depth - 1) shape.parts trees as) (hfinish : shape.finish as = .ok b) :
    shape.decoder.Takes depth (.list trees) b where
  reads := by
    rintro c blanks _ rest hblanks hvalue - hc
    cases hvalue with
    | @list _ items hitems =>
        refine reads_placed.mpr (Reads.token hblanks (stops_cons.mpr rfl) hc fun mid hmid ↦ ?_)
        refine (reads_enter_iff.mpr ⟨hdepth, rfl, rfl⟩).bind fun inner hinner ↦ ?_
        have hrest : inner.rest = items ++ 0x5D :: rest := by simp [hinner, hmid]
        obtain ⟨gap, hgap, hread⟩ := exists_reads_readParts 0 h hitems hrest
        have hcomplete : shape.complete as = .ok b := by rw [complete, hfinish]
        obtain ⟨end_, hcontents, hend⟩ := hread.bind (f := fun as ↦ ofExcept (shape.complete as))
          fun end_ hend ↦ reads_ofExcept.mpr ⟨hcomplete, hend⟩
        exact reads_enclosed_iff.mpr ⟨end_, hcontents, reads_closeList_iff.mpr ⟨gap, hgap, hend⟩⟩

end RowShape

end TileFetch.Json
