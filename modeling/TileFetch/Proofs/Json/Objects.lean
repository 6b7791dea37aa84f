import TileFetch.Proofs.Dict
import TileFetch.Proofs.Json.Records

/-!
# Records of JSON values

A record that allows nothing but its fields is read from an object exactly if the keys of the object
are names of fields and each field that is there has a value that it can have.  The draft of such a
record consists of cells, one for each field; what ends in a cell depends on the member of its name
only: `Shape.Consists.ofJson_eq_ok_iff`.
-/

namespace TileFetch.Json

/-! ## Texts -/

def textMembers (texts : List (String × String)) : List (String × Json) :=
  texts.map fun e ↦ (e.1, .string e.2)

namespace Decoder

variable {j : Json} {s : String} {members : List (String × Json)}

@[simp] theorem ofJson_string_eq_ok_iff : string.ofJson j = .ok s ↔ j = .string s := by
  cases j <;> simp [string, wrongType]

@[simp] theorem ofJson_option_string_eq_ok_iff {value : Option String} :
    (option string).ofJson j = .ok value ↔
      j = .null ∧ value = none ∨ ∃ s, j = .string s ∧ value = some s := by
  cases j <;> simp [option, string, wrongType, Except.map, @eq_comm _ value]

theorem membersOfJson_string_eq_ok_iff {done result : List (String × String)} :
    membersOfJson string members done = .ok result ↔
      ∃ texts, members = textMembers texts ∧
        result = texts.foldl (fun es e ↦ putEntry e.1 e.2 es) done := by
  induction members generalizing done with
  | nil => simp [membersOfJson, textMembers, @eq_comm _ done]
  | cons m members ih =>
      obtain ⟨key, j⟩ := m
      rw [membersOfJson]
      constructor
      · intro h
        cases htext : string.ofJson j with
        | error fault => simp [htext] at h
        | ok s =>
            obtain rfl := ofJson_string_eq_ok_iff.mp htext
            obtain ⟨texts, rfl, rfl⟩ := ih.mp (by simpa [htext] using h)
            exact ⟨(key, s) :: texts, rfl, rfl⟩
      · rintro ⟨texts, htexts, rfl⟩
        cases texts with
        | nil => simp [textMembers] at htexts
        | cons text texts =>
            obtain ⟨⟨rfl, rfl⟩, rfl⟩ : (key = text.1 ∧ j = .string text.2) ∧
                members = textMembers texts := by simpa [textMembers] using htexts
            exact ih.mpr ⟨texts, rfl, rfl⟩

/-- A dictionary of texts is read from an object of texts; of two with one key the later wins. -/
@[simp] theorem ofJson_dict_string_eq_ok_iff {texts : Dict String} :
    (dict string).ofJson j = .ok texts ↔ ∃ entries,
      j = .object (textMembers entries) ∧ texts = .ofPairs entries := by
  have hmap : (dict string).ofJson j = .ok texts ↔
      ∃ entries, (Decoder.entries string).ofJson j = .ok entries ∧ .ofPairs entries = texts := by
    cases h : (Decoder.entries string).ofJson j <;> simp [dict, map, h, Except.map]
  rw [hmap]
  cases j with
  | object members =>
      have hentries : ∀ pairs : List (String × String),
          Dict.ofPairs (pairs.foldl (fun es e ↦ putEntry e.1 e.2 es) []) = .ofPairs pairs :=
        fun pairs ↦ Dict.entries_ofPairs pairs ▸ Dict.ofPairs_entries _
      simp only [Decoder.entries, membersOfJson_string_eq_ok_iff, Json.object.injEq]
      constructor
      · rintro ⟨_, ⟨pairs, rfl, rfl⟩, rfl⟩
        exact ⟨pairs, rfl, hentries pairs⟩
      · rintro ⟨pairs, rfl, rfl⟩
        exact ⟨_, ⟨pairs, rfl, rfl⟩, hentries pairs⟩
  | _ => simp [Decoder.entries, wrongType]

end Decoder

/-! ## Fields -/

structure Cell (σ : Type) where
  {β : Type}
  name : String
  get : σ → Option β
  put : σ → Option β → σ
  omissible : Bool
  decoder : Decoder β

def Cell.field {σ : Type} (cell : Cell σ) : Field σ :=
  .of cell.name cell.get cell.put cell.omissible cell.decoder

/-- What is read from a member that may be missing; then the value stays what it was. -/
def Decoder.Fills {β : Type} (d : Decoder β) (before : Option β) : Option Json → Option β → Prop
  | none, after => after = before
  | some j, after => ∃ b, d.ofJson j = .ok b ∧ after = some b

namespace Shape

variable {σ α : Type} {shape : Shape σ α} {cells : List (Cell σ)} {cell other : Cell σ}
  {members : List (String × Json)} {draft result : σ} {key : String} {j : Json} {a : α}

/-- A draft consists of cells, one for each field, and nothing but fields is allowed. -/
structure Consists (shape : Shape σ α) (cells : List (Cell σ)) : Prop where
  closed : shape.closed = true
  fields_eq : shape.fields = cells.map Cell.field
  names_nodup : (cells.map Cell.name).Nodup
  get_put : ∀ cell ∈ cells, ∀ draft value, cell.get (cell.put draft value) = value
  get_put_of_ne : ∀ cell ∈ cells, ∀ other ∈ cells, cell.name ≠ other.name →
    ∀ draft value, cell.get (other.put draft value) = cell.get draft
  ext : ∀ draft draft', (∀ cell ∈ cells, cell.get draft = cell.get draft') → draft = draft'
  blank : ∀ cell ∈ cells, cell.get shape.blank = none

namespace Consists

theorem eq_of_name_eq (h : shape.Consists cells) (hcell : cell ∈ cells) (hother : other ∈ cells)
    (hname : cell.name = other.name) : cell = other :=
  List.inj_on_of_nodup_map h.names_nodup hcell hother hname

theorem field?_eq_some_iff (h : shape.Consists cells) {field : Field σ} :
    shape.field? key = some field ↔ ∃ cell ∈ cells, cell.name = key ∧ cell.field = field := by
  rw [field?, h.fields_eq]
  constructor
  · intro hfield
    have hname := List.find?_some hfield
    obtain ⟨cell, hcell, rfl⟩ := List.mem_map.mp (List.mem_of_find?_eq_some hfield)
    exact ⟨cell, hcell, of_decide_eq_true hname, rfl⟩
  · rintro ⟨cell, hcell, rfl, rfl⟩
    have hfound : ((cells.map Cell.field).find? (·.name = cell.name)).isSome = true := by
      simp only [List.find?_isSome, List.mem_map]
      exact ⟨cell.field, ⟨cell, hcell, rfl⟩, decide_eq_true rfl⟩
    obtain ⟨field, hfield⟩ := Option.isSome_iff_exists.mp hfound
    have hname := List.find?_some hfield
    obtain ⟨other, hother, rfl⟩ := List.mem_map.mp (List.mem_of_find?_eq_some hfield)
    rw [hfield, h.eq_of_name_eq hother hcell (of_decide_eq_true hname)]

/-- The first member is a field that has not been seen, and its value is kept. -/
theorem gather_cons_eq_ok_iff (h : shape.Consists cells) :
    shape.gather ((key, j) :: members) draft = .ok result ↔
      ∃ cell ∈ cells, cell.name = key ∧ cell.get draft = none ∧ ∃ b,
        cell.decoder.ofJson j = .ok b ∧
          shape.gather members (cell.put draft (some b)) = .ok result := by
  rw [gather]
  cases hfield : shape.field? key with
  | none =>
      have hnot : ∀ cell ∈ cells, cell.name ≠ key := by
        intro cell hcell hname
        have hsome := h.field?_eq_some_iff.mpr ⟨cell, hcell, hname, rfl⟩
        simp [hfield] at hsome
      simp only [h.closed, if_true, reduceCtorEq, false_iff]
      rintro ⟨cell, hcell, hname, -⟩
      exact hnot cell hcell hname
  | some field =>
      obtain ⟨cell, hcell, rfl, rfl⟩ := h.field?_eq_some_iff.mp hfield
      have honly : ∀ other ∈ cells, other.name = cell.name → other = cell :=
        fun other hother hname ↦ h.eq_of_name_eq hother hcell hname
      constructor
      · intro hgather
        cases hseen : cell.get draft with
        | some b => simp [Cell.field, Field.of, hseen] at hgather
        | none =>
            cases hb : cell.decoder.ofJson j with
            | error fault =>
                simp [Cell.field, Field.of, Decoder.map, hseen, hb, Except.map] at hgather
            | ok b =>
                refine ⟨cell, hcell, rfl, hseen, b, hb, ?_⟩
                simpa [Cell.field, Field.of, Decoder.map, hseen, hb, Except.map] using hgather
      · rintro ⟨other, hother, hname, hseen, b, hb, hgather⟩
        obtain rfl := honly other hother hname
        simpa [Cell.field, Field.of, Decoder.map, hseen, hb, Except.map] using hgather

/-- The first member fills its own cell, and the others fill theirs as before. -/
theorem fills_cons_iff (h : shape.Consists cells) (hcell : cell ∈ cells)
    (hnot : cell.name ∉ members.map (·.1)) :
    (∀ other ∈ cells, other.decoder.Fills (other.get draft)
        (findEntry other.name ((cell.name, j) :: members)) (other.get result)) ↔
      ∃ b, cell.decoder.ofJson j = .ok b ∧ ∀ other ∈ cells,
        other.decoder.Fills (other.get (cell.put draft (some b)))
          (findEntry other.name members) (other.get result) := by
  have hmissing := findEntry_eq_none_iff.mpr hnot
  constructor
  · intro hfills
    obtain ⟨b, hb, hresult⟩ : ∃ b, cell.decoder.ofJson j = .ok b ∧ cell.get result = some b := by
      simpa [findEntry, Decoder.Fills] using hfills cell hcell
    refine ⟨b, hb, fun other hother ↦ ?_⟩
    by_cases hname : other.name = cell.name
    · obtain rfl := h.eq_of_name_eq hother hcell hname
      rw [hmissing, h.get_put other hother, hresult, Decoder.Fills]
    · rw [h.get_put_of_ne other hother cell hcell hname]
      simpa [findEntry, hname] using hfills other hother
  · rintro ⟨b, hb, hfills⟩ other hother
    have hother' := hfills other hother
    by_cases hname : other.name = cell.name
    · obtain rfl := h.eq_of_name_eq hother hcell hname
      rw [hmissing, h.get_put other hother] at hother'
      simpa [findEntry, Decoder.Fills] using ⟨b, hb, hother'⟩
    · rw [h.get_put_of_ne other hother cell hcell hname] at hother'
      simpa [findEntry, hname] using hother'

theorem gather_draft_eq_ok_iff (h : shape.Consists cells) (hkeys : (members.map (·.1)).Nodup) :
    shape.gather members draft = .ok result ↔
      (∀ key ∈ members.map (·.1), ∃ cell ∈ cells, cell.name = key ∧ cell.get draft = none) ∧
        ∀ cell ∈ cells, cell.decoder.Fills (cell.get draft) (findEntry cell.name members)
          (cell.get result) := by
  induction members generalizing draft with
  | nil =>
      simp only [gather, Except.ok.injEq, List.map_nil, List.not_mem_nil, false_implies,
        implies_true, true_and, findEntry, Decoder.Fills]
      constructor
      · rintro rfl cell -
        rfl
      · exact fun hsame ↦ (h.ext _ _ hsame).symm
  | cons m members ih =>
      obtain ⟨key, j⟩ := m
      obtain ⟨hnot, hlater⟩ := List.nodup_cons.mp hkeys
      rw [h.gather_cons_eq_ok_iff, List.map_cons, List.forall_mem_cons]
      constructor
      · rintro ⟨cell, hcell, rfl, hseen, b, hb, hgather⟩
        obtain ⟨hmore, hfills⟩ := (ih hlater).mp hgather
        refine ⟨⟨⟨cell, hcell, rfl, hseen⟩, fun key hkey ↦ ?_⟩,
          (h.fills_cons_iff hcell hnot).mpr ⟨b, hb, hfills⟩⟩
        obtain ⟨other, hother, rfl, hunseen⟩ := hmore key hkey
        have hne : other.name ≠ cell.name := fun heq ↦ hnot (heq ▸ hkey)
        rw [h.get_put_of_ne other hother cell hcell hne] at hunseen
        exact ⟨other, hother, rfl, hunseen⟩
      · rintro ⟨⟨⟨cell, hcell, rfl, hseen⟩, hmore⟩, hfills⟩
        obtain ⟨b, hb, hfills⟩ := (h.fills_cons_iff hcell hnot).mp hfills
        refine ⟨cell, hcell, rfl, hseen, b, hb, (ih hlater).mpr ⟨fun key hkey ↦ ?_, hfills⟩⟩
        obtain ⟨other, hother, rfl, hunseen⟩ := hmore key hkey
        have hne : other.name ≠ cell.name := fun heq ↦ hnot (heq ▸ hkey)
        rw [← h.get_put_of_ne other hother cell hcell hne] at hunseen
        exact ⟨other, hother, rfl, hunseen⟩

/-- An object is gathered exactly if its keys are names of fields; then each field has what the
member of its name says. -/
theorem gather_eq_ok_iff (h : shape.Consists cells) (hkeys : (members.map (·.1)).Nodup) :
    shape.gather members shape.blank = .ok result ↔
      (∀ key ∈ members.map (·.1), key ∈ cells.map Cell.name) ∧
        ∀ cell ∈ cells, cell.decoder.Fills none (findEntry cell.name members)
          (cell.get result) := by
  rw [h.gather_draft_eq_ok_iff hkeys]
  apply and_congr
  · refine forall₂_congr fun key _ ↦ ?_
    simp only [List.mem_map]
    refine exists_congr fun cell ↦ ⟨fun hcell ↦ ⟨hcell.1, hcell.2.1⟩, fun hcell ↦ ?_⟩
    exact ⟨hcell.1, hcell.2, h.blank cell hcell.1⟩
  · exact forall₂_congr fun cell hcell ↦ by rw [h.blank cell hcell]

theorem ofJson_eq_ok_iff (h : shape.Consists cells) (hkeys : (members.map (·.1)).Nodup) :
    shape.ofJson (.object members) = .ok a ↔
      (∀ key ∈ members.map (·.1), key ∈ cells.map Cell.name) ∧
        ∃ draft, shape.finish draft = .ok a ∧ ∀ cell ∈ cells,
          cell.decoder.Fills none (findEntry cell.name members) (cell.get draft) := by
  have hofJson : shape.ofJson (.object members) = .ok a ↔
      ∃ draft, shape.gather members shape.blank = .ok draft ∧ shape.finish draft = .ok a := by
    simp only [ofJson, ← complete_eq_ok_iff]
    cases shape.gather members shape.blank <;> simp [bind, Except.bind]
  simp only [hofJson, h.gather_eq_ok_iff hkeys]
  constructor
  · rintro ⟨draft, ⟨hnames, hfills⟩, hfinish⟩
    exact ⟨hnames, draft, hfinish, hfills⟩
  · rintro ⟨hnames, draft, hfinish, hfills⟩
    exact ⟨draft, ⟨hnames, hfills⟩, hfinish⟩

end Consists

end Shape

end TileFetch.Json
