import TileFetch.Json.Record
import TileFetch.Proofs.Json.Records

/-!
# What decoders yield

Properties that all values of a decoder have, whether they come from a JSON value or from text.
The values of a record have those that its fields establish in the draft: `Shape.yields`.
-/

namespace TileFetch.Json

open Reader

variable {α β σ : Type} {a : α} {c : Cursor} {depth : Nat} {rest : List UInt8}

theorem exists_of_bind_eq_ok {ε : Type} {x : Except ε α} {f : α → Except ε β} {b : β}
    (h : (x >>= f) = .ok b) : ∃ a, x = .ok a ∧ f a = .ok b := by
  cases x with
  | error e => cases h
  | ok a => exact ⟨a, rfl, h⟩

structure Decoder.Yields (d : Decoder α) (P : α → Prop) : Prop where
  ofJson {j : Json} {a : α} : d.ofJson j = .ok a → P a
  read {depth : Nat} {c : Cursor} {a : α} {rest : List UInt8} :
    (d.read depth).Reads c a rest → P a

namespace Decoder

variable {d : Decoder α} {P : α → Prop}

theorem Yields.of_forall (h : ∀ a, P a) : d.Yields P :=
  ⟨fun _ ↦ h _, fun _ ↦ h _⟩

theorem Yields.parse {bytes : List UInt8} (h : d.Yields P) (hparse : d.parse bytes = .ok a) :
    P a := by
  obtain ⟨rest, hread, -⟩ := parse_eq_ok_iff.mp hparse
  exact h.read hread

theorem Yields.map {Q : β → Prop} {f : α → β} (h : d.Yields P) (hf : ∀ a, P a → Q (f a)) :
    (d.map f).Yields Q where
  ofJson {j b} hj := by
    obtain ⟨a, ha, hb⟩ := exists_of_bind_eq_ok (x := d.ofJson j) (f := fun a ↦ .ok (f a)) hj
    obtain rfl := Except.ok.inj hb
    exact hf a (h.ofJson ha)
  read hread := by
    obtain ⟨a, mid, hd, hread⟩ := Reads.of_bind hread
    obtain ⟨rfl, -⟩ := reads_pure.mp hread
    exact hf a (h.read hd)

theorem yields_number {expected : String} {accept : Number → Except Cause α}
    (h : ∀ n a, accept n = .ok a → P a) : (number expected accept).Yields P where
  ofJson {j a} hj := by
    cases j with
    | number n =>
        simp only [number] at hj
        split at hj
        · rename_i haccept
          exact Except.ok.inj hj ▸ h n _ haccept
        · simp at hj
    | _ => simp [number, wrongType] at hj
  read hread := by
    obtain ⟨_, _, n, _, _, _, haccept, _⟩ := exists_of_reads_number hread
    exact h n _ haccept

theorem yields_integer {expected : String} {lowest highest : Int} :
    (integer expected lowest highest).Yields fun i ↦ lowest ≤ i ∧ i ≤ highest :=
  yields_number fun n i haccept ↦ by
    cases n with
    | real x => simp at haccept
    | int j =>
        dsimp only at haccept
        split_ifs at haccept with hrange
        obtain rfl := Except.ok.inj haccept
        simpa using hrange

theorem yields_natural {bits : Nat} : (natural bits).Yields (· < 2 ^ bits) :=
  yields_integer.map fun i hi ↦ by
    have hpos : 0 < 2 ^ bits := Nat.two_pow_pos bits
    have hhigh : i ≤ ((2 ^ bits - 1 : Nat) : Int) := hi.2
    omega

end Decoder

namespace Shape

variable {shape : Shape σ α} {I : σ → Prop} {P : α → Prop} {draft result : σ}

def Keeps (I : σ → Prop) (field : Field σ) : Prop :=
  field.decoder.Yields fun put ↦ ∀ draft, I draft → I (put draft)

theorem keeps_gather (hkeeps : ∀ field ∈ shape.fields, Keeps I field)
    {members : List (String × Json)} (hdraft : I draft)
    (h : shape.gather members draft = .ok result) : I result := by
  induction members generalizing draft with
  | nil => exact Except.ok.inj h ▸ hdraft
  | cons m members ih =>
      rw [gather] at h
      cases hfield : shape.field? m.1 with
      | none =>
          rw [hfield] at h
          dsimp only at h
          split_ifs at h
          exact ih hdraft h
      | some field =>
          rw [hfield] at h
          dsimp only at h
          split_ifs at h
          split at h
          · simp at h
          · rename_i put hput
            exact ih ((hkeeps field (List.mem_of_find?_eq_some hfield)).ofJson hput _ hdraft) h

theorem keeps_gatherItems {fields : List (Field σ)} (hkeeps : ∀ field ∈ fields, Keeps I field)
    {index : Nat} {items left : List Json} (hdraft : I draft)
    (h : shape.gatherItems fields index items draft = .ok (result, left)) : I result := by
  induction fields generalizing draft index items with
  | nil =>
      obtain ⟨rfl, -⟩ := Prod.mk.inj (Except.ok.inj h)
      exact hdraft
  | cons field fields ih =>
      obtain ⟨hfield, hfields⟩ := List.forall_mem_cons.mp hkeeps
      cases items with
      | nil =>
          rw [gatherItems] at h
          split_ifs at h
          exact ih hfields hdraft h
      | cons j items =>
          rw [gatherItems] at h
          split at h
          · simp at h
          · rename_i put hput
            exact ih hfields (hfield.ofJson hput _ hdraft) h

theorem keeps_readFields (hkeeps : ∀ field ∈ shape.fields, Keeps I field) {fuel : Nat}
    {first : Bool} (hdraft : I draft)
    (h : (shape.readFields depth fuel first draft).Reads c result rest) : I result := by
  induction fuel generalizing c first draft with
  | zero => simp [readFields] at h
  | succ fuel ih =>
      obtain ⟨key?, mid, -, h⟩ := Reads.of_bind h
      cases key? with
      | none =>
          obtain ⟨rfl, -⟩ := reads_pure.mp h
          exact hdraft
      | some key =>
          dsimp only at h
          cases hfield : shape.field? key with
          | none =>
              rw [hfield] at h
              dsimp only at h
              split_ifs at h
              · simp at h
              · obtain ⟨_, _, -, h⟩ := Reads.of_bind h
                obtain ⟨_, _, -, h⟩ := Reads.of_bind h
                exact ih hdraft h
          | some field =>
              rw [hfield] at h
              dsimp only at h
              split_ifs at h
              · simp at h
              · obtain ⟨_, _, -, h⟩ := Reads.of_bind h
                obtain ⟨put, _, hput, h⟩ := Reads.of_bind h
                have hkeep := hkeeps field (List.mem_of_find?_eq_some hfield)
                exact ih (hkeep.read (reads_inside.mp hput) _ hdraft) h

theorem keeps_readInOrder {fields : List (Field σ)} (hkeeps : ∀ field ∈ fields, Keeps I field)
    {index : Nat} {first : Bool} (hdraft : I draft)
    (h : (shape.readInOrder depth fields index first draft).Reads c result rest) : I result := by
  induction fields generalizing c first index draft with
  | nil =>
      obtain ⟨rfl, -⟩ := reads_pure.mp h
      exact hdraft
  | cons field fields ih =>
      obtain ⟨hfield, hfields⟩ := List.forall_mem_cons.mp hkeeps
      obtain ⟨more, mid, -, h⟩ := Reads.of_bind h
      split_ifs at h
      · obtain ⟨put, _, hput, h⟩ := Reads.of_bind h
        exact ih hfields (hfield.read (reads_inside.mp hput) _ hdraft) h
      · exact ih hfields hdraft h
      · simp at h

/-- What holds of the blank draft and is kept by the fields holds of every draft that is
completed. -/
theorem yields (hkeeps : ∀ field ∈ shape.fields, Keeps I field) (hblank : I shape.blank)
    (hfinish : ∀ draft a, I draft → shape.finish draft = .ok a → P a) :
    shape.decoder.Yields P where
  ofJson {j a} h := by
    cases j with
    | object members =>
        obtain ⟨draft, hgather, hcomplete⟩ := exists_of_bind_eq_ok h
        exact hfinish draft a (keeps_gather hkeeps hblank hgather) (complete_eq_ok_iff.mp hcomplete)
    | array items =>
        obtain ⟨⟨draft, left⟩, hgather, h⟩ := exists_of_bind_eq_ok h
        obtain ⟨b, hcomplete, h⟩ := exists_of_bind_eq_ok h
        split_ifs at h
        obtain rfl := Except.ok.inj h
        exact hfinish draft b (keeps_gatherItems hkeeps hblank hgather)
          (complete_eq_ok_iff.mp hcomplete)
    | _ => simp [decoder, Shape.ofJson, Decoder.wrongType] at h
  read {depth c a rest} h := by
    obtain ⟨blanks, mid, b, tail, -, -, -, -, h⟩ :=
      Reads.of_token_cons (reads_placed.mp h) (by simp)
    dsimp only at h
    split_ifs at h
    · obtain ⟨_, inner, -, h⟩ := h.of_bind
      obtain ⟨end_, hcontents, -⟩ := reads_enclosed_iff.mp h
      obtain ⟨draft, after, hrow, hcomplete⟩ := Reads.of_bind ⟨end_, hcontents, rfl⟩
      exact hfinish draft a (keeps_readInOrder hkeeps hblank hrow)
        (complete_eq_ok_iff.mp (reads_ofExcept.mp hcomplete).1)
    · obtain ⟨_, inner, -, h⟩ := h.of_bind
      obtain ⟨end_, hcontents, -⟩ := reads_enclosed_iff.mp h
      obtain ⟨draft, after, hfields, hcomplete⟩ :=
        Reads.of_bind (reads_ahead_bind.mp ⟨end_, hcontents, rfl⟩)
      exact hfinish draft a (keeps_readFields hkeeps hblank hfields)
        (complete_eq_ok_iff.mp (reads_ofExcept.mp hcomplete).1)
    · exact (Decoder.not_reads_refuseType h).elim

end Shape

end TileFetch.Json
