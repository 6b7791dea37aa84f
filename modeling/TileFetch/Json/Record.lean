import TileFetch.Json.Decoder

/-!
# Decoding records

A record is an object whose members are its fields, in any order, or a list of its
fields in their own order.  Fields are gathered in a draft; once the document ends
the draft is turned into a value, or the first field that is missing is reported.
-/

namespace TileFetch.Json

open Reader

/-- One field of a record that is gathered in drafts of type `σ`. -/
structure Field (σ : Type) where
  name : String
  seen : σ → Bool
  /-- May the field be absent from the end of a list? -/
  omissible : Bool
  decoder : Decoder (σ → σ)

def Field.of {σ α : Type} (name : String) (get : σ → Option α)
    (put : σ → Option α → σ) (omissible : Bool) (d : Decoder α) : Field σ where
  name
  seen s := (get s).isSome
  omissible
  decoder := d.map fun a s ↦ put s (some a)

structure Shape (σ α : Type) where
  expected : String
  fields : List (Field σ)
  /-- Are members with other keys refused, or passed over? -/
  closed : Bool
  blank : σ
  /-- The value of a draft, or the name of a field that is missing. -/
  finish : σ → Except String α

def required {α : Type} (name : String) : Option α → Except String α
  | none => .error name
  | some a => .ok a

namespace Shape

variable {σ α : Type}

def field? (shape : Shape σ α) (key : String) : Option (Field σ) :=
  shape.fields.find? (·.name = key)

def complete (shape : Shape σ α) (draft : σ) : Except Fault α :=
  match shape.finish draft with
  | .ok a => .ok a
  | .error name => .error { cause := .missingField name }

def tooShort (shape : Shape σ α) (index : Nat) : Cause :=
  let count := shape.fields.length
  .wrongLength index
    (shape.expected ++ " with " ++ toString count ++
      (if count = 1 then " element" else " elements"))

/-! ## From JSON values -/

def gather (shape : Shape σ α) : List (String × Json) → σ → Except Fault σ
  | [], draft => .ok draft
  | (key, j) :: rest, draft =>
      match shape.field? key with
      | none =>
          if shape.closed then
            .error { cause := .unknownField key (shape.fields.map (·.name)),
                     path := [.member key] }
          else gather shape rest draft
      | some field =>
          if field.seen draft then .error { cause := .duplicateField key }
          else
            match field.decoder.ofJson j with
            | .error e => .error (e.inside (.member key))
            | .ok put => gather shape rest (put draft)

/-- Gathers the items of a list into the fields from `index` on, and yields the
items that are left. -/
def gatherItems (shape : Shape σ α) :
    List (Field σ) → Nat → List Json → σ → Except Fault (σ × List Json)
  | [], _, items, draft => .ok (draft, items)
  | field :: fields, index, [], draft =>
      if field.omissible then gatherItems shape fields (index + 1) [] draft
      else .error { cause := shape.tooShort index }
  | field :: fields, index, j :: items, draft =>
      match field.decoder.ofJson j with
      | .error e => .error (e.inside (.item index))
      | .ok put => gatherItems shape fields (index + 1) items (put draft)

def ofJson (shape : Shape σ α) : Json → Except Fault α
  | .object members => do shape.complete (← shape.gather members shape.blank)
  | .array items => do
      let (draft, left) ← shape.gatherItems shape.fields 0 items shape.blank
      let a ← shape.complete draft
      if left.isEmpty then .ok a
      else .error { cause := .wrongLength items.length "fewer elements in array" }
  | j => Decoder.wrongType j shape.expected

/-! ## From text -/

def readFields (shape : Shape σ α) (depth : Nat) : Nat → Bool → σ → Reader σ
  | 0, _, _ => failHere .endInObject
  | fuel + 1, first, draft => do
      match ← nextKey first with
      | none => return draft
      | some key =>
          match shape.field? key with
          | none =>
              if shape.closed then
                fail { cause := .unknownField key (shape.fields.map (·.name)),
                       path := [.member key] }
              else do
                readColon
                inside (.member key) (Decoder.ignored.read depth)
                readFields shape depth fuel false draft
          | some field =>
              if field.seen draft then refuse (.duplicateField key)
              else do
                readColon
                let put ← inside (.member key) (field.decoder.read depth)
                readFields shape depth fuel false (put draft)

def readInOrder (shape : Shape σ α) (depth : Nat) :
    List (Field σ) → Nat → Bool → σ → Reader σ
  | [], _, _, draft => return draft
  | field :: fields, index, first, draft => do
      if ← moreItems first then do
        let put ← inside (.item index) (field.decoder.read depth)
        readInOrder shape depth fields (index + 1) false (put draft)
      else if field.omissible then readInOrder shape depth fields (index + 1) first draft
      else refuse (shape.tooShort index)

def read (shape : Shape σ α) (depth : Nat) : Reader α := placed do
  match ← peekToken with
  | none => failNext .endInValue
  | some b =>
      if b = 0x5B then do
        let inner ← enter depth
        enclosed
          (do ofExcept (shape.complete (← readInOrder shape inner shape.fields 0 true shape.blank)))
          closeList
      else if b = 0x7B then do
        let inner ← enter depth
        enclosed
          (do ofExcept (shape.complete
                (← readFields shape inner ((← ahead) + 1) true shape.blank)))
          closeObject
      else refuseType shape.expected

def decoder (shape : Shape σ α) : Decoder α where
  ofJson := shape.ofJson
  read := shape.read

end Shape

end TileFetch.Json
