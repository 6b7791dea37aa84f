import TileFetch.Json.Decoder

/-!
# Decoding rows

A row is a list with a fixed number of items.
-/

namespace TileFetch.Json

open Reader

structure RowShape (α β : Type) where
  expected : String
  parts : List (String × Decoder α)
  finish : List α → Except String β

namespace RowShape

variable {α β : Type}

def missing (name : String) : Cause :=
  .refused ("expected " ++ name)

def itemsOfJson : List (String × Decoder α) → Nat → List Json →
    Except Fault (List α × List Json)
  | [], _, items => .ok ([], items)
  | (name, _) :: _, _, [] => .error { cause := missing name }
  | (_, d) :: parts, index, j :: items =>
      match d.ofJson j with
      | .error e => .error (e.inside (.item index))
      | .ok a =>
          match itemsOfJson parts (index + 1) items with
          | .error e => .error e
          | .ok (as, left) => .ok (a :: as, left)

def complete (shape : RowShape α β) (items : List α) : Except Fault β :=
  match shape.finish items with
  | .ok b => .ok b
  | .error reason => .error { cause := .refused reason }

def ofJson (shape : RowShape α β) : Json → Except Fault β
  | .array items => do
      let (as, left) ← itemsOfJson shape.parts 0 items
      let b ← shape.complete as
      if left.isEmpty then .ok b
      else .error { cause := .wrongLength items.length "fewer elements in array" }
  | j => Decoder.wrongType j shape.expected

def readParts (depth : Nat) : List (String × Decoder α) → Nat → Reader (List α)
  | [], _ => return []
  | (name, d) :: parts, index => do
      if ← moreItems (index = 0) then do
        let a ← inside (.item index) (d.read depth)
        return a :: (← readParts depth parts (index + 1))
      else refuse (missing name)

def read (shape : RowShape α β) (depth : Nat) : Reader β := placed do
  match ← peekToken with
  | none => failNext .endInValue
  | some b =>
      if b = 0x5B then do
        let inner ← enter depth
        enclosed (do ofExcept (shape.complete (← readParts inner shape.parts 0))) closeList
      else refuseType shape.expected

def decoder (shape : RowShape α β) : Decoder β where
  ofJson := shape.ofJson
  read := shape.read

end RowShape

end TileFetch.Json
