import TileFetch.Domain.MappingTable
import TileFetch.Text.Table

/-!
# Mapping of characters

The preparation of a domain name, character by character: capital letters become small,
compatibility forms become plain characters, some characters are dropped and some are
refused.
-/

namespace TileFetch.Domain

inductive Mapping where
  | keep
  | refuse
  | drop
  | shift (target : Nat)
  | replace (targets : List Nat)

/-- The entry of a word of the table: digits, a mark, and targets. -/
def readMapping (word : List Char) : Nat × Mapping :=
  let isMark (c : Char) : Bool := (Text.hexDigitValue? c).isNone
  let targets := (word.dropWhile (!isMark ·)).drop 1
  let mapping :=
    match (word.dropWhile (!isMark ·)).head? with
    | some '=' => .keep
    | some '-' => .drop
    | some '>' => .shift (Text.hexValue targets)
    | some ':' => .replace ((Text.splitOn (· = ',') targets).map Text.hexValue)
    | _ => .refuse
  (Text.hexValue (word.takeWhile (!isMark ·)), mapping)

def mappingTable : Array (Nat × Mapping) :=
  ((Text.words mappingText).map readMapping).toArray

/-- The characters that stand for a character, or `none` if it is refused. -/
def mapped (c : Char) : Option (List Char) :=
  match Text.lastUpTo mappingTable c.toNat with
  | none => none
  | some (first, mapping) =>
      match mapping with
      | .keep => some [c]
      | .refuse => none
      | .drop => some []
      | .shift target => some [Char.ofNat (target + (c.toNat - first))]
      | .replace targets => some (targets.map Char.ofNat)

def mapChars (cs : List Char) : Option (List Char) :=
  (cs.mapM mapped).map List.flatten

end TileFetch.Domain
