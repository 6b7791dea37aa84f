/-!
# Tables written as text

Tables over the code points, kept as text with numbers in base sixteen, and looked up by
halving.
-/

namespace TileFetch.Text

def splitOn (p : Char → Bool) (cs : List Char) : List (List Char) :=
  cs.foldr (fun c parts ↦
    if p c then [] :: parts
    else
      match parts with
      | [] => [[c]]
      | part :: rest => (c :: part) :: rest) [[]]

/-- The words of a text: its pieces between blanks, except empty ones. -/
def words (s : String) : List (List Char) :=
  (splitOn (fun c ↦ c = ' ' || c = '\n') s.toList).filter (!·.isEmpty)

def hexDigitValue? (c : Char) : Option Nat :=
  let n := c.toNat
  if 48 ≤ n && n < 58 then some (n - 48)
  else if 97 ≤ n && n < 103 then some (n - 97 + 10)
  else if 65 ≤ n && n < 71 then some (n - 65 + 10)
  else none

/-- The number that digits of base sixteen write; other characters count as zero. -/
def hexValue (cs : List Char) : Nat :=
  cs.foldl (fun n c ↦ n * 16 + (hexDigitValue? c).getD 0) 0

/-- The entry of the greatest key that is not above `n`, among `size` entries from `lo`
on, whose keys increase. -/
def lastUpToIn {α : Type} (table : Array (Nat × α)) (n : Nat) : Nat → Nat → Nat →
    Option (Nat × α)
  | 0, _, _ => none
  | fuel + 1, lo, size =>
      if size = 0 then none
      else
        let middle := lo + size / 2
        match table[middle]? with
        | none => none
        | some entry =>
            if n < entry.1 then lastUpToIn table n fuel lo (size / 2)
            else
              (lastUpToIn table n fuel (middle + 1) (size - size / 2 - 1)).or (some entry)

def lastUpTo {α : Type} (table : Array (Nat × α)) (n : Nat) : Option (Nat × α) :=
  lastUpToIn table n table.size 0 table.size

/-- A table of ranges: the first code point, the last one, and a value. -/
abbrev RangeTable (α : Type) : Type :=
  Array (Nat × Nat × α)

def rangeTable {α : Type} (value : List Char → α) (s : String) : RangeTable α :=
  ((words s).filterMap fun word ↦
    match splitOn (fun c ↦ c = ',' || c = ':') word with
    | [first, last, v] => some (hexValue first, hexValue last, value v)
    | _ => none).toArray

def RangeTable.find? {α : Type} (table : RangeTable α) (n : Nat) : Option α :=
  match lastUpTo table n with
  | some (_, last, v) => if n ≤ last then some v else none
  | none => none

end TileFetch.Text
