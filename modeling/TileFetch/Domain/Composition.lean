import TileFetch.Domain.CompositionTable
import TileFetch.Text.Table

/-!
# Composed form

Canonical composition: characters are decomposed, marks are put in the order of their
combining classes, and what can be composed is composed.  Syllables of Hangul follow a
rule of their own.
-/

namespace TileFetch.Domain

/-- The entry of a word of the table: digits, a mark, and one or two parts. -/
def readDecomposition (word : List Char) : Nat × Bool × List Nat :=
  let isMark (c : Char) : Bool := (Text.hexDigitValue? c).isNone
  let rest := word.dropWhile (!isMark ·)
  (Text.hexValue (word.takeWhile (!isMark ·)), rest.head? = some ':',
    (Text.splitOn (· = ',') (rest.drop 1)).map Text.hexValue)

def decompositionTable : Array (Nat × Bool × List Nat) :=
  ((Text.words decompositionText).map readDecomposition).toArray

def combiningTable : Text.RangeTable Nat :=
  Text.rangeTable Text.hexValue combiningText

def combiningClass (n : Nat) : Nat :=
  (combiningTable.find? n).getD 0

/-- The first syllable of Hangul, and the number of syllables. -/
def hangulFirst : Nat := 0xAC00

def hangulCount : Nat := 11172

def partsOf (n : Nat) : Option (List Nat) :=
  if hangulFirst ≤ n && n < hangulFirst + hangulCount then
    let index := n - hangulFirst
    let tail := index % 28
    let open_ := [0x1100 + index / 588, 0x1161 + index % 588 / 28]
    some (if tail = 0 then open_ else open_ ++ [0x11A7 + tail])
  else
    match Text.lastUpTo decompositionTable n with
    | some (m, _, parts) => if m = n then some parts else none
    | none => none

def decomposed : Nat → Nat → List Nat
  | 0, n => [n]
  | fuel + 1, n =>
      match partsOf n with
      | none => [n]
      | some parts => parts.flatMap (decomposed fuel)

/-- Puts a mark after the marks before it whose classes are not above its own. -/
def insertMark (n : Nat) : List Nat → List Nat
  | [] => [n]
  | m :: rest =>
      if combiningClass n < combiningClass m then n :: m :: rest
      else m :: insertMark n rest

/-- The code points in canonical order.  `marks` holds the marks since the last code point
of class 0. -/
def ordered : List Nat → List Nat → List Nat
  | marks, [] => marks
  | marks, n :: rest =>
      if combiningClass n = 0 then marks ++ n :: ordered [] rest
      else ordered (insertMark n marks) rest

def composed (a b : Nat) : Option Nat :=
  if 0x1100 ≤ a && a < 0x1113 && 0x1161 ≤ b && b < 0x1176 then
    some (hangulFirst + (a - 0x1100) * 588 + (b - 0x1161) * 28)
  else if hangulFirst ≤ a && a < hangulFirst + hangulCount && (a - hangulFirst) % 28 = 0 &&
      0x11A8 ≤ b && b < 0x11C3 then
    some (a + (b - 0x11A7))
  else
    (decompositionTable.find? fun (_, composable, parts) ↦ composable && parts = [a, b]).map
      (·.1)

/-- Composes code points with the starter before them.  `between` holds what stands
between the starter and the next code point, last first. -/
def composeAfter (starter : Nat) : List Nat → List Nat → List Nat
  | between, [] => starter :: between.reverse
  | between, n :: rest =>
      let class_ := combiningClass n
      let blocked :=
        match between with
        | [] => false
        | m :: _ => combiningClass m = 0 || class_ ≤ combiningClass m
      match if blocked then none else composed starter n with
      | some c => composeAfter c between rest
      | none =>
          if class_ = 0 then starter :: between.reverse ++ composeAfter n [] rest
          else composeAfter starter (n :: between) rest

def compose : List Nat → List Nat
  | [] => []
  | n :: rest =>
      if combiningClass n = 0 then composeAfter n [] rest else n :: compose rest

def composedForm (cs : List Char) : List Char :=
  (compose (ordered [] (cs.flatMap fun c ↦ decomposed 8 c.toNat))).map Char.ofNat

end TileFetch.Domain
