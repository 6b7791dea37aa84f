import TileFetch.Number.Binary64

/-!
# Shortest decimals

The fewest digits that read back as a given value.  All reals between the two
midpoints around a value round to it, the midpoints themselves if the mantissa is
even.  For one digit, two digits and so on, the value has two neighbours on the
grid of such decimals; the first grid that has a neighbour inside is taken, and of
two neighbours inside the nearer.
-/

namespace TileFetch.Number

structure Decimal where
  digits : Nat
  exponent : Int
  deriving DecidableEq, Repr

namespace Shortest

/-- Twice the fraction `num / den` of midpoints: `(lower, upper)` numerators over the
common denominator `4 · den`. -/
def midpoints (x : Binary64) : Nat × Nat :=
  let unit := Nat.pow 2 x.exponent.toNat
  let below :=
    if x.mantissa = Nat.pow 2 52 && Binary64.minExponent < x.exponent then unit else 2 * unit
  (4 * x.num - below, 4 * x.num + 2 * unit)

def readsBack (x : Binary64) (d : Decimal) : Bool :=
  let scaled := 4 * x.den * d.digits * Nat.pow 10 d.exponent.toNat
  let grain := Nat.pow 10 (-d.exponent).toNat
  let lower := (midpoints x).1 * grain
  let upper := (midpoints x).2 * grain
  if x.mantissa % 2 = 0 then lower ≤ scaled && scaled ≤ upper
  else lower < scaled && scaled < upper

/-- The least `j` with `den ≤ num · 10 ^ j`, counted from `j`. -/
def leadingZeros (num den : Nat) : Nat → Nat → Nat
  | 0, j => j
  | fuel + 1, j => if den ≤ num * Nat.pow 10 j then j else leadingZeros num den fuel (j + 1)

def firstExponent (num den : Nat) : Int :=
  if den ≤ num then ((Nat.toDigits 10 (num / den)).length : Int) - 1
  else -(leadingZeros num den 400 1 : Nat)

def neighbour? (x : Binary64) (first : Int) (count : Nat) : Option Decimal :=
  let exponent := first - count + 1
  let scaledNum := x.num * Nat.pow 10 (-exponent).toNat
  let scaledDen := x.den * Nat.pow 10 exponent.toNat
  let low : Decimal := ⟨scaledNum / scaledDen, exponent⟩
  let high : Decimal := ⟨scaledNum / scaledDen + 1, exponent⟩
  let twice := 2 * (scaledNum % scaledDen)
  let highIsNearer := scaledDen < twice || (twice = scaledDen && low.digits % 2 = 1)
  match readsBack x low, readsBack x high with
  | true, true => some (if highIsNearer then high else low)
  | true, false => some low
  | false, true => some high
  | false, false => none

/-- The first grid, from `count` digits on, that holds a decimal for `x`. -/
def search (x : Binary64) (first : Int) : Nat → Nat → Decimal
  | 0, count => (neighbour? x first count).getD ⟨0, 0⟩
  | fuel + 1, count =>
      match neighbour? x first count with
      | some d => d
      | none => search x first fuel (count + 1)

def trim : Nat → Decimal → Decimal
  | 0, d => d
  | fuel + 1, d =>
      if d.digits % 10 = 0 && d.digits ≠ 0 then trim fuel ⟨d.digits / 10, d.exponent + 1⟩
      else d

end Shortest

/-- The decimal with the fewest digits that reads back as `x`, sign aside. -/
def Binary64.shortest (x : Binary64) : Decimal :=
  if x.isZero then ⟨0, 0⟩
  else Shortest.trim 20 (Shortest.search x (Shortest.firstExponent x.num x.den) 17 1)

end TileFetch.Number
