/-!
# Finite binary fractions of 64 bits

A value is a sign, a mantissa below `2 ^ 53` and an exponent: `± mantissa · 2 ^
exponent`.  Every operation is exact arithmetic on fractions followed by one
rounding to the nearest value, a tie going to the even mantissa.  A result too
large for the format is `none`.
-/

namespace TileFetch.Number

/-- `num / den`, rounded to the nearest natural number; a tie goes to the even one. -/
def roundDiv (num den : Nat) : Nat :=
  let quotient := num / den
  let twice := 2 * (num % den)
  if den < twice || (twice = den && quotient % 2 = 1) then quotient + 1 else quotient

def log2Ratio (num den : Nat) : Int :=
  let guess : Int := (num.log2 : Int) - den.log2
  if num * Nat.pow 2 (-guess).toNat < den * Nat.pow 2 guess.toNat then guess - 1 else guess

structure Binary64 where
  negative : Bool
  mantissa : Nat
  exponent : Int
  deriving DecidableEq, Inhabited

namespace Binary64

def minExponent : Int := -1074

def maxExponent : Int := 971

def zero (negative : Bool) : Binary64 :=
  ⟨negative, 0, minExponent⟩

def isZero (x : Binary64) : Bool :=
  x.mantissa = 0

def negate (x : Binary64) : Binary64 :=
  { x with negative := !x.negative }

def ofRatio (negative : Bool) (num den : Nat) : Option Binary64 :=
  if num = 0 then some (zero negative)
  else
    let exponent := max minExponent (log2Ratio num den - 52)
    let mantissa := roundDiv (num * Nat.pow 2 (-exponent).toNat) (den * Nat.pow 2 exponent.toNat)
    let rounded : Binary64 :=
      if mantissa = Nat.pow 2 53 then ⟨negative, Nat.pow 2 52, exponent + 1⟩
      else ⟨negative, mantissa, exponent⟩
    if maxExponent < rounded.exponent then none else some rounded

def ofNat (n : Nat) : Option Binary64 :=
  ofRatio false n 1

def num (x : Binary64) : Nat :=
  x.mantissa * Nat.pow 2 x.exponent.toNat

def den (x : Binary64) : Nat :=
  Nat.pow 2 (-x.exponent).toNat

def mul (x y : Binary64) : Option Binary64 :=
  ofRatio (x.negative != y.negative) (x.num * y.num) (x.den * y.den)

def div (x y : Binary64) : Option Binary64 :=
  ofRatio (x.negative != y.negative) (x.num * y.den) (x.den * y.num)

def pow10 (n : Nat) : Option Binary64 :=
  ofRatio false (Nat.pow 10 n) 1

/-- `x · 10 ^ exponent` in steps that each round: one product or quotient with a
power of ten, after quotients by `10 ^ 308` as long as the exponent is below
`-308`.  Two such quotients bring every mantissa of 64 bits to zero. -/
def scale10 : Nat → Binary64 → Int → Option Binary64
  | 0, x, _ => some x
  | fuel + 1, x, exponent =>
      if exponent.natAbs ≤ 308 then
        match pow10 exponent.natAbs with
        | none => none
        | some power => if 0 ≤ exponent then x.mul power else x.div power
      else if x.isZero then some x
      else if 0 ≤ exponent then none
      else
        match (pow10 308).bind x.div with
        | none => none
        | some smaller => scale10 fuel smaller (exponent + 308)

/-- The value read from the decimal `significand · 10 ^ exponent`, whose significand
fits in 64 bits. -/
def ofDecimal (negative : Bool) (significand : Nat) (exponent : Int) : Option Binary64 :=
  match (ofNat significand).bind (scale10 4 · exponent) with
  | none => none
  | some x => some (if negative then x.negate else x)

end Binary64

end TileFetch.Number
