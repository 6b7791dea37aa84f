/-!
# Base64

Bytes as text: three bytes become four digits of base 64, and a last group of one or
two bytes is filled up with `=`.
-/

namespace TileFetch.Text.Base64

def digit (n : Nat) : Char :=
  if n < 26 then Char.ofNat (65 + n)
  else if n < 52 then Char.ofNat (97 + (n - 26))
  else if n < 62 then Char.ofNat (48 + (n - 52))
  else if n = 62 then '+'
  else '/'

def value? (c : Char) : Option Nat :=
  let n := c.toNat
  if 65 ≤ n && n < 91 then some (n - 65)
  else if 97 ≤ n && n < 123 then some (n - 97 + 26)
  else if 48 ≤ n && n < 58 then some (n - 48 + 52)
  else if c = '+' then some 62
  else if c = '/' then some 63
  else none

def encode : List UInt8 → List Char
  | [] => []
  | [a] => [digit (a.toNat / 4), digit (a.toNat % 4 * 16), '=', '=']
  | [a, b] =>
      [digit (a.toNat / 4), digit (a.toNat % 4 * 16 + b.toNat / 16),
        digit (b.toNat % 16 * 4), '=']
  | a :: b :: c :: rest =>
      digit (a.toNat / 4) :: digit (a.toNat % 4 * 16 + b.toNat / 16) ::
        digit (b.toNat % 16 * 4 + c.toNat / 64) :: digit (c.toNat % 64) :: encode rest

/-- The bytes of a text.  Groups of four digits, the last one filled up with `=`; bits
that the filling stands for are zero. -/
def decode? : List Char → Option (List UInt8)
  | [] => some []
  | [p, q, '=', '='] => do
      let w ← value? p
      let x ← value? q
      if x % 16 = 0 then some [UInt8.ofNat (w * 4 + x / 16)] else none
  | [p, q, r, '='] => do
      let w ← value? p
      let x ← value? q
      let y ← value? r
      if y % 4 = 0 then
        some [UInt8.ofNat (w * 4 + x / 16), UInt8.ofNat (x % 16 * 16 + y / 4)]
      else none
  | p :: q :: r :: s :: rest => do
      let w ← value? p
      let x ← value? q
      let y ← value? r
      let z ← value? s
      let bytes ← decode? rest
      some (UInt8.ofNat (w * 4 + x / 16) :: UInt8.ofNat (x % 16 * 16 + y / 4) ::
        UInt8.ofNat (y % 4 * 64 + z) :: bytes)
  | _ => none

end TileFetch.Text.Base64
