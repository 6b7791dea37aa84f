import TileFetch.Proofs.Text.Utf8
import TileFetch.Text.Base64

/-!
# Base64 there and back

The digits of bytes are decoded to those bytes, whatever the length of the last group is:
`decode?_encode`.
-/

namespace TileFetch.Text.Base64

open Utf8 (ofNat_eq)

variable {n w x y z : Nat} {p q r s : Char} {rest : List Char}

theorem value?_digit (h : n < 64) : value? (digit n) = some n := by
  have hall : ∀ n < 64, value? (digit n) = some n := by decide
  exact hall n h

theorem digit_ne_pad (h : n < 64) : digit n ≠ '=' := by
  have hall : ∀ n < 64, digit n ≠ '=' := by decide
  exact hall n h

/-! ## Groups -/

theorem decode?_one (hw : value? p = some w) (hx : value? q = some x) (hzero : x % 16 = 0) :
    decode? [p, q, '=', '='] = some [UInt8.ofNat (w * 4 + x / 16)] := by
  simp only [decode?, hw, hx, hzero, Option.bind_eq_bind, Option.bind_some, if_true]

theorem decode?_two (hw : value? p = some w) (hx : value? q = some x) (hy : value? r = some y)
    (hr : r ≠ '=') (hzero : y % 4 = 0) :
    decode? [p, q, r, '='] =
      some [UInt8.ofNat (w * 4 + x / 16), UInt8.ofNat (x % 16 * 16 + y / 4)] := by
  simp only [decode?, hw, hx, hy, hzero, Option.bind_eq_bind, Option.bind_some, if_true]

theorem decode?_three (hw : value? p = some w) (hx : value? q = some x) (hy : value? r = some y)
    (hz : value? s = some z) (hs : s ≠ '=') :
    decode? (p :: q :: r :: s :: rest) = (decode? rest).map fun bytes ↦
      UInt8.ofNat (w * 4 + x / 16) :: UInt8.ofNat (x % 16 * 16 + y / 4) ::
        UInt8.ofNat (y % 4 * 64 + z) :: bytes := by
  rw [decode?, hw, hx, hy, hz]
  · cases decode? rest <;> rfl
  · exact fun _ h _ ↦ hs h
  · exact fun h _ ↦ hs h

/-! ## Texts of bytes -/

theorem decode?_encode (bytes : List UInt8) : decode? (encode bytes) = some bytes := by
  induction bytes using encode.induct with
  | case1 => rfl
  | case2 a =>
      have ha := a.toNat_lt
      rw [encode, decode?_one (value?_digit (by omega)) (value?_digit (by omega)) (by omega),
        ofNat_eq (b := a) (by omega)]
  | case3 a b =>
      have ha := a.toNat_lt
      have hb := b.toNat_lt
      rw [encode, decode?_two (value?_digit (by omega)) (value?_digit (by omega))
        (value?_digit (by omega)) (digit_ne_pad (by omega)) (by omega),
        ofNat_eq (b := a) (by omega), ofNat_eq (b := b) (by omega)]
  | case4 a b c rest ih =>
      have ha := a.toNat_lt
      have hb := b.toNat_lt
      have hc := c.toNat_lt
      rw [encode, decode?_three (value?_digit (by omega)) (value?_digit (by omega))
        (value?_digit (by omega)) (value?_digit (by omega)) (digit_ne_pad (by omega)), ih,
        ofNat_eq (b := a) (by omega), ofNat_eq (b := b) (by omega), ofNat_eq (b := c) (by omega),
        Option.map_some]

end TileFetch.Text.Base64
