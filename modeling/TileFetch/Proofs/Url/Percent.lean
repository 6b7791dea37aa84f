import Mathlib
import TileFetch.Url.Percent

/-!
# Reading percent forms back

A text without the character `%` is got back from its percent form, whatever the set of
characters that is written so: `percentDecode_encode`.
-/

namespace TileFetch.Url

variable {set : EncodeSet} {cs : List Char}

theorem hexDigitValue_upperHexDigit {n : Nat} (h : n < 16) :
    Text.hexDigitValue? (upperHexDigit n) = some n := by
  have hall : ∀ n : Fin 16, Text.hexDigitValue? (upperHexDigit n) = some n.val := by decide
  exact hall ⟨n, h⟩

theorem percentDecode_percentByte (b : UInt8) (rest : List Char) :
    percentDecode (percentByte b ++ rest) = b :: percentDecode rest := by
  have hb : b.toNat < 256 := b.toNat_lt
  have hhigh := hexDigitValue_upperHexDigit (n := b.toNat / 16) (by omega)
  have hlow := hexDigitValue_upperHexDigit (n := b.toNat % 16) (by omega)
  have hsum : b.toNat / 16 * 16 + b.toNat % 16 = b.toNat := by omega
  simp [percentByte, percentDecode, hhigh, hlow, hsum]

theorem percentDecode_flatMap_percentByte (bytes : List UInt8) (rest : List Char) :
    percentDecode (bytes.flatMap percentByte ++ rest) = bytes ++ percentDecode rest := by
  induction bytes with
  | nil => rfl
  | cons b bytes ih =>
      rw [List.flatMap_cons, List.append_assoc, percentDecode_percentByte, ih, List.cons_append]

theorem percentDecode_cons {c : Char} (hc : c ≠ '%') (rest : List Char) :
    percentDecode (c :: rest) = String.utf8EncodeChar c ++ percentDecode rest := by
  match rest with
  | [] => simp [percentDecode]
  | [d] => simp [percentDecode]
  | d :: e :: rest =>
      rw [percentDecode]
      exact fun _ _ hpercent ↦ (hc hpercent).elim

theorem percentDecode_encode (h : '%' ∉ cs) :
    percentDecode (encode set cs) = Text.Utf8.encode cs := by
  induction cs with
  | nil => simp [encode, percentDecode, Text.Utf8.encode]
  | cons c cs ih =>
      obtain ⟨hc, hcs⟩ : '%' ≠ c ∧ '%' ∉ cs := by simpa using h
      have hrest := ih hcs
      simp only [encode, Text.Utf8.encode, List.flatMap_cons] at hrest ⊢
      rw [← hrest, encodeChar]
      split
      · exact percentDecode_flatMap_percentByte _ _
      · exact percentDecode_cons hc.symm _

end TileFetch.Url
