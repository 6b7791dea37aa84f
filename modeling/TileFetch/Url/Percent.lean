import TileFetch.Text.Quoted
import TileFetch.Text.Table
import TileFetch.Text.Utf8

/-!
# Percent encoding

Characters of a URL that a part of it may not hold are written as their bytes, each as
`%` and two digits of base sixteen.  A character outside ASCII is always written so; for
the others each part of a URL has a set.
-/

namespace TileFetch.Url

/-- A set of ASCII characters that are written in percent form. -/
abbrev EncodeSet : Type :=
  Char → Bool

def controlSet : EncodeSet := fun c ↦
  c.toNat < 0x20 || c.toNat = 0x7F

def fragmentSet : EncodeSet := fun c ↦
  controlSet c || [' ', '"', '<', '>', '\x60'].contains c

def querySet : EncodeSet := fun c ↦
  controlSet c || [' ', '"', '#', '<', '>'].contains c

def specialQuerySet : EncodeSet := fun c ↦
  querySet c || c = '\''

def pathSet : EncodeSet := fun c ↦
  querySet c || ['?', '\x60', '\x7b', '\x7d'].contains c

def userinfoSet : EncodeSet := fun c ↦
  pathSet c || ['/', ':', ';', '=', '@', '[', '\\', ']', '^', '|'].contains c

/-- A digit of base sixteen, with a capital letter above nine. -/
def upperHexDigit (n : Nat) : Char :=
  if n < 10 then Char.ofNat (48 + n) else Char.ofNat (65 + (n - 10))

def percentByte (b : UInt8) : List Char :=
  ['%', upperHexDigit (b.toNat / 16), upperHexDigit (b.toNat % 16)]

def encodeChar (set : EncodeSet) (c : Char) : List Char :=
  if 0x80 ≤ c.toNat || set c then (String.utf8EncodeChar c).flatMap percentByte else [c]

def encode (set : EncodeSet) (cs : List Char) : List Char :=
  cs.flatMap (encodeChar set)

def percentDecode : List Char → List UInt8
  | [] => []
  | [a] => String.utf8EncodeChar a
  | [a, b] => String.utf8EncodeChar a ++ String.utf8EncodeChar b
  | a :: b :: c :: rest =>
      match a, Text.hexDigitValue? b, Text.hexDigitValue? c with
      | '%', some x, some y => UInt8.ofNat (x * 16 + y) :: percentDecode rest
      | _, _, _ => String.utf8EncodeChar a ++ percentDecode (b :: c :: rest)
termination_by cs => cs.length

end TileFetch.Url
