import TileFetch.Json.Basic
import TileFetch.Text.Quoted

/-!
# Writing JSON

The compact text of a value: no blanks, the members of an object in their order.
A text escapes the quote, the backslash and the control characters below U+0020;
all other characters stand for themselves.
-/

namespace TileFetch.Json

def escapedChar (c : Char) : List Char :=
  if c = '"' then ['\\', '"']
  else if c = '\\' then ['\\', '\\']
  else if c = '\x08' then ['\\', 'b']
  else if c = '\x0c' then ['\\', 'f']
  else if c = '\n' then ['\\', 'n']
  else if c = '\r' then ['\\', 'r']
  else if c = '\t' then ['\\', 't']
  else if c.toNat < 0x20 then
    ['\\', 'u', '0', '0', Nat.digitChar (c.toNat / 16), Nat.digitChar (c.toNat % 16)]
  else [c]

def writeString (s : String) : List Char :=
  '"' :: s.toList.flatMap escapedChar ++ ['"']

def writeInt : Int → List Char
  | .ofNat n => Nat.toDigits 10 n
  | .negSucc n => '-' :: Nat.toDigits 10 (n + 1)

/-- How a binary fraction is written: positional notation while the exponent of
the first digit lies from `lowest` to `highest`, else one digit before the point
and a signed exponent. -/
structure RealFormat where
  lowest : Int
  highest : Int

/-- Positional from `0.00001` to below `10 ^ 16`, and a whole number ends in `.0`. -/
def realFormat : RealFormat :=
  ⟨-5, 15⟩

def RealFormat.write (format : RealFormat) (d : Number.Decimal) : List Char :=
  let digits := Nat.toDigits 10 d.digits
  let count : Int := digits.length
  let first := count + d.exponent - 1
  if d.digits = 0 then ['0', '.', '0']
  else if format.lowest ≤ first && first ≤ format.highest then
    if 0 ≤ d.exponent then digits ++ List.replicate d.exponent.toNat '0' ++ ['.', '0']
    else if 0 ≤ first then
      digits.take (first + 1).toNat ++ '.' :: digits.drop (first + 1).toNat
    else '0' :: '.' :: List.replicate (-first - 1).toNat '0' ++ digits
  else
    let fraction := if digits.length ≤ 1 then [] else '.' :: digits.drop 1
    let sign := if first < 0 then '-' else '+'
    digits.take 1 ++ fraction ++ 'e' :: sign :: Nat.toDigits 10 first.natAbs

/-- A binary fraction with the fewest digits that read back. -/
def writeReal (x : Number.Binary64) : List Char :=
  let magnitude := realFormat.write x.shortest
  if x.negative then '-' :: magnitude else magnitude

def writeNumber : Number → List Char
  | .int i => writeInt i
  | .real x => writeReal x

mutual

def write : Json → List Char
  | .null => ['n', 'u', 'l', 'l']
  | .bool true => ['t', 'r', 'u', 'e']
  | .bool false => ['f', 'a', 'l', 's', 'e']
  | .number n => writeNumber n
  | .string s => writeString s
  | .array [] => ['[', ']']
  | .array (item :: items) => '[' :: write item ++ writeItems items
  | .object [] => ['\x7b', '\x7d']
  | .object ((key, value) :: members) =>
      '\x7b' :: writeString key ++ ':' :: write value ++ writeMembers members

/-- The items after the first, and the closing bracket. -/
def writeItems : List Json → List Char
  | [] => [']']
  | item :: items => ',' :: write item ++ writeItems items

def writeMembers : List (String × Json) → List Char
  | [] => ['\x7d']
  | (key, value) :: members =>
      ',' :: writeString key ++ ':' :: write value ++ writeMembers members

end

def text (j : Json) : String :=
  String.ofList j.write

/-! ## Text for narrow channels

Characters beyond ASCII stand only inside the strings of a JSON text, where escapes of one
or two units of UTF-16 can take their places. -/

def unitEscape (n : Nat) : List Char :=
  '\\' :: 'u' :: [n / 4096, n / 256 % 16, n / 16 % 16, n % 16].map Nat.digitChar

def asciiChar (c : Char) : List Char :=
  let n := c.toNat
  if n < 0x80 then [c]
  else if n < 0x10000 then unitEscape n
  else
    let offset := n - 0x10000
    unitEscape (0xD800 + offset / 0x400) ++ unitEscape (0xDC00 + offset % 0x400)

def asciiText (j : Json) : String :=
  String.ofList (j.write.flatMap asciiChar)

end TileFetch.Json
