/-!
# Punycode

Any text as ASCII: its ASCII characters, and after a hyphen the other characters in
increasing order, each as the number of steps from the one before.  A step goes to the
next place in the text or, at its end, to the next code point.
-/

namespace TileFetch.Domain.Punycode

def base : Nat := 36

/-- The digit `n`, a letter or, from 26 on, a decimal digit. -/
def digit (n : Nat) : Char :=
  if n < 26 then Char.ofNat (97 + n) else Char.ofNat (48 + (n - 26))

def value? (c : Char) : Option Nat :=
  let n := c.toNat
  if 97 ≤ n && n < 123 then some (n - 97)
  else if 65 ≤ n && n < 91 then some (n - 65)
  else if 48 ≤ n && n < 58 then some (n - 48 + 26)
  else none

/-- The place of a digit from which on digits below it end a number. -/
def threshold (bias k : Nat) : Nat :=
  if k ≤ bias then 1 else if bias + 26 ≤ k then 26 else k - bias

/-- Divides `delta` until it is small; the new bias. -/
def reduce : Nat → Nat → Nat → Nat
  | 0, k, delta => k + 36 * delta / (delta + 38)
  | fuel + 1, k, delta =>
      if 455 < delta then reduce fuel (k + base) (delta / 35)
      else k + 36 * delta / (delta + 38)

def adapt (delta count : Nat) (first : Bool) : Nat :=
  let scaled := if first then delta / 700 else delta / 2
  reduce scaled 0 (scaled + scaled / count)

def writeNumber (bias : Nat) : Nat → Nat → Nat → List Char
  | 0, _, q => [digit q]
  | fuel + 1, k, q =>
      let t := threshold bias k
      if q < t then [digit q]
      else digit (t + (q - t) % (base - t)) ::
        writeNumber bias fuel (k + base) ((q - t) / (base - t))

/-- What is known between two numbers of a text. -/
structure Progress where
  delta : Nat
  bias : Nat
  count : Nat
  /-- The digits so far, last first. -/
  written : List Char

/-- Passes one character of the text, on the way to the code point `n`. -/
def pass (basic n : Nat) (p : Progress) (c : Char) : Progress :=
  if c.toNat < n then { p with delta := p.delta + 1 }
  else if c.toNat = n then
    { delta := 0
      bias := adapt p.delta (p.count + 1) (p.count = basic)
      count := p.count + 1
      written := (writeNumber p.bias p.delta base p.delta).reverse ++ p.written }
  else p

/-- Writes the places of the code points `ns`, which increase from `before`. -/
def writePlaces (text : List Char) (basic : Nat) : Nat → List Nat → Progress → Progress
  | _, [], p => p
  | before, n :: ns, p =>
      let start := { p with delta := p.delta + (n - before) * (p.count + 1) }
      let done := text.foldl (pass basic n) start
      writePlaces text basic (n + 1) ns { done with delta := done.delta + 1 }

def insertNumber (n : Nat) : List Nat → List Nat
  | [] => [n]
  | m :: rest => if n < m then n :: m :: rest else if n = m then m :: rest
                 else m :: insertNumber n rest

def encode (text : List Char) : List Char :=
  let basic := text.filter (·.toNat < 128)
  let others := (text.filter (128 ≤ ·.toNat)).foldr (fun c ns ↦ insertNumber c.toNat ns) []
  let head := if basic.isEmpty then [] else basic ++ ['-']
  let places := writePlaces text basic.length 128 others ⟨0, 72, basic.length, []⟩
  head ++ places.written.reverse

def readNumber (bias : Nat) : Nat → Nat → Nat → List Char → Option (Nat × List Char)
  | _, _, _, [] => none
  | k, weight, value, c :: rest => do
      let d ← value? c
      let t := threshold bias k
      let value := value + d * weight
      if 4294967296 ≤ value then none
      else if d < t then some (value, rest)
      else readNumber bias (k + base) (weight * (base - t)) value rest

def readPlaces : Nat → Nat → Nat → Nat → Bool → List Char → List Char → Option (List Char)
  | _, _, _, _, _, done, [] => some done
  | 0, _, _, _, _, _, _ => none
  | fuel + 1, n, i, bias, first, done, digits => do
      let (delta, rest) ← readNumber bias base 1 0 digits
      let count := done.length + 1
      let n := n + (i + delta) / count
      let place := (i + delta) % count
      if n < 0xD800 || (0xDFFF < n && n < 0x110000) then
        readPlaces fuel n (place + 1) (adapt delta count first) false
          (done.take place ++ Char.ofNat n :: done.drop place) rest
      else none

def maxWritten : Nat := 2000

def maxText : Nat := 1000

/-- The text of a written form.  A hyphen ends the ASCII characters of the text only if
there are some, so a form with a single hyphen does not begin with it. -/
def decode? (written : List Char) : Option (List Char) :=
  let tail := written.reverse.takeWhile (· ≠ '-')
  let basic := (written.reverse.drop (tail.length + 1)).reverse
  if written.all (·.toNat < 128) && (basic ≠ [] || written.head? ≠ some '-') &&
      written.length ≤ maxWritten then
    readPlaces written.length 128 0 72 true basic tail.reverse
  else none

end TileFetch.Domain.Punycode
