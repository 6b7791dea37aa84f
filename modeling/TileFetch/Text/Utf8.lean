/-!
# UTF-8

Bytes of text and text of bytes.  `next` takes one character off the front of a
byte list, or one maximal run of bytes that no character starts with.  Strict
and lossy decoding read the same pieces: the first refuses a bad run, the second
puts U+FFFD in its place.
-/

namespace TileFetch.Text.Utf8

def encode (cs : List Char) : List UInt8 :=
  cs.flatMap String.utf8EncodeChar

def bytes (s : String) : List UInt8 :=
  encode s.toList

def width (cs : List Char) : Nat :=
  (encode cs).length

/-- A continuation byte: the two high bits are `10`. -/
def isTail (b : UInt8) : Bool :=
  0x80 ≤ b && b ≤ 0xBF

/-- The second bytes that may follow a leading byte. -/
def secondInRange (lead b : UInt8) : Bool :=
  if lead = 0xE0 then 0xA0 ≤ b && b ≤ 0xBF
  else if lead = 0xED then 0x80 ≤ b && b ≤ 0x9F
  else if lead = 0xF0 then 0x90 ≤ b && b ≤ 0xBF
  else if lead = 0xF4 then 0x80 ≤ b && b ≤ 0x8F
  else isTail b

def tailBits (b : UInt8) : Nat :=
  b.toNat % 64

/-- One step of decoding: the character that starts at `lead`, or `none` for a
maximal run that starts no character, and the bytes after it. -/
def next (lead : UInt8) (rest : List UInt8) : Option Char × List UInt8 :=
  if lead < 0x80 then (some (Char.ofNat lead.toNat), rest)
  else if 0xC2 ≤ lead && lead ≤ 0xDF then
    match rest with
    | b :: r =>
        if isTail b then (some (Char.ofNat (lead.toNat % 32 * 64 + tailBits b)), r)
        else (none, rest)
    | [] => (none, rest)
  else if 0xE0 ≤ lead && lead ≤ 0xEF then
    match rest with
    | b :: c :: r =>
        if secondInRange lead b then
          if isTail c then
            (some (Char.ofNat (lead.toNat % 16 * 4096 + tailBits b * 64 + tailBits c)), r)
          else (none, c :: r)
        else (none, rest)
    | [b] => if secondInRange lead b then (none, []) else (none, rest)
    | [] => (none, rest)
  else if 0xF0 ≤ lead && lead ≤ 0xF4 then
    match rest with
    | b :: c :: d :: r =>
        if secondInRange lead b then
          if isTail c then
            if isTail d then
              (some (Char.ofNat (lead.toNat % 8 * 262144 + tailBits b * 4096 +
                tailBits c * 64 + tailBits d)), r)
            else (none, d :: r)
          else (none, c :: d :: r)
        else (none, rest)
    | [b, c] =>
        if secondInRange lead b then
          if isTail c then (none, []) else (none, [c])
        else (none, rest)
    | [b] => if secondInRange lead b then (none, []) else (none, rest)
    | [] => (none, rest)
  else (none, rest)

/-- A step never gives bytes back. -/
theorem length_next_le (lead : UInt8) (rest : List UInt8) :
    (next lead rest).2.length ≤ rest.length := by
  unfold next
  repeat' split
  all_goals simp only [List.length_cons, List.length_nil]; omega

/-- The pieces of a byte list: characters, and `none` for each bad run. -/
def pieces : List UInt8 → List (Option Char)
  | [] => []
  | lead :: rest => (next lead rest).1 :: pieces (next lead rest).2
termination_by bs => bs.length
decreasing_by
  have := length_next_le lead rest
  simp only [List.length_cons]
  omega

def decode? (bs : List UInt8) : Option (List Char) :=
  (pieces bs).mapM id

def validLength (bs : List UInt8) : Nat :=
  width (((pieces bs).takeWhile Option.isSome).map (·.getD default))

def replacement : Char :=
  Char.ofNat 0xFFFD

/-- The text of a byte list, with U+FFFD for every bad run. -/
def decodeLossy (bs : List UInt8) : List Char :=
  (pieces bs).map (·.getD replacement)

def string? (bs : List UInt8) : Option String :=
  (decode? bs).map String.ofList

end TileFetch.Text.Utf8
