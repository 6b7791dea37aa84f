import TileFetch.Json.Fault
import TileFetch.Text.Utf8

/-!
# Reading JSON text

A reader walks over the bytes of a document and yields a value or a fault, and in
both cases the place that it has reached.  The readers here know the lexical
forms: blanks, words, texts, numbers, and whole values that are passed over.
-/

namespace TileFetch.Json

/-- A place in a document: the bytes that follow it, and its line and column. -/
structure Cursor where
  rest : List UInt8
  line : Nat := 1
  column : Nat := 0

namespace Cursor

def start (bytes : List UInt8) : Cursor :=
  { rest := bytes }

def position (c : Cursor) : Position :=
  ⟨c.line, c.column⟩

/-- The place after the next byte; at the end, the end itself. -/
def advance (c : Cursor) : Cursor :=
  match c.rest with
  | [] => c
  | b :: rest =>
      if b = 0x0A then ⟨rest, c.line + 1, 0⟩ else ⟨rest, c.line, c.column + 1⟩

def skip : Nat → Cursor → Cursor
  | 0, c => c
  | n + 1, c => skip n c.advance

end Cursor

def Reader (α : Type) : Type :=
  Cursor → Except Fault α × Cursor

namespace Reader

instance : Monad Reader where
  pure a := fun c ↦ (.ok a, c)
  bind r f := fun c ↦
    match r c with
    | (.ok a, c') => f a c'
    | (.error e, c') => (.error e, c')

def fail {α : Type} (f : Fault) : Reader α :=
  fun c ↦ (.error f, c)

/-- Fails with a cause whose place is not known here. -/
def refuse {α : Type} (cause : Cause) : Reader α :=
  fail { cause }

def failHere {α : Type} (f : SyntaxFault) : Reader α :=
  fun c ↦ (.error { cause := .badSyntax f, position := some c.position }, c)

/-- Fails at the place after the next byte. -/
def failNext {α : Type} (f : SyntaxFault) : Reader α :=
  fun c ↦ (.error { cause := .badSyntax f, position := some c.advance.position }, c)

def attempt {α : Type} (r : Reader α) : Reader (Except Fault α) :=
  fun c ↦ (.ok (r c).1, (r c).2)

def ofExcept {α : Type} (outcome : Except Fault α) : Reader α :=
  fun c ↦ (outcome, c)

def placed {α : Type} (r : Reader α) : Reader α :=
  fun c ↦
    match r c with
    | (.error e, c') => (.error (e.placed c'.position), c')
    | done => done

/-- Faults of the reader are seen from one step further out. -/
def inside {α : Type} (step : Step) (r : Reader α) : Reader α :=
  fun c ↦
    match r c with
    | (.error e, c') => (.error (e.inside step), c')
    | done => done

def peek : Reader (Option UInt8) :=
  fun c ↦ (.ok c.rest.head?, c)

def advance : Reader Unit :=
  fun c ↦ (.ok (), c.advance)

def next : Reader (Option UInt8) :=
  fun c ↦ (.ok c.rest.head?, c.advance)

def ahead : Reader Nat :=
  fun c ↦ (.ok c.rest.length, c)

def takeWhile (p : UInt8 → Bool) : Reader (List UInt8) :=
  fun c ↦ (.ok (c.rest.takeWhile p), c.skip (c.rest.takeWhile p).length)

end Reader

open Reader

def isBlankByte (b : UInt8) : Bool :=
  b = 0x20 || b = 0x0A || b = 0x09 || b = 0x0D

def isDigitByte (b : UInt8) : Bool :=
  0x30 ≤ b && b ≤ 0x39

def digitOfByte (b : UInt8) : Nat :=
  b.toNat - 0x30

def peekToken : Reader (Option UInt8) := do
  let _ ← takeWhile isBlankByte
  peek

def byteOf (c : Char) : UInt8 :=
  UInt8.ofNat c.toNat

def readWord : List Char → Reader Unit
  | [] => pure ()
  | letter :: letters => do
      match ← next with
      | none => failHere .endInValue
      | some b => if b = byteOf letter then readWord letters else failHere .expectedWord

/-! ## Texts -/

def hexDigit? (b : UInt8) : Option Nat :=
  if isDigitByte b then some (digitOfByte b)
  else if 0x61 ≤ b && b ≤ 0x66 then some (b.toNat - 0x61 + 10)
  else if 0x41 ≤ b && b ≤ 0x46 then some (b.toNat - 0x41 + 10)
  else none

def readHex4 : Reader Nat := fun c ↦
  match c.rest with
  | a :: b :: d :: e :: _ =>
      let after := c.skip 4
      match hexDigit? a, hexDigit? b, hexDigit? d, hexDigit? e with
      | some w, some x, some y, some z => (.ok (((w * 16 + x) * 16 + y) * 16 + z), after)
      | _, _, _, _ => failHere .invalidEscape after
  | _ => failHere .endInString (c.skip c.rest.length)

def expectInEscape (b : UInt8) : Reader Unit := do
  match ← peek with
  | none => failHere .endInString
  | some found => do
      advance
      if found = b then pure () else failHere .endOfEscape

/-- The rest of an escape `\u`: one code point, given by one unit or by a pair of
surrogates. -/
def readCodePoint : Reader Char := do
  let unit ← readHex4
  if 0xDC00 ≤ unit && unit ≤ 0xDFFF then failHere .loneSurrogate
  else if unit < 0xD800 || 0xDBFF < unit then return Char.ofNat unit
  else do
    expectInEscape 0x5C
    expectInEscape 0x75
    let low ← readHex4
    if low < 0xDC00 || 0xDFFF < low then failHere .loneSurrogate
    else return Char.ofNat ((unit - 0xD800) * 1024 + (low - 0xDC00) + 0x10000)

def readEscape : Reader Char := do
  match ← next with
  | none => failHere .endInString
  | some b =>
      if b = 0x22 || b = 0x5C || b = 0x2F then return Char.ofNat b.toNat
      else if b = 0x62 then return Char.ofNat 0x08
      else if b = 0x66 then return Char.ofNat 0x0C
      else if b = 0x6E then return '\n'
      else if b = 0x72 then return '\r'
      else if b = 0x74 then return '\t'
      else if b = 0x75 then readCodePoint
      else failHere .invalidEscape

def isPlainByte (b : UInt8) : Bool :=
  0x20 ≤ b && b ≠ 0x22 && b ≠ 0x5C

/-- The characters up to the next quote or backslash, which stays ahead.  Bytes that are
no characters are a fault at the first of them, unless the text does not go on. -/
def readPlain : Reader (List Char) := fun c ↦
  let bytes := c.rest.takeWhile isPlainByte
  let after := c.skip bytes.length
  match after.rest.head? with
  | none => failHere .endInString after
  | some b =>
      if b < 0x20 then failHere .controlCharacter after.advance
      else
        match Text.Utf8.decode? bytes with
        | some cs => (.ok cs, after)
        | none => failNext .invalidCodePoint (c.skip (Text.Utf8.validLength bytes))

/-- The pieces of a text between its escapes, after the text `done`, and its closing
quote.  `fuel` bounds the bytes ahead. -/
def readPieces : Nat → String → Reader String
  | 0, _ => failHere .endInString
  | fuel + 1, done => do
      let plain ← readPlain
      let done := done ++ String.ofList plain
      if (← next) = some 0x22 then return done
      else readPieces fuel (done.push (← readEscape))

def readText : Reader String := do
  readPieces ((← ahead) + 1) ""

/-! ## Numbers -/

def maxNat64 : Nat := 18446744073709551615

/-- The digits `ds` put after `significand`, as far as 64 bits hold them: the new
significand and the number of digits put.  The first digit that does not fit ends
the row. -/
def putDigits : Nat → Nat → List UInt8 → Nat × Nat
  | significand, count, [] => (significand, count)
  | significand, count, d :: ds =>
      let more := significand * 10 + digitOfByte d
      if maxNat64 < more then (significand, count) else putDigits more (count + 1) ds

def realOf (negative : Bool) (significand : Nat) (exponent : Int) : Reader Number :=
  match Number.Binary64.ofDecimal negative significand exponent with
  | none => failHere .numberOutOfRange
  | some x => pure (.real x)

def maxExponent32 : Nat := 2147483647

/-- The digits of an exponent, up to the one that makes it too large; that digit is
passed over too.  `none` stands for too large. -/
def readExponentDigits : Nat → Nat → Reader (Option Nat)
  | 0, value => return some value
  | fuel + 1, value => do
      match ← peek with
      | none => return some value
      | some b =>
          if isDigitByte b then do
            advance
            let more := value * 10 + digitOfByte b
            if maxExponent32 < more then return none else readExponentDigits fuel more
          else return some value

/-- An exponent, whose letter is ahead, after the decimal `significand · 10 ^ shift`. -/
def readExponent (negative : Bool) (significand : Nat) (shift : Int) : Reader Number := do
  advance
  let first ← peek
  let down := first = some 0x2D
  if first = some 0x2B || first = some 0x2D then advance
  match ← next with
  | none => failHere .endInValue
  | some b =>
      if isDigitByte b then do
        match ← readExponentDigits ((← ahead) + 1) (digitOfByte b) with
        | some exponent =>
            realOf negative significand
              (if down then shift - exponent else shift + exponent)
        | none =>
            if significand ≠ 0 && !down then failHere .numberOutOfRange
            else do
              let _ ← takeWhile isDigitByte
              return .real (.zero negative)
      else failHere .invalidNumber

def readScaled (negative : Bool) (significand : Nat) (shift : Int) : Reader Number := do
  let b ← peek
  if b = some 0x65 || b = some 0x45 then readExponent negative significand shift
  else realOf negative significand shift

def readFraction (negative : Bool) (significand : Nat) (shift : Int) : Reader Number := do
  advance
  let digits ← takeWhile isDigitByte
  if digits.isEmpty then
    match ← peek with
    | none => failNext .endInValue
    | some _ => failNext .invalidNumber
  else
    let (more, count) := putDigits significand 0 digits
    readScaled negative more (shift - count)

def readAfterDigits (negative : Bool) (significand dropped : Nat) : Reader Number := do
  let b ← peek
  if b = some 0x2E then readFraction negative significand dropped
  else if b = some 0x65 || b = some 0x45 then readExponent negative significand dropped
  else if dropped ≠ 0 then realOf negative significand dropped
  else if !negative then return .int significand
  else if significand = 0 || 9223372036854775808 < significand then realOf true significand 0
  else return .int (-(significand : Int))

def readNumber (negative : Bool) : Reader Number := do
  match ← next with
  | none => failHere .endInValue
  | some b =>
      if b = 0x30 then do
        match ← peek with
        | some d => if isDigitByte d then failNext .invalidNumber
                    else readAfterDigits negative 0 0
        | none => readAfterDigits negative 0 0
      else if isDigitByte b then do
        let digits ← takeWhile isDigitByte
        let (significand, count) := putDigits (digitOfByte b) 0 digits
        readAfterDigits negative significand (digits.length - count)
      else failHere .invalidNumber

/-! ## Values that are passed over -/

def skipExponent : Reader Unit := do
  advance
  let sign ← peek
  if sign = some 0x2B || sign = some 0x2D then advance
  match ← next with
  | some b =>
      if isDigitByte b then do
        let _ ← takeWhile isDigitByte
        return ()
      else failHere .invalidNumber
  | none => failHere .invalidNumber

def skipScaled : Reader Unit := do
  let b ← peek
  if b = some 0x65 || b = some 0x45 then skipExponent else return ()

def skipAfterDigits : Reader Unit := do
  if (← peek) = some 0x2E then do
    advance
    let digits ← takeWhile isDigitByte
    if digits.isEmpty then failNext .invalidNumber else skipScaled
  else skipScaled

def skipNumber : Reader Unit := do
  match ← next with
  | some b =>
      if b = 0x30 then do
        match ← peek with
        | some d => if isDigitByte d then failNext .invalidNumber else skipAfterDigits
        | none => skipAfterDigits
      else if isDigitByte b then do
        let _ ← takeWhile isDigitByte
        skipAfterDigits
      else failHere .invalidNumber
  | none => failHere .invalidNumber

/-- Passes over a text; its opening quote is behind.  Escapes are not decoded, so
any four hexadecimal digits will do. -/
def skipText : Nat → Reader Unit
  | 0 => failHere .endInString
  | fuel + 1 => do
      match ← peek with
      | none => failHere .endInString
      | some b =>
          if b = 0x22 then advance
          else if b = 0x5C then do
            advance
            match ← next with
            | none => failHere .endInString
            | some e =>
                if e = 0x22 || e = 0x5C || e = 0x2F || e = 0x62 || e = 0x66 ||
                    e = 0x6E || e = 0x72 || e = 0x74 then skipText fuel
                else if e = 0x75 then do
                  let _ ← readHex4
                  skipText fuel
                else failHere .invalidEscape
          else if b < 0x20 then failHere .controlCharacter
          else do
            advance
            skipText fuel

inductive Enclosure where
  | list
  | object
  deriving DecidableEq

def Enclosure.ended : Enclosure → SyntaxFault
  | list => .endInList
  | object => .endInObject

def Enclosure.unseparated : Enclosure → SyntaxFault
  | list => .expectedItemEnd
  | object => .expectedMemberEnd

def Enclosure.closing : Enclosure → UInt8
  | list => 0x5D
  | object => 0x7D

def skipKey : Reader Unit := do
  match ← peekToken with
  | none => failNext .endInObject
  | some b =>
      if b = 0x22 then do
        advance
        skipText ((← ahead) + 1)
        match ← peekToken with
        | none => failNext .endInObject
        | some b => if b = 0x3A then advance else failNext .expectedColon
      else failNext .keyNotString

mutual

/-- Passes over one value, inside the enclosures `open_`, innermost first, and over
everything up to the end of the outermost.  Nesting has no limit here. -/
def skipValue : Nat → List Enclosure → Reader Unit
  | 0, _ => failHere .endInValue
  | fuel + 1, open_ => do
      match ← peekToken with
      | none => failNext .endInValue
      | some b =>
          if b = 0x6E then do
            advance
            readWord ['u', 'l', 'l']
            skipAfterItem fuel true open_
          else if b = 0x74 then do
            advance
            readWord ['r', 'u', 'e']
            skipAfterItem fuel true open_
          else if b = 0x66 then do
            advance
            readWord ['a', 'l', 's', 'e']
            skipAfterItem fuel true open_
          else if b = 0x2D then do
            advance
            skipNumber
            skipAfterItem fuel true open_
          else if isDigitByte b then do
            skipNumber
            skipAfterItem fuel true open_
          else if b = 0x22 then do
            advance
            skipText ((← ahead) + 1)
            skipAfterItem fuel true open_
          else if b = 0x5B then do
            advance
            skipAfterItem fuel false (.list :: open_)
          else if b = 0x7B then do
            advance
            skipAfterItem fuel false (.object :: open_)
          else failNext .expectedValue

/-- Passes over what follows an item (`afterItem`) or the beginning of an enclosure. -/
def skipAfterItem : Nat → Bool → List Enclosure → Reader Unit
  | _, _, [] => return ()
  | 0, _, _ => failHere .endInValue
  | fuel + 1, afterItem, frame :: outer => do
      match ← peekToken with
      | none => failNext frame.ended
      | some b =>
          if b = 0x2C && afterItem then do
            advance
            if frame = .object then skipKey
            skipValue fuel (frame :: outer)
          else if b = frame.closing then do
            advance
            skipAfterItem fuel true outer
          else if afterItem then failNext frame.unseparated
          else do
            if frame = .object then skipKey
            skipValue fuel (frame :: outer)

end

def skip : Reader Unit := do
  skipValue (2 * (← ahead) + 4) []

end TileFetch.Json
