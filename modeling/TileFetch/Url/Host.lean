import TileFetch.Domain.Label
import TileFetch.Url.Percent

/-!
# Hosts

The host of a URL: a domain, an address of version 4 or 6, or any name for schemes that
are not special.
-/

namespace TileFetch.Url

inductive UrlFault where
  | noScheme
  | emptyHost
  | badDomain
  | badPort
  | badIpv4
  | badIpv6
  | badHostCharacter
  deriving DecidableEq

def UrlFault.message : UrlFault → String
  | noScheme => "relative URL without a base"
  | emptyHost => "empty host"
  | badDomain => "invalid international domain name"
  | badPort => "invalid port number"
  | badIpv4 => "invalid IPv4 address"
  | badIpv6 => "invalid IPv6 address"
  | badHostCharacter => "invalid domain character"

/-- A host.  `absent` is the host of a URL that has no `//`, `empty` the one of a URL that
has nothing after it. -/
inductive Host where
  | absent
  | empty
  | name (text : List Char)
  | ipv4 (address : Nat)
  | ipv6 (pieces : List Nat)
  deriving DecidableEq

/-! ## Version 4 -/

/-- A number of an address: `none` if it is no number, and the inner `none` if it is above
32 bits.  It is written in base sixteen after `0x` and in base eight after `0`. -/
def ipv4Number (cs : List Char) : Option (Option Nat) :=
  let read (base : Nat) (digits : List Char) : Option (Option Nat) := do
    let values ← digits.mapM Text.hexDigitValue?
    if values.all (· < base) then
      let n := values.foldl (fun n d ↦ n * base + d) 0
      some (if n < 4294967296 then some n else none)
    else none
  match cs with
  | [] => none
  | '0' :: 'x' :: digits => read 16 digits
  | '0' :: 'X' :: digits => read 16 digits
  | '0' :: d :: digits => read 8 (d :: digits)
  | digits => read 10 digits

/-- The parts of a dotted text; an empty part at its end does not count. -/
def dottedParts (cs : List Char) : List (List Char) :=
  let parts := Text.splitOn (· = '.') cs
  if parts.getLast? = some [] then parts.dropLast else parts

/-- Is the last part of a domain a number?  Then the domain has to be an address. -/
def endsInNumber (cs : List Char) : Bool :=
  match (dottedParts cs).getLast? with
  | none => false
  | some last =>
      (!last.isEmpty && last.all Char.isDigit) || (ipv4Number last).isSome

/-- The address of a dotted text.  The last number takes the places that are left. -/
def readIpv4 (cs : List Char) : Option Nat := do
  let parts := dottedParts cs
  if 4 < parts.length then none
  else
    let numbers ← (← parts.mapM ipv4Number).mapM id
    let last ← numbers.getLast?
    let high := numbers.dropLast
    if Nat.pow 256 (4 - high.length) ≤ last || high.any (255 < ·) then none
    else
      let top := high.foldl (fun n part ↦ n * 256 + part) 0
      some (top * Nat.pow 256 (4 - high.length) + last)

def ipv4Text (address : Nat) : List Char :=
  ['.'].intercalate
    ([address / 16777216, address / 65536 % 256, address / 256 % 256, address % 256].map
      (Nat.toDigits 10))

/-! ## Version 6 -/

/-- The pieces of an address as far as they are read: those before a gap, if there was
one, and those after. -/
structure Ipv6Progress where
  before : List Nat
  after : Option (List Nat)

namespace Ipv6Progress

/-- The number of places taken; a gap takes one. -/
def count (p : Ipv6Progress) : Nat :=
  p.before.length + (p.after.map (·.length + 1)).getD 0

def pieceCount (p : Ipv6Progress) : Nat :=
  p.before.length + (p.after.map List.length).getD 0

def push (p : Ipv6Progress) (piece : Nat) : Ipv6Progress :=
  match p.after with
  | none => { p with before := p.before ++ [piece] }
  | some pieces => { p with after := some (pieces ++ [piece]) }

def finish (p : Ipv6Progress) : Option (List Nat) :=
  match p.after with
  | none => if p.before.length = 8 then some p.before else none
  | some pieces =>
      some (p.before ++ List.replicate (8 - p.pieceCount) 0 ++ pieces)

end Ipv6Progress

/-- A decimal number below 256 without zeros before it. -/
def byteNumber? (cs : List Char) : Option Nat :=
  let value := cs.foldl (fun n c ↦ n * 10 + (c.toNat - 48)) 0
  if cs.isEmpty || !cs.all Char.isDigit then none
  else if (cs.head? = some '0' && 1 < cs.length) || 255 < value then none
  else some value

def dottedTail (cs : List Char) : Option (Nat × Nat) := do
  match ← (Text.splitOn (· = '.') cs).mapM byteNumber? with
  | [a, b, c, d] => some (a * 256 + b, c * 256 + d)
  | _ => none

def readIpv6Pieces : Nat → Ipv6Progress → List Char → Option Ipv6Progress
  | _, p, [] => some p
  | 0, _, _ => none
  | fuel + 1, p, c :: cs =>
      if p.count = 8 then none
      else if c = ':' then
        if p.after.isSome then none else readIpv6Pieces fuel { p with after := some [] } cs
      else
        let digits := ((c :: cs).take 4).takeWhile fun d ↦ (Text.hexDigitValue? d).isSome
        match (c :: cs).drop digits.length with
        | [] => some (p.push (Text.hexValue digits))
        | ':' :: rest =>
            if rest.isEmpty then none
            else readIpv6Pieces fuel (p.push (Text.hexValue digits)) rest
        | '.' :: _ =>
            if digits.isEmpty || 6 < p.count then none
            else
              match dottedTail (c :: cs) with
              | none => none
              | some (high, low) => some ((p.push high).push low)
        | _ => none

def readIpv6 (cs : List Char) : Option (List Nat) :=
  match cs with
  | ':' :: ':' :: rest =>
      (readIpv6Pieces rest.length ⟨[], some []⟩ rest).bind Ipv6Progress.finish
  | ':' :: _ => none
  | [_] => none
  | [] => none
  | _ => (readIpv6Pieces cs.length ⟨[], none⟩ cs).bind Ipv6Progress.finish

def leadingZeros (pieces : List Nat) : Nat :=
  (pieces.takeWhile (· = 0)).length

def longestZeros : List Nat → Nat
  | [] => 0
  | piece :: rest => max (leadingZeros (piece :: rest)) (longestZeros rest)

def splitAtZeros (count : Nat) : List Nat → List Nat × List Nat
  | [] => ([], [])
  | piece :: rest =>
      if leadingZeros (piece :: rest) = count then ([], (piece :: rest).drop count)
      else
        let (before, after) := splitAtZeros count rest
        (piece :: before, after)

/-- The text of an address: the first longest row of at least two zeros is left out. -/
def ipv6Text (pieces : List Nat) : List Char :=
  let joined (ps : List Nat) : List Char := [':'].intercalate (ps.map Text.hex)
  let count := longestZeros pieces
  if count < 2 then joined pieces
  else
    let (before, after) := splitAtZeros count pieces
    joined before ++ [':', ':'] ++ joined after

/-! ## Hosts -/

namespace Host

def text : Host → List Char
  | absent => []
  | empty => []
  | name cs => cs
  | ipv4 address => ipv4Text address
  | ipv6 pieces => '[' :: ipv6Text pieces ++ [']']

def readBracketed (cs : List Char) : Except UrlFault Host :=
  if cs.getLast? = some ']' then
    match readIpv6 (cs.drop 1).dropLast with
    | some pieces => .ok (ipv6 pieces)
    | none => .error .badIpv6
  else .error .badIpv6

def read (cs : List Char) : Except UrlFault Host :=
  if cs.head? = some '[' then readBracketed cs
  else
    match Domain.toAscii? (Text.Utf8.decodeLossy (percentDecode cs)) with
    | none => .error .badDomain
    | some domain =>
        if domain.isEmpty then .error .emptyHost
        else if endsInNumber domain then
          match readIpv4 domain with
          | some address => .ok (ipv4 address)
          | none => .error .badIpv4
        else .ok (name domain)

def isForbiddenChar (c : Char) : Bool :=
  ['\x00', '\t', '\n', '\r', ' ', '#', '/', ':', '<', '>', '?', '@', '[', '\\', ']', '^',
    '|'].contains c

def readOpaque (cs : List Char) : Except UrlFault Host :=
  if cs.head? = some '[' then readBracketed cs
  else if cs.any isForbiddenChar then .error .badHostCharacter
  else if cs.isEmpty then .ok empty
  else .ok (name (encode controlSet cs))

end Host

end TileFetch.Url
