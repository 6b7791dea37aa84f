/-!
# Spans of time

A span is a signed number of nanoseconds.  Its whole seconds fit in 64 bits.
-/

namespace TileFetch.Time

def second : Int := 1000000000

def millisecond : Int := 1000000

def maxSeconds : Int := 9223372036854775807

structure Span where
  nanos : Int
  lower : -((maxSeconds + 1) * second + 999999999) ≤ nanos
  upper : nanos ≤ maxSeconds * second + 999999999
  deriving DecidableEq

namespace Span

def zero : Span :=
  ⟨0, by decide, by decide⟩

def max : Span :=
  ⟨maxSeconds * second + 999999999, by decide, by decide⟩

def min : Span :=
  ⟨-((maxSeconds + 1) * second + 999999999), by decide, by decide⟩

def ofNanos? (n : Int) : Option Span :=
  if h : -((maxSeconds + 1) * second + 999999999) ≤ n ∧ n ≤ maxSeconds * second + 999999999 then
    some ⟨n, h.1, h.2⟩
  else none

/-- The span of whole seconds and nanoseconds, which may have different signs. -/
def ofParts? (seconds nanos : Int) : Option Span :=
  ofNanos? (seconds * second + nanos)

/-- The whole seconds; a part of a second is dropped. -/
def seconds (s : Span) : Int :=
  s.nanos.tdiv second

/-- The nanoseconds beyond the whole seconds, with the sign of the span. -/
def subsecond (s : Span) : Int :=
  s.nanos.tmod second

def milliseconds (s : Span) : Int :=
  s.nanos.tdiv millisecond

end Span

def dropZeros (digits : List Char) : List Char :=
  (digits.reverse.dropWhile (· = '0')).reverse

/-- A fraction of one unit: the point and `width` digits, or nothing if it is zero. -/
def shownFraction (width fraction : Nat) : List Char :=
  let digits := Nat.toDigits 10 fraction
  match dropZeros (List.replicate (width - digits.length) '0' ++ digits) with
  | [] => []
  | kept => '.' :: kept

/-- A length of time in the largest unit of which it has at least one: `30s`, `1.5s`,
`20ms`, `7µs`, `0ns`. -/
def shownNanos (n : Nat) : String :=
  let shown (whole width fraction : Nat) (unit : String) : String :=
    String.ofList (Nat.toDigits 10 whole ++ shownFraction width fraction) ++ unit
  if 1000000000 ≤ n then shown (n / 1000000000) 9 (n % 1000000000) "s"
  else if 1000000 ≤ n then shown (n / 1000000) 6 (n % 1000000) "ms"
  else if 1000 ≤ n then shown (n / 1000) 3 (n % 1000) "µs"
  else shown n 0 0 "ns"

end TileFetch.Time
