import TileFetch.Json.Row
import TileFetch.Json.Writer
import TileFetch.Time.Calendar
import TileFetch.Time.Span

/-!
# Instants

An instant is a local date and time together with its offset from universal time.
Dates are limited to the years from -9999 to 9999; moving an instant beyond them has
no result.
-/

namespace TileFetch.Time

def nanosPerDay : Int := 86400 * second

/-- The number of the day that instants are counted from: 1 January 1970. -/
def epochDay : Int := 719162

def firstNano : Int := (yearStart firstYear - epochDay) * nanosPerDay

def endNano : Int := (yearStart (lastYear + 1) - epochDay) * nanosPerDay

/-- An offset from universal time in seconds, less than 26 hours in size. -/
structure Offset where
  seconds : Int
  lower : -93599 ≤ seconds
  upper : seconds ≤ 93599
  deriving DecidableEq

def Offset.utc : Offset :=
  ⟨0, by decide, by decide⟩

/-- An instant: local nanoseconds since 1970, and the offset. -/
structure Instant where
  localNanos : Int
  offset : Offset
  lower : firstNano ≤ localNanos
  upper : localNanos < endNano
  deriving DecidableEq

namespace Instant

def ofLocal? (localNanos : Int) (offset : Offset) : Option Instant :=
  if h : firstNano ≤ localNanos ∧ localNanos < endNano then
    some ⟨localNanos, offset, h.1, h.2⟩
  else none

def ofNanos? (nanos : Int) : Option Instant :=
  ofLocal? nanos .utc

/-- Nanoseconds of universal time since 1970.  Instants are compared by them. -/
def nanos (t : Instant) : Int :=
  t.localNanos - t.offset.seconds * second

def unixSeconds (t : Instant) : Int :=
  t.nanos / second

def subsecond (t : Instant) : Int :=
  t.nanos % second

def notAfter (s t : Instant) : Bool :=
  s.nanos ≤ t.nanos

def isBefore (s t : Instant) : Bool :=
  s.nanos < t.nanos

def earlier (s t : Instant) : Instant :=
  if t.nanos < s.nanos then t else s

def add? (t : Instant) (s : Span) : Option Instant :=
  ofLocal? (t.localNanos + s.nanos) t.offset

def sub? (t : Instant) (s : Span) : Option Instant :=
  ofLocal? (t.localNanos - s.nanos) t.offset

/-! ## Parts -/

def day (t : Instant) : Int :=
  t.localNanos / nanosPerDay + epochDay

def sinceMidnight (t : Instant) : Int :=
  t.localNanos % nanosPerDay

def year (t : Instant) : Int :=
  yearOfDay t.day

def ordinal (t : Instant) : Int :=
  ordinalOfDay t.day

def hour (t : Instant) : Int :=
  t.sinceMidnight / (3600 * second)

def minute (t : Instant) : Int :=
  t.sinceMidnight / (60 * second) % 60

def secondOfMinute (t : Instant) : Int :=
  t.sinceMidnight / second % 60

def nanoOfSecond (t : Instant) : Int :=
  t.sinceMidnight % second

end Instant

namespace Offset

/-- Whole hours; all three parts of an offset have its sign. -/
def hours (o : Offset) : Int :=
  o.seconds.tdiv 3600

def minutes (o : Offset) : Int :=
  (o.seconds.tmod 3600).tdiv 60

def secondsOfMinute (o : Offset) : Int :=
  o.seconds.tmod 60

end Offset

/-! ## JSON

An instant is the list of its local year, ordinal, hour, minute, second and
nanosecond, and of the hours, minutes and seconds of its offset. -/

def Instant.parts (t : Instant) : List Int :=
  [t.year, t.ordinal, t.hour, t.minute, t.secondOfMinute, t.nanoOfSecond,
    t.offset.hours, t.offset.minutes, t.offset.secondsOfMinute]

def Instant.json (t : Instant) : Json :=
  .array (t.parts.map Json.int)

def outOfRange (part : String) : String :=
  "invalid " ++ part ++ ", expected an in-range value"

def dayOf? (year ordinal : Int) : Except String Int :=
  if year < firstYear || lastYear < year then .error (outOfRange "year")
  else if ordinal < 1 || daysInYear year < ordinal then .error (outOfRange "ordinal")
  else .ok (dayOf year ordinal)

def timeOfDay? (hour minute sec nano : Int) : Except String Int :=
  if hour < 0 || 23 < hour then .error (outOfRange "hour")
  else if minute < 0 || 59 < minute then .error (outOfRange "minute")
  else if sec < 0 || 59 < sec then .error (outOfRange "second")
  else if nano < 0 || 999999999 < nano then .error (outOfRange "nanosecond")
  else .ok (((hour * 60 + minute) * 60 + sec) * second + nano)

/-- An offset of parts.  The first part that is not zero gives its sign to the parts
after it. -/
def offset? (hours minutes secs : Int) : Except String Offset :=
  if hours < -25 || 25 < hours then .error (outOfRange "offset hour")
  else if minutes < -59 || 59 < minutes then .error (outOfRange "offset minute")
  else if secs < -59 || 59 < secs then .error (outOfRange "offset second")
  else
    let minutes' :=
      if 0 < hours then (minutes.natAbs : Int)
      else if hours < 0 then -(minutes.natAbs : Int)
      else minutes
    let secs' :=
      if 0 < hours || (hours = 0 && 0 < minutes) then (secs.natAbs : Int)
      else if hours < 0 || minutes < 0 then -(secs.natAbs : Int)
      else secs
    let total := hours * 3600 + minutes' * 60 + secs'
    if h : -93599 ≤ total ∧ total ≤ 93599 then .ok ⟨total, h.1, h.2⟩
    else .error (outOfRange "offset hour")

def Instant.ofParts? : List Int → Except String Instant
  | [year, ordinal, hour, minute, sec, nano, offsetHours, offsetMinutes, offsetSeconds] => do
      let day ← dayOf? year ordinal
      let time ← timeOfDay? hour minute sec nano
      let offset ← offset? offsetHours offsetMinutes offsetSeconds
      match ofLocal? ((day - epochDay) * nanosPerDay + time) offset with
      | some t => .ok t
      | none => .error (outOfRange "year")
  | _ => .error (outOfRange "year")

def Instant.shape : Json.RowShape Int Instant where
  expected := "an `OffsetDateTime`"
  parts :=
    [("year", .signed 32), ("day of year", (Json.Decoder.natural 16).map Int.ofNat),
      ("hour", (Json.Decoder.natural 8).map Int.ofNat),
      ("minute", (Json.Decoder.natural 8).map Int.ofNat),
      ("second", (Json.Decoder.natural 8).map Int.ofNat),
      ("nanosecond", (Json.Decoder.natural 32).map Int.ofNat),
      ("offset hours", .signed 8), ("offset minutes", .signed 8),
      ("offset seconds", .signed 8)]
  finish := Instant.ofParts?

def Instant.decoder : Json.Decoder Instant :=
  Instant.shape.decoder

/-! ## Text -/

def paddedDigits (width n : Nat) : String :=
  let digits := Nat.toDigits 10 n
  String.ofList (List.replicate (width - digits.length) '0' ++ digits)

/-- A year with four digits, and a sign before those of the years below zero. -/
def shownYear (year : Int) : String :=
  (if year < 0 then "-" else "") ++ paddedDigits 4 year.natAbs

/-- The fraction of a second with at least one digit and no zeros after it. -/
def shownSubsecond (nanos : Nat) : String :=
  match shownFraction 9 nanos with
  | [] => ".0"
  | fraction => String.ofList fraction

/-- An offset as `+02:30:00`. -/
def Offset.shown (o : Offset) : String :=
  (if o.seconds < 0 then "-" else "+") ++
    ":".intercalate ([o.hours, o.minutes, o.secondsOfMinute].map fun n ↦ paddedDigits 2 n.natAbs)

/-- An instant as `2025-11-10 9:05:00.0 +00:00:00`. -/
def Instant.shown (t : Instant) : String :=
  let (month, dayOfMonth) := monthAndDay 1 (monthLengths t.year) t.ordinal
  shownYear t.year ++ "-" ++ paddedDigits 2 month.natAbs ++ "-" ++
    paddedDigits 2 dayOfMonth.natAbs ++ " " ++ paddedDigits 1 t.hour.natAbs ++ ":" ++
    paddedDigits 2 t.minute.natAbs ++ ":" ++ paddedDigits 2 t.secondOfMinute.natAbs ++
    shownSubsecond t.nanoOfSecond.natAbs ++ " " ++ t.offset.shown

end TileFetch.Time
