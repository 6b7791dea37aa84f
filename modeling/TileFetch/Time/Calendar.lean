/-!
# The calendar

Days of the proleptic Gregorian calendar.  A day is numbered from 1 January of year
1, which is day 0, and is also named by its year and its ordinal, the place in the
year counted from 1.
-/

namespace TileFetch.Time

def isLeap (year : Int) : Bool :=
  year % 4 = 0 && (year % 100 ≠ 0 || year % 400 = 0)

def daysInYear (year : Int) : Int :=
  if isLeap year then 366 else 365

def yearStart (year : Int) : Int :=
  365 * (year - 1) + (year - 1) / 4 - (year - 1) / 100 + (year - 1) / 400

/-- The year of a day.  The guess is the year or the one before it. -/
def yearOfDay (day : Int) : Int :=
  let guess := day * 400 / 146097 + 1
  if day < yearStart guess then guess - 1
  else if yearStart (guess + 1) ≤ day then guess + 1
  else guess

/-- The place of a day in its year, from 1. -/
def ordinalOfDay (day : Int) : Int :=
  day - yearStart (yearOfDay day) + 1

def dayOf (year ordinal : Int) : Int :=
  yearStart year + ordinal - 1

def firstYear : Int := -9999

def lastYear : Int := 9999

def monthLengths (year : Int) : List Int :=
  [31, if isLeap year then 29 else 28, 31, 30, 31, 30, 31, 31, 30, 31, 30, 31]

/-- The month, from `month` on, and the day of the month of an ordinal counted from
the first day of `month`. -/
def monthAndDay : Int → List Int → Int → Int × Int
  | month, [], ordinal => (month, ordinal)
  | month, length :: rest, ordinal =>
      if ordinal ≤ length then (month, ordinal)
      else monthAndDay (month + 1) rest (ordinal - length)

end TileFetch.Time
