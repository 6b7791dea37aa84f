import TileFetch.Proofs.Json.Taken
import TileFetch.Time.Instant

/-!
# The parts of an instant

The year and the ordinal of a day, the time of day and the parts of an offset are in their ranges,
and give the instant back: `Instant.ofParts?_parts`.  They also fit the integers that an instant is
read from, so that what is written of an instant is read as the instant: `Instant.takes_json`.
-/

namespace TileFetch.Time

/-! ## Years and ordinals -/

theorem yearStart_mono {y z : Int} (h : y ≤ z) : yearStart y ≤ yearStart z := by
  unfold yearStart
  omega

theorem yearStart_succ (year : Int) : yearStart (year + 1) = yearStart year + daysInYear year := by
  have hleap : isLeap year = true ↔ year % 4 = 0 ∧ (year % 100 ≠ 0 ∨ year % 400 = 0) := by
    simp [isLeap]
  unfold yearStart daysInYear
  split_ifs with h
  · rw [hleap] at h
    omega
  · rw [hleap] at h
    omega

theorem yearOfDay_bounds (day : Int) :
    yearStart (yearOfDay day) ≤ day ∧ day < yearStart (yearOfDay day + 1) := by
  unfold yearOfDay
  generalize hguess : day * 400 / 146097 + 1 = guess
  dsimp only
  split_ifs with hbefore hafter
  · unfold yearStart at *
    omega
  · unfold yearStart at *
    omega
  · omega

theorem daysInYear_le (year : Int) : daysInYear year ≤ 366 := by
  unfold daysInYear
  split_ifs <;> omega

theorem ordinalOfDay_bounds (day : Int) :
    1 ≤ ordinalOfDay day ∧ ordinalOfDay day ≤ daysInYear (yearOfDay day) := by
  have hday := yearOfDay_bounds day
  rw [yearStart_succ] at hday
  unfold ordinalOfDay
  omega

theorem dayOf_yearOfDay (day : Int) : dayOf (yearOfDay day) (ordinalOfDay day) = day := by
  unfold dayOf ordinalOfDay
  omega

/-- Year 0 is a leap year. -/
example : (yearOfDay (-1), ordinalOfDay (-1)) = (0, 366) := by
  decide

/-! ## Instants -/

theorem nanosPerDay_eq : nanosPerDay = 86400000000000 :=
  rfl

namespace Instant

variable (t : Instant)

theorem ofLocal?_localNanos : ofLocal? t.localNanos t.offset = some t :=
  dif_pos ⟨t.lower, t.upper⟩

/-- The local day of an instant lies in the range of dates. -/
theorem day_bounds : yearStart firstYear ≤ t.day ∧ t.day < yearStart (lastYear + 1) := by
  have hlower := t.lower
  have hupper := t.upper
  unfold firstNano at hlower
  unfold endNano at hupper
  unfold day
  rw [nanosPerDay_eq] at *
  omega

theorem year_bounds : firstYear ≤ t.year ∧ t.year ≤ lastYear := by
  have hday := t.day_bounds
  have hyear := yearOfDay_bounds t.day
  refine ⟨not_lt.mp fun hlow ↦ ?_, not_lt.mp fun hhigh ↦ ?_⟩
  · have hmono := yearStart_mono (Int.add_one_le_of_lt hlow)
    unfold year at hmono
    omega
  · have hmono := yearStart_mono (Int.add_one_le_of_lt hhigh)
    unfold year at hmono
    omega

theorem ordinal_bounds : 1 ≤ t.ordinal ∧ t.ordinal ≤ daysInYear t.year :=
  ordinalOfDay_bounds t.day

theorem dayOf?_year_ordinal : dayOf? t.year t.ordinal = .ok t.day := by
  obtain ⟨hfirst, hlast⟩ := t.year_bounds
  obtain ⟨hone, hlength⟩ := t.ordinal_bounds
  rw [dayOf?, if_neg (by simp only [Bool.or_eq_true, decide_eq_true_eq]; omega),
    if_neg (by simp only [Bool.or_eq_true, decide_eq_true_eq]; omega)]
  exact congrArg Except.ok (dayOf_yearOfDay t.day)

theorem hour_bounds : 0 ≤ t.hour ∧ t.hour ≤ 23 := by
  unfold hour sinceMidnight second
  rw [nanosPerDay_eq]
  omega

theorem minute_bounds : 0 ≤ t.minute ∧ t.minute ≤ 59 := by
  unfold minute
  omega

theorem secondOfMinute_bounds : 0 ≤ t.secondOfMinute ∧ t.secondOfMinute ≤ 59 := by
  unfold secondOfMinute
  omega

theorem nanoOfSecond_bounds : 0 ≤ t.nanoOfSecond ∧ t.nanoOfSecond ≤ 999999999 := by
  unfold nanoOfSecond second
  omega

theorem sinceMidnight_eq : t.sinceMidnight =
    ((t.hour * 60 + t.minute) * 60 + t.secondOfMinute) * second + t.nanoOfSecond := by
  unfold hour minute secondOfMinute nanoOfSecond second
  omega

theorem timeOfDay?_parts :
    timeOfDay? t.hour t.minute t.secondOfMinute t.nanoOfSecond = .ok t.sinceMidnight := by
  have hhour := t.hour_bounds
  have hminute := t.minute_bounds
  have hsecond := t.secondOfMinute_bounds
  have hnano := t.nanoOfSecond_bounds
  rw [timeOfDay?, ← sinceMidnight_eq]
  repeat rw [if_neg (by simp only [Bool.or_eq_true, decide_eq_true_eq]; omega)]

end Instant

/-! ## Offsets -/

namespace Offset

variable (o : Offset)

/-- The parts have the sign of the offset, and their sizes are those of a time of day. -/
theorem exists_parts : ∃ hours minutes secs : Nat, hours ≤ 25 ∧ minutes ≤ 59 ∧ secs ≤ 59 ∧
    ((o.hours = hours ∧ o.minutes = minutes ∧ o.secondsOfMinute = secs ∧
        o.seconds = hours * 3600 + minutes * 60 + secs) ∨
      (o.hours = -hours ∧ o.minutes = -minutes ∧ o.secondsOfMinute = -secs ∧
        o.seconds = -(hours * 3600 + minutes * 60 + secs))) := by
  have hlower := o.lower
  have hupper := o.upper
  obtain ⟨n, hn⟩ := o.seconds.eq_nat_or_neg
  refine ⟨n / 3600, n % 3600 / 60, n % 60, by omega, by omega, by omega, ?_⟩
  unfold hours minutes secondsOfMinute
  rcases hn with hn | hn
  · left
    rw [hn]
    refine ⟨rfl, rfl, rfl, by omega⟩
  · right
    rw [hn, Int.neg_tdiv, Int.neg_tmod, Int.neg_tdiv, Int.neg_tmod]
    refine ⟨rfl, rfl, rfl, by omega⟩

example : let o : Offset := ⟨-5430, by decide, by decide⟩
    (o.hours, o.minutes, o.secondsOfMinute) = (-1, -30, -30) := by
  decide

theorem hours_bounds : -25 ≤ o.hours ∧ o.hours ≤ 25 := by
  obtain ⟨hours, minutes, secs, hhours, -, -, h⟩ := o.exists_parts
  omega

theorem minutes_bounds : -59 ≤ o.minutes ∧ o.minutes ≤ 59 := by
  obtain ⟨hours, minutes, secs, -, hminutes, -, h⟩ := o.exists_parts
  omega

theorem secondsOfMinute_bounds : -59 ≤ o.secondsOfMinute ∧ o.secondsOfMinute ≤ 59 := by
  obtain ⟨hours, minutes, secs, -, -, hsecs, h⟩ := o.exists_parts
  omega

/-- No part changes its sign when the offset is put together. -/
theorem offset?_parts : offset? o.hours o.minutes o.secondsOfMinute = .ok o := by
  have hhours := o.hours_bounds
  have hminutes := o.minutes_bounds
  have hsecs := o.secondsOfMinute_bounds
  unfold offset?
  repeat rw [if_neg (by simp only [Bool.or_eq_true, decide_eq_true_eq]; omega)]
  obtain ⟨hours, minutes, secs, -, -, -, h⟩ := o.exists_parts
  dsimp only
  have hminutes' : (if 0 < o.hours then (o.minutes.natAbs : Int)
      else if o.hours < 0 then -(o.minutes.natAbs : Int) else o.minutes) = o.minutes := by
    split_ifs <;> omega
  have hsecs' : (if 0 < o.hours || (o.hours = 0 && 0 < o.minutes) then
        (o.secondsOfMinute.natAbs : Int)
      else if o.hours < 0 || o.minutes < 0 then -(o.secondsOfMinute.natAbs : Int)
      else o.secondsOfMinute) = o.secondsOfMinute := by
    simp only [Bool.or_eq_true, Bool.and_eq_true, decide_eq_true_eq]
    split_ifs <;> omega
  have htotal : o.hours * 3600 + o.minutes * 60 + o.secondsOfMinute = o.seconds := by
    omega
  simp only [hminutes', hsecs', htotal]
  exact dif_pos ⟨o.lower, o.upper⟩

end Offset

/-! ## All parts -/

namespace Instant

variable (t : Instant)

theorem localNanos_eq : (t.day - epochDay) * nanosPerDay + t.sinceMidnight = t.localNanos := by
  unfold day sinceMidnight
  rw [nanosPerDay_eq]
  omega

def IsSplit (numbers : List Int) : Prop :=
  ∃ year ordinal hour minute sec nano hours minutes secs,
    numbers = [year, ordinal, hour, minute, sec, nano, hours, minutes, secs] ∧
    (1 ≤ ordinal ∧ ordinal ≤ daysInYear year) ∧ (0 ≤ hour ∧ hour < 24) ∧
    (0 ≤ minute ∧ minute < 60) ∧ (0 ≤ sec ∧ sec < 60) ∧ (0 ≤ nano ∧ nano < 1000000000) ∧
    t.localNanos = ((dayOf year ordinal - epochDay) * 86400 +
      ((hour * 60 + minute) * 60 + sec)) * 1000000000 + nano ∧
    (-60 < minutes ∧ minutes < 60) ∧ (-60 < secs ∧ secs < 60) ∧
    ((0 ≤ hours ∧ 0 ≤ minutes ∧ 0 ≤ secs) ∨ (hours ≤ 0 ∧ minutes ≤ 0 ∧ secs ≤ 0)) ∧
    t.offset.seconds = hours * 3600 + minutes * 60 + secs

theorem isSplit_parts : t.IsSplit t.parts := by
  have hhour := t.hour_bounds
  have hminute := t.minute_bounds
  have hsecond := t.secondOfMinute_bounds
  have hnano := t.nanoOfSecond_bounds
  have hmidnight := t.sinceMidnight_eq
  have hlocal := t.localNanos_eq
  have hday : dayOf t.year t.ordinal = t.day := dayOf_yearOfDay t.day
  obtain ⟨hours, minutes, secs, -, hminutes, hsecs, hoffset⟩ := t.offset.exists_parts
  rw [nanosPerDay_eq] at hlocal
  unfold second at hmidnight
  refine ⟨_, _, _, _, _, _, _, _, _, rfl, t.ordinal_bounds, ?_⟩
  rw [hday]
  omega

/-- The parts of an instant give it back. -/
theorem ofParts?_parts : ofParts? t.parts = .ok t := by
  rw [parts, ofParts?, t.dayOf?_year_ordinal, t.timeOfDay?_parts, t.offset.offset?_parts]
  simp only [bind, Except.bind]
  rw [localNanos_eq, t.ofLocal?_localNanos]

end Instant

/-! ## Instants in documents -/

open Json (Decoder RowShape itemTrees)

namespace Instant

variable {depth : Nat} (t : Instant)

theorem takesParts :
    RowShape.TakesParts depth shape.parts (itemTrees (t.parts.map Json.int)) t.parts := by
  have hyear := t.year_bounds
  have hordinal := t.ordinal_bounds
  have hlength := daysInYear_le t.year
  have hhour := t.hour_bounds
  have hminute := t.minute_bounds
  have hsecond := t.secondOfMinute_bounds
  have hnano := t.nanoOfSecond_bounds
  have hhours := t.offset.hours_bounds
  have hminutes := t.offset.minutes_bounds
  have hseconds := t.offset.secondsOfMinute_bounds
  unfold firstYear lastYear at hyear
  have hnatural {bits : Nat} {i : Int} (hbits : bits ≤ 64) (hlow : 0 ≤ i) (hhigh : i < 2 ^ bits) :
      ((Decoder.natural bits).map Int.ofNat).Takes depth (Json.int i).tree i := by
    obtain ⟨n, rfl⟩ := Int.eq_ofNat_of_zero_le hlow
    exact (Decoder.takes_natural hbits (by exact_mod_cast hhigh)).map Int.ofNat
  refine .cons (Decoder.takes_signed (by decide) ?_ ?_) <| .cons (hnatural (by decide) ?_ ?_) <|
    .cons (hnatural (by decide) ?_ ?_) <| .cons (hnatural (by decide) ?_ ?_) <|
    .cons (hnatural (by decide) ?_ ?_) <| .cons (hnatural (by decide) ?_ ?_) <|
    .cons (Decoder.takes_signed (by decide) ?_ ?_) <|
    .cons (Decoder.takes_signed (by decide) ?_ ?_) <|
    .cons (Decoder.takes_signed (by decide) ?_ ?_) .nil
  all_goals omega

theorem takes_json (hdepth : 1 < depth) : decoder.Takes depth t.json.tree t :=
  RowShape.takes_list hdepth t.takesParts t.ofParts?_parts

end Instant

end TileFetch.Time
