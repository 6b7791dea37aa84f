import Mathlib
import TileFetch.Auth.Policy

/-!
# When a context is to be refreshed

A policy is made from settings, of which the last of each kind counts.  The time of a refresh is
the earlier of two triggers: the beginning of the window before expiry, which is shortened at
random by up to a quarter, and the age.  A trigger that dates do not reach is no trigger.  No
setting, context or draw makes the arithmetic leave the ranges of its numbers.
-/

namespace TileFetch.Time

/-! ## Moving instants -/

namespace Instant

theorem ofLocal?_eq_some_iff {localNanos : Int} {offset : Offset} {t : Instant} :
    ofLocal? localNanos offset = some t ↔ t.localNanos = localNanos ∧ t.offset = offset := by
  unfold ofLocal?
  constructor
  · intro h
    split_ifs at h with hrange
    obtain rfl := Option.some.inj h
    exact ⟨rfl, rfl⟩
  · rintro ⟨rfl, rfl⟩
    rw [dif_pos ⟨t.lower, t.upper⟩]

theorem add?_eq_some_iff {t u : Instant} {s : Span} :
    t.add? s = some u ↔ u.offset = t.offset ∧ u.nanos = t.nanos + s.nanos := by
  rw [add?, ofLocal?_eq_some_iff, and_comm]
  refine and_congr_right fun hoffset ↦ ?_
  simp only [nanos, hoffset]
  omega

theorem sub?_eq_some_iff {t u : Instant} {s : Span} :
    t.sub? s = some u ↔ u.offset = t.offset ∧ u.nanos = t.nanos - s.nanos := by
  rw [sub?, ofLocal?_eq_some_iff, and_comm]
  refine and_congr_right fun hoffset ↦ ?_
  simp only [nanos, hoffset]
  omega

end Instant

end TileFetch.Time

namespace TileFetch.Auth

open Time (Instant Span)

/-! ## Policies and their settings -/

inductive Setting where
  | window (window : Span)
  | maxAge (age : Span)

namespace Setting

def window? : Setting → Option Span
  | window w => some w
  | maxAge _ => none

def maxAge? : Setting → Option Span
  | window _ => none
  | maxAge age => some age

end Setting

def lastWindow? (settings : List Setting) : Option Span :=
  (settings.filterMap Setting.window?).getLast?

def lastMaxAge? (settings : List Setting) : Option Span :=
  (settings.filterMap Setting.maxAge?).getLast?

namespace Policy

def set (p : Policy) : Setting → Policy
  | .window w => p.withWindow w
  | .maxAge age => p.withMaxAge age

def ofSettings (settings : List Setting) : Policy :=
  settings.foldl set reactive

theorem ofSettings_concat (settings : List Setting) (setting : Setting) :
    ofSettings (settings ++ [setting]) = (ofSettings settings).set setting :=
  List.foldl_append

theorem clamped_nanos (w : Span) :
    (if w.nanos < 0 then .zero else w : Span).nanos = max w.nanos 0 := by
  split_ifs with hneg
  · exact (max_eq_right hneg.le).symm
  · exact (max_eq_left (not_lt.mp hneg)).symm

theorem window_ofSettings_eq_some_iff {settings : List Setting} {window : Span} :
    (ofSettings settings).window = some window ↔
      ∃ w, lastWindow? settings = some w ∧ window.nanos = max w.nanos 0 := by
  have hsame : ∀ {v w : Span}, v = w ↔ v.nanos = w.nanos := by
    rintro ⟨v, -, -⟩ ⟨w, -, -⟩
    simp
  induction settings using List.reverseRecOn with
  | nil => simp [ofSettings, reactive, lastWindow?]
  | append_singleton settings setting ih =>
      rw [ofSettings_concat]
      cases setting with
      | window w =>
          simp only [set, withWindow, lastWindow?, List.filterMap_append, List.filterMap_cons,
            Setting.window?, List.filterMap_nil, List.getLast?_concat, Option.some.injEq,
            exists_eq_left']
          rw [hsame, clamped_nanos, eq_comm]
      | maxAge age => simpa [set, withMaxAge, lastWindow?, Setting.window?] using ih

theorem maxAge_ofSettings_eq_some_iff {settings : List Setting} {age : Span} :
    (ofSettings settings).maxAge = some age ↔ lastMaxAge? settings = some age ∧ 0 < age.nanos := by
  induction settings using List.reverseRecOn with
  | nil => simp [ofSettings, reactive, lastMaxAge?]
  | append_singleton settings setting ih =>
      rw [ofSettings_concat]
      cases setting with
      | window w => simpa [set, withWindow, lastMaxAge?, Setting.maxAge?] using ih
      | maxAge own =>
          simp only [set, withMaxAge, lastMaxAge?, List.filterMap_append, List.filterMap_cons,
            Setting.maxAge?, List.filterMap_nil, List.getLast?_concat, Option.some.injEq]
          split_ifs with hpos
          · constructor
            · intro h
              obtain rfl := Option.some.inj h
              exact ⟨rfl, hpos⟩
            · rintro ⟨rfl, -⟩
              rfl
          · simp only [false_iff]
            rintro ⟨rfl, hage⟩
            exact hpos hage

/-! ## The shortening of a window -/

section Jitter

variable {window : Span}

theorem milliseconds_bounds (h : 0 ≤ window.nanos) :
    0 ≤ window.milliseconds ∧ window.milliseconds * Time.millisecond ≤ window.nanos ∧
      window.nanos < (window.milliseconds + 1) * Time.millisecond := by
  have hdiv : window.milliseconds = window.nanos / 1000000 := Int.tdiv_eq_ediv_of_nonneg h
  simp only [hdiv, Time.millisecond]
  omega

/-- Four times the number of milliseconds that may be drawn fit in the window. -/
theorem jitterCount_le (h : 0 ≤ window.nanos) :
    4 * (jitterCount window : Int) * Time.millisecond ≤ window.nanos := by
  obtain ⟨hnonneg, hle, -⟩ := milliseconds_bounds h
  have hmin : jitterCount window ≤ (window.milliseconds / 4).toNat := min_le_left _ _
  simp only [Time.millisecond] at hle ⊢
  omega

theorem jitterCount_le_one (h : 0 ≤ window.nanos) (hshort : window.nanos < 8 * Time.millisecond) :
    jitterCount window ≤ 1 := by
  obtain ⟨hnonneg, hle, -⟩ := milliseconds_bounds h
  have hmin : jitterCount window ≤ (window.milliseconds / 4).toNat := min_le_left _ _
  simp only [Time.millisecond] at hle hshort
  omega

/-- A number is drawn only from a range that is not empty, and its span is none that is too
long. -/
theorem ofNanos?_draw (h : 0 ≤ window.nanos) (draw : Nat) (hcount : jitterCount window ≠ 0) :
    Span.ofNanos? ((draw % jitterCount window : Nat) * Time.millisecond) =
      some (jitter window draw) := by
  have hlt : draw % jitterCount window < jitterCount window :=
    Nat.mod_lt _ (Nat.pos_of_ne_zero hcount)
  have hle := jitterCount_le h
  have hupper := window.upper
  have hrange : -((Time.maxSeconds + 1) * Time.second + 999999999) ≤
        ((draw % jitterCount window : Nat) : Int) * Time.millisecond ∧
      ((draw % jitterCount window : Nat) : Int) * Time.millisecond ≤
        Time.maxSeconds * Time.second + 999999999 := by
    simp only [Time.maxSeconds, Time.second, Time.millisecond] at hle hupper ⊢
    omega
  rw [jitter, if_neg hcount, Span.ofNanos?, dif_pos hrange]
  rfl

theorem jitter_nanos (h : 0 ≤ window.nanos) (draw : Nat) :
    (jitter window draw).nanos =
      if jitterCount window = 0 then 0
      else (draw % jitterCount window : Nat) * Time.millisecond := by
  split_ifs with hcount
  · rw [jitter, if_pos hcount]
    rfl
  · have hdraw := ofNanos?_draw h draw hcount
    unfold Span.ofNanos? at hdraw
    split_ifs at hdraw
    rw [← Option.some.inj hdraw]

/-- A window is shortened by at most a quarter, and one of less than eight milliseconds not at
all. -/
theorem jitter_bounds (h : 0 ≤ window.nanos) (draw : Nat) :
    0 ≤ (jitter window draw).nanos ∧ 4 * (jitter window draw).nanos ≤ window.nanos ∧
      (window.nanos < 8 * Time.millisecond → (jitter window draw).nanos = 0) := by
  have hle := jitterCount_le h
  rw [jitter_nanos h]
  split_ifs with hcount
  · exact ⟨le_rfl, by simpa using h, fun _ ↦ rfl⟩
  · have hlt : draw % jitterCount window < jitterCount window :=
      Nat.mod_lt _ (Nat.pos_of_ne_zero hcount)
    refine ⟨?_, ?_, ?_⟩
    · simp only [Time.millisecond]
      omega
    · simp only [Time.millisecond] at hle ⊢
      omega
    · intro hshort
      have hone := jitterCount_le_one h hshort
      have hdraw : draw % jitterCount window = 0 := by omega
      simp [hdraw]

theorem ofNanos?_shortened (h : 0 ≤ window.nanos) (draw : Nat) :
    Span.ofNanos? (window.nanos - (jitter window draw).nanos) = some (shortened window draw) := by
  obtain ⟨hnonneg, hquarter, -⟩ := jitter_bounds h draw
  have hupper := window.upper
  have hrange : -((Time.maxSeconds + 1) * Time.second + 999999999) ≤
        window.nanos - (jitter window draw).nanos ∧
      window.nanos - (jitter window draw).nanos ≤ Time.maxSeconds * Time.second + 999999999 := by
    simp only [Time.maxSeconds, Time.second] at hupper ⊢
    omega
  rw [shortened, Span.ofNanos?, dif_pos hrange]
  rfl

theorem shortened_nanos (h : 0 ≤ window.nanos) (draw : Nat) :
    (shortened window draw).nanos = window.nanos - (jitter window draw).nanos := by
  have hspan := ofNanos?_shortened h draw
  unfold Span.ofNanos? at hspan
  split_ifs at hspan
  rw [← Option.some.inj hspan]

end Jitter

/-! ## Triggers -/

theorem earliest_eq_none_iff {a b : Option Instant} :
    earliest a b = none ↔ a = none ∧ b = none := by
  cases a <;> cases b <;> simp [earliest]

theorem earliest_eq_some {a b : Option Instant} {t : Instant} (h : earliest a b = some t) :
    (a = some t ∨ b = some t) ∧ ∀ u, a = some u ∨ b = some u → t.nanos ≤ u.nanos := by
  cases a with
  | none =>
      have hb : b = some t := by simpa [earliest] using h
      refine ⟨.inr hb, ?_⟩
      simp [hb]
  | some x =>
      cases b with
      | none =>
          have hx : x = t := by simpa [earliest] using h
          simp [hx]
      | some y =>
          have ht : x.earlier y = t := by simpa [earliest] using h
          unfold Instant.earlier at ht
          split_ifs at ht with hlt
          · subst ht
            refine ⟨.inr rfl, ?_⟩
            rintro u (⟨⟨⟩⟩ | ⟨⟨⟩⟩)
            · exact hlt.le
            · exact le_rfl
          · subst ht
            refine ⟨.inl rfl, ?_⟩
            rintro u (⟨⟨⟩⟩ | ⟨⟨⟩⟩)
            · exact le_rfl
            · exact not_lt.mp hlt

end Policy

/-- The window before expiry, which is shortened, begins at `t`.  A negative window is taken for
zero. -/
def BeginsWindow (settings : List Setting) (c : Context) (shortening : Int) (t : Instant) : Prop :=
  ∃ w expiresAt, lastWindow? settings = some w ∧ c.expiresAt = some expiresAt ∧
    t.offset = expiresAt.offset ∧ t.nanos = expiresAt.nanos - (max w.nanos 0 - shortening)

def ReachesAge (settings : List Setting) (issuedAt t : Instant) : Prop :=
  ∃ age, lastMaxAge? settings = some age ∧ 0 < age.nanos ∧
    t.offset = issuedAt.offset ∧ t.nanos = issuedAt.nanos + age.nanos

namespace Policy

variable {settings : List Setting} {c : Context} {issuedAt t : Instant} {draw : Nat}

theorem window_nonneg {window : Span} (h : (ofSettings settings).window = some window) :
    0 ≤ window.nanos := by
  obtain ⟨w, -, hnanos⟩ := window_ofSettings_eq_some_iff.mp h
  exact hnanos ▸ le_max_right _ _

theorem byExpiry_eq_some_iff (p : Policy) : p.byExpiry c draw = some t ↔
    ∃ window expiresAt, p.window = some window ∧ c.expiresAt = some expiresAt ∧
      expiresAt.sub? (shortened window draw) = some t := by
  simp [byExpiry, Option.bind_eq_some_iff]

theorem byAge_eq_some_iff (p : Policy) : p.byAge issuedAt = some t ↔
    ∃ age, p.maxAge = some age ∧ issuedAt.add? age = some t := by
  simp [byAge, Option.bind_eq_some_iff]

theorem byExpiry_iff_beginsWindow {window : Span}
    (hwindow : (ofSettings settings).window = some window) :
    (ofSettings settings).byExpiry c draw = some t ↔
      BeginsWindow settings c (jitter window draw).nanos t := by
  have hnonneg := window_nonneg hwindow
  obtain ⟨w, hlast, hnanos⟩ := window_ofSettings_eq_some_iff.mp hwindow
  simp only [byExpiry_eq_some_iff, BeginsWindow, hwindow, hlast, Option.some.injEq,
    exists_eq_left', exists_and_left, Instant.sub?_eq_some_iff, shortened_nanos hnonneg, hnanos]

theorem byAge_iff_reachesAge :
    (ofSettings settings).byAge issuedAt = some t ↔ ReachesAge settings issuedAt t := by
  simp only [byAge_eq_some_iff, ReachesAge, maxAge_ofSettings_eq_some_iff, and_assoc,
    Instant.add?_eq_some_iff]

theorem milliseconds_lt {window : Span} (h : 0 ≤ window.nanos) : window.milliseconds < 2 ^ 127 := by
  obtain ⟨-, hle, -⟩ := milliseconds_bounds h
  have hupper := window.upper
  simp only [Time.maxSeconds, Time.second, Time.millisecond] at hle hupper
  calc window.milliseconds ≤ 9223372036854775807999 := by omega
    _ < 2 ^ 127 := by norm_num

theorem jitterCount_lt (window : Span) : jitterCount window < 2 ^ 63 := by
  have hle : jitterCount window ≤ maxDraw := min_le_right _ _
  calc jitterCount window ≤ maxDraw := hle
    _ < 2 ^ 63 := by norm_num [maxDraw]

/-- The numbers with which a window is shortened stay in their ranges: a count of milliseconds is
one of 128 bits, numbers are drawn from those below one of 64 bits and only if there are such, and
what is drawn and what it leaves of the window are spans. -/
structure InRange (window : Span) (draw : Nat) : Prop where
  milliseconds : 0 ≤ window.milliseconds ∧ window.milliseconds < 2 ^ 127
  count : jitterCount window < 2 ^ 63
  drawn : jitterCount window ≠ 0 →
    Span.ofNanos? ((draw % jitterCount window : Nat) * Time.millisecond) =
      some (jitter window draw)
  rest : Span.ofNanos? (window.nanos - (jitter window draw).nanos) = some (shortened window draw)

theorem inRange {window : Span} (h : 0 ≤ window.nanos) (draw : Nat) : InRange window draw where
  milliseconds := ⟨(milliseconds_bounds h).1, milliseconds_lt h⟩
  count := jitterCount_lt window
  drawn := ofNanos?_draw h draw
  rest := ofNanos?_shortened h draw

theorem exists_shortening (settings : List Setting) (draw : Nat) :
    ∃ shortening : Int,
      (∀ w, lastWindow? settings = some w → 0 ≤ shortening ∧ 4 * shortening ≤ max w.nanos 0 ∧
        (w.nanos < 8 * Time.millisecond → shortening = 0)) ∧
      ∀ c t, (ofSettings settings).byExpiry c draw = some t ↔
        BeginsWindow settings c shortening t := by
  cases hwindow : (ofSettings settings).window with
  | none =>
      have hlast : lastWindow? settings = none := by
        by_contra hne
        obtain ⟨w, hw⟩ := Option.ne_none_iff_exists'.mp hne
        have hset : ¬ ∃ window, (ofSettings settings).window = some window := by simp [hwindow]
        refine hset ⟨if w.nanos < 0 then .zero else w, ?_⟩
        refine window_ofSettings_eq_some_iff.mpr ⟨w, hw, ?_⟩
        exact clamped_nanos w
      exact ⟨0, by simp [hlast], by simp [byExpiry, hwindow, BeginsWindow, hlast]⟩
  | some window =>
      obtain ⟨w, hlast, hnanos⟩ := window_ofSettings_eq_some_iff.mp hwindow
      obtain ⟨hnonneg, hquarter, hshort⟩ := jitter_bounds (window_nonneg hwindow) draw
      refine ⟨(jitter window draw).nanos, ?_, fun c t ↦ byExpiry_iff_beginsWindow hwindow⟩
      intro w' hw'
      obtain rfl := Option.some.inj (hlast.symm.trans hw')
      refine ⟨hnonneg, hnanos ▸ hquarter, fun hlt ↦ hshort ?_⟩
      rw [hnanos]
      exact max_lt hlt (by decide)

/-- The time of a refresh is the least of its triggers, and there is none if there is no trigger.
The window before expiry is shortened by at most a quarter, and not at all if it has less than
eight milliseconds, so that it begins at or before the expiry.  All numbers stay in their
ranges. -/
theorem refreshAt_least_trigger (settings : List Setting) (draw : Nat) :
    (∀ window, (ofSettings settings).window = some window → InRange window draw) ∧
    ∃ shortening : Int,
      (∀ w, lastWindow? settings = some w → 0 ≤ shortening ∧ 4 * shortening ≤ max w.nanos 0 ∧
        (w.nanos < 8 * Time.millisecond → shortening = 0)) ∧
      ∀ c issuedAt,
        let triggers : Set Instant :=
          {t | BeginsWindow settings c shortening t ∨ ReachesAge settings issuedAt t}
        (∀ t, (ofSettings settings).refreshAt c issuedAt draw = some t →
          t ∈ triggers ∧ ∀ u ∈ triggers, t.nanos ≤ u.nanos) ∧
        ((ofSettings settings).refreshAt c issuedAt draw = none ↔ triggers = ∅) ∧
        ∀ t w expiresAt, BeginsWindow settings c shortening t → lastWindow? settings = some w →
          c.expiresAt = some expiresAt →
            expiresAt.nanos - max w.nanos 0 ≤ t.nanos ∧
            4 * t.nanos ≤ 4 * expiresAt.nanos - 3 * max w.nanos 0 ∧
            t.nanos ≤ expiresAt.nanos := by
  refine ⟨fun window hwindow ↦ inRange (window_nonneg hwindow) draw, ?_⟩
  obtain ⟨shortening, hbounds, hexpiry⟩ := exists_shortening settings draw
  refine ⟨shortening, hbounds, ?_⟩
  intro c issuedAt triggers
  have hmem : ∀ t, t ∈ triggers ↔ (ofSettings settings).byExpiry c draw = some t ∨
      (ofSettings settings).byAge issuedAt = some t := by
    intro t
    rw [hexpiry, byAge_iff_reachesAge]
    rfl
  refine ⟨?_, ?_, ?_⟩
  · intro t ht
    obtain ⟨hown, hleast⟩ := earliest_eq_some ht
    exact ⟨(hmem t).mpr hown, fun u hu ↦ hleast u ((hmem u).mp hu)⟩
  · rw [refreshAt, earliest_eq_none_iff, Set.eq_empty_iff_forall_notMem]
    simp only [hmem, not_or, forall_and, Option.eq_none_iff_forall_ne_some]
  · rintro t w expiresAt ⟨w', expiresAt', hlast', hexpires', -, ht⟩ hlast hexpires
    obtain rfl := Option.some.inj (hlast'.symm.trans hlast)
    obtain rfl := Option.some.inj (hexpires'.symm.trans hexpires)
    obtain ⟨hnonneg, hquarter, -⟩ := hbounds w' hlast
    have hwindow := le_max_right w'.nanos 0
    omega

end Policy

end TileFetch.Auth
