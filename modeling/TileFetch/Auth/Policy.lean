import TileFetch.Auth.Context

/-!
# Refresh policies

A policy says when a context that is still accepted is refreshed: a while before it
expires, or once it has a certain age.  The while before expiry is shortened at random by
up to a quarter, so that contexts issued together are not refreshed together.
-/

namespace TileFetch.Auth

open Time (Instant Span)

structure Policy where
  /-- How long before its expiry a context is refreshed. -/
  window : Option Span
  maxAge : Option Span
  deriving DecidableEq

namespace Policy

def reactive : Policy :=
  ⟨none, none⟩

/-- The policy with a window.  A negative one is taken for zero, under which a context is still
refreshed when it expires. -/
def withWindow (p : Policy) (window : Span) : Policy :=
  { p with window := some (if window.nanos < 0 then .zero else window) }

def withMaxAge (p : Policy) (age : Span) : Policy :=
  { p with maxAge := if 0 < age.nanos then some age else none }

def isReactive (p : Policy) : Bool :=
  p.window.isNone && p.maxAge.isNone

def maxDraw : Nat := 9223372036854775807

/-- The number of milliseconds, from zero on, by which a window may be shortened. -/
def jitterCount (window : Span) : Nat :=
  min (window.milliseconds / 4).toNat maxDraw

def jitter (window : Span) (draw : Nat) : Span :=
  if jitterCount window = 0 then .zero
  else (Span.ofNanos? ((draw % jitterCount window : Nat) * Time.millisecond)).getD .zero

def shortened (window : Span) (draw : Nat) : Span :=
  (Span.ofNanos? (window.nanos - (jitter window draw).nanos)).getD .zero

def byExpiry (p : Policy) (c : Context) (draw : Nat) : Option Instant := do
  let window ← p.window
  let expiresAt ← c.expiresAt
  expiresAt.sub? (shortened window draw)

def byAge (p : Policy) (issuedAt : Instant) : Option Instant := do
  let age ← p.maxAge
  issuedAt.add? age

def earliest : Option Instant → Option Instant → Option Instant
  | some a, some b => some (a.earlier b)
  | a, b => a.or b

def refreshAt (p : Policy) (c : Context) (issuedAt : Instant) (draw : Nat) :
    Option Instant :=
  earliest (p.byExpiry c draw) (p.byAge issuedAt)

end Policy

end TileFetch.Auth
