import Mathlib.Algebra.Ring.Nat

/-!
# Spans of time

Durations as Rust has them: whole nanoseconds up to a fixed bound, multiplied with
saturation.

- `Duration.saturatingMul`
- `Backoff.delay`: the delays of an exponential backoff, in closed form.
-/

namespace Lib

structure Duration where
  nanos : Nat
  bounded : nanos ≤ 18446744073709551615 * 1000000000 + 999999999
  deriving DecidableEq, Repr

namespace Duration

@[ext] theorem ext {a b : Duration} (h : a.nanos = b.nanos) : a = b := by
  cases a
  cases b
  cases h
  rfl

def longest : Duration := ⟨18446744073709551615 * 1000000000 + 999999999, Nat.le_refl _⟩

def ofMillis (millis : UInt64) : Duration :=
  ⟨millis.toNat * 1000000, by have := millis.toNat_lt; omega⟩

def saturatingMul (a : Duration) (factor : Nat) : Duration :=
  ⟨min (a.nanos * factor) longest.nanos, Nat.min_le_right _ _⟩

instance : Min Duration := ⟨fun a b => if a.nanos ≤ b.nanos then a else b⟩

@[simp] theorem nanos_min (a b : Duration) : (min a b).nanos = min a.nanos b.nanos := by
  show (if a.nanos ≤ b.nanos then a else b).nanos = _
  split <;> omega

@[simp] theorem nanos_saturatingMul (a : Duration) (factor : Nat) :
    (a.saturatingMul factor).nanos = min (a.nanos * factor) longest.nanos := rfl

end Duration

/-! ## Exponential backoff -/

/-- A first delay, and the longest of those that follow. -/
structure Backoff where
  initial : Duration
  maximum : Duration
  deriving DecidableEq, Repr

namespace Backoff

/-- The delay after one that was waited for. -/
def next (backoff : Backoff) (current : Duration) : Duration :=
  min (current.saturatingMul 2) backoff.maximum

/-- The delay after so many others. -/
def delay (backoff : Backoff) : Nat → Duration
  | 0 => backoff.initial
  | n + 1 => backoff.next (backoff.delay n)

/-- **The delays double up to the maximum.** -/
theorem nanos_delay (backoff : Backoff) (n : Nat) :
    (backoff.delay (n + 1)).nanos =
      min (backoff.initial.nanos * 2 ^ (n + 1)) backoff.maximum.nanos := by
  have hmaximum := backoff.maximum.bounded
  induction n with
  | zero =>
    simp only [delay, next, Duration.nanos_min, Duration.nanos_saturatingMul, Duration.longest]
    omega
  | succ n ih =>
    have hpow : backoff.initial.nanos * 2 ^ (n + 1 + 1) =
        backoff.initial.nanos * 2 ^ (n + 1) * 2 := by
      rw [Nat.pow_succ, Nat.mul_assoc]
    rw [delay, next, Duration.nanos_min, Duration.nanos_saturatingMul, ih, hpow]
    simp only [Duration.longest]
    omega

end Backoff

end Lib
