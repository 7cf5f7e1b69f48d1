/-!
# Durations

A duration is a number of nanoseconds, bounded so that its whole seconds fit in sixty-four bits.
Doubling and adding a spread saturate at the bound, so no arithmetic on durations can fail.
-/

namespace DnsWarden

/-- A length of time in nanoseconds, less than `2 ^ 64` seconds. -/
structure Duration where
  nanos : Nat
  /-- No duration is longer than the whole seconds of sixty-four bits allow. -/
  inRange : nanos < 18446744073709551616000000000
deriving DecidableEq

namespace Duration

/-- The nanoseconds of the longest duration. -/
def longestNanos : Nat := 18446744073709551615999999999

/-- The duration of `n` nanoseconds, or the longest one if that is less. -/
def saturating (n : Nat) : Duration :=
  ⟨min n longestNanos, Nat.lt_of_le_of_lt (Nat.min_le_right _ _) (by decide)⟩

/-- The duration of `n` nanoseconds, if there is one. -/
def ofNanos? (n : Nat) : Option Duration :=
  if h : n < 18446744073709551616000000000 then some ⟨n, h⟩ else none

def longest : Duration := saturating longestNanos

def zero : Duration := saturating 0

def ofSeconds (n : Nat) : Duration := saturating (n * 1000000000)

def ofMillis (n : Nat) : Duration := saturating (n * 1000000)

instance : Inhabited Duration := ⟨zero⟩

def seconds (d : Duration) : Nat := d.nanos / 1000000000

def subsecond (d : Duration) : Nat := d.nanos % 1000000000

/-- Twice as long, or the longest duration. -/
def double (d : Duration) : Duration := saturating (2 * d.nanos)

/-- The sum, or the longest duration. -/
def plus (d e : Duration) : Duration := saturating (d.nanos + e.nanos)

/-- What is left of `d` after `e`. -/
def minus (d e : Duration) : Duration := saturating (d.nanos - e.nanos)

/--
Lengthens `d` by a random part of `spread`, where `draw` is the random number: by its remainder
modulo the spread, of which at most `2 ^ 64 - 1` nanoseconds count.
-/
def spreadBy (d spread : Duration) (draw : Nat) : Duration :=
  if spread.nanos = 0 then d
  else saturating (d.nanos + min (draw % spread.nanos) 18446744073709551615)

/-! ## Laws -/

@[ext] theorem ext {d e : Duration} (h : d.nanos = e.nanos) : d = e := by
  cases d
  cases e
  cases h
  rfl

theorem nanos_le (d : Duration) : d.nanos ≤ longestNanos :=
  Nat.le_of_lt_succ d.inRange

@[simp] theorem nanos_saturating (n : Nat) : (saturating n).nanos = min n longestNanos := rfl

@[simp] theorem saturating_nanos (d : Duration) : saturating d.nanos = d :=
  ext (Nat.min_eq_left d.nanos_le)

@[simp] theorem nanos_zero : zero.nanos = 0 := rfl

@[simp] theorem nanos_longest : longest.nanos = longestNanos := rfl

theorem nanos_double (d : Duration) : d.double.nanos = min (2 * d.nanos) longestNanos := rfl

theorem nanos_plus (d e : Duration) : (d.plus e).nanos = min (d.nanos + e.nanos) longestNanos := rfl

theorem nanos_minus (d e : Duration) : (d.minus e).nanos = d.nanos - e.nanos := by
  have := d.nanos_le
  simp only [minus, nanos_saturating]
  omega

end Duration

end DnsWarden
