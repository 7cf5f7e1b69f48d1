import DnsWarden.Proofs.Streaks
import Mathlib.Logic.Function.Iterate

/-!
# Delays in words

A machine keeps a length of time as whole seconds in a word of sixty-four bits, and the nanoseconds beyond
them in a word of thirty-two.  Its sums carry a second for a billion of nanoseconds, its random numbers are
drawn in a hundred and twenty-eight bits and cut to sixty-four, and where the seconds overflow it takes the
longest length.  `Duration.Pair` is this form, with operations that fail where a word overflows or where a
random number is asked for below zero.  The main statement is `Duration.spread_and_doubled`: the machine
never fails but comes to what the numbers of nanoseconds say, and that stays within their bounds.
-/

namespace DnsWarden.Duration

/-- A length of time in two words. -/
structure Pair where
  seconds : UInt64
  nanos : UInt32
  /-- The nanoseconds make no further second. -/
  nanos_lt : nanos.toNat < 1000000000
deriving DecidableEq

namespace Pair

/-- The length of time that two words stand for. -/
def duration (p : Pair) : Duration :=
  ⟨p.seconds.toNat * 1000000000 + p.nanos.toNat, by
    have seconds := p.seconds.toNat_lt
    have nanos := p.nanos_lt
    omega⟩

def zero : Pair := ⟨0, 0, by decide⟩

def longest : Pair := ⟨18446744073709551615, 999999999, by decide⟩

/-! ## Words -/

/-- The sum of two words, if a word can hold it. -/
def sum? (a b : UInt64) : Option UInt64 :=
  if a.toNat + b.toNat < 18446744073709551616 then some (a + b) else none

/-- Twice a word, if a word can hold it. -/
def twice? (a : UInt64) : Option UInt64 :=
  if 2 * a.toNat < 18446744073709551616 then some (2 * a) else none

/-- A random number below a bound, if there is one. -/
def sample? (bound : BitVec 128) (draw : Nat) : Option (BitVec 128) :=
  if bound = 0 then none else some (BitVec.ofNat 128 (draw % bound.toNat))

/-- A number in sixty-four bits, or the greatest that they can hold. -/
def cut (n : BitVec 128) : UInt64 :=
  if n.toNat < 18446744073709551616 then UInt64.ofNat n.toNat else 18446744073709551615

theorem sum?_cases (a b : UInt64) :
    (∃ c, sum? a b = some c ∧ c.toNat = a.toNat + b.toNat) ∨
      sum? a b = none ∧ 18446744073709551616 ≤ a.toNat + b.toNat := by
  unfold sum?
  split_ifs with fits
  · refine .inl ⟨a + b, rfl, ?_⟩
    rw [UInt64.toNat_add]
    exact Nat.mod_eq_of_lt fits
  · exact .inr ⟨rfl, Nat.not_lt.1 fits⟩

theorem twice?_cases (a : UInt64) :
    (∃ c, twice? a = some c ∧ c.toNat = 2 * a.toNat) ∨
      twice? a = none ∧ 18446744073709551616 ≤ 2 * a.toNat := by
  unfold twice?
  split_ifs with fits
  · refine .inl ⟨2 * a, rfl, ?_⟩
    rw [UInt64.toNat_mul]
    exact Nat.mod_eq_of_lt fits
  · exact .inr ⟨rfl, Nat.not_lt.1 fits⟩

theorem toNat_cut (n : BitVec 128) : (cut n).toNat = min n.toNat 18446744073709551615 := by
  unfold cut
  split_ifs with fits
  · rw [UInt64.toNat_ofNat_of_lt' fits]
    omega
  · show 18446744073709551615 = _
    omega

/-- What is left of a word after billions fits in thirty-two bits. -/
theorem toNat_rest (n : UInt64) : (n % 1000000000).toUInt32.toNat = n.toNat % 1000000000 := by
  have rest : (n % 1000000000).toNat = n.toNat % 1000000000 := UInt64.toNat_mod n 1000000000
  rw [UInt64.toNat_toUInt32, rest]
  omega

theorem toNat_nanos_add (p q : Pair) : (p.nanos + q.nanos).toNat = p.nanos.toNat + q.nanos.toNat := by
  have hp := p.nanos_lt
  have hq := q.nanos_lt
  rw [UInt32.toNat_add]
  exact Nat.mod_eq_of_lt (by omega)

theorem toNat_nanos_carried {p q : Pair} (carries : ¬ (p.nanos + q.nanos).toNat < 1000000000) :
    (p.nanos + q.nanos - 1000000000).toNat + 1000000000 = p.nanos.toNat + q.nanos.toNat := by
  have carries : 1000000000 ≤ (p.nanos + q.nanos).toNat := Nat.not_lt.1 carries
  have le : 1000000000 ≤ p.nanos + q.nanos := UInt32.le_iff_toNat_le.2 carries
  rw [UInt32.toNat_sub_of_le _ _ le, ← toNat_nanos_add]
  exact Nat.sub_add_cancel carries

theorem toNat_nanos_double (p : Pair) : (2 * p.nanos.toUInt64).toNat = 2 * p.nanos.toNat := by
  have nanos := p.nanos_lt
  rw [UInt64.toNat_mul, UInt32.toNat_toUInt64]
  show 2 * p.nanos.toNat % 18446744073709551616 = _
  omega

/-! ## Lengths of time -/

/-- The sum, if the seconds can hold it; a billion of nanoseconds is carried. -/
def plus? (p q : Pair) : Option Pair :=
  (sum? p.seconds q.seconds).bind fun s =>
    if h : (p.nanos + q.nanos).toNat < 1000000000 then some ⟨s, p.nanos + q.nanos, h⟩
    else (sum? s 1).map fun s => ⟨s, p.nanos + q.nanos - 1000000000, by
      have hp := p.nanos_lt
      have hq := q.nanos_lt
      have carried := toNat_nanos_carried h
      omega⟩

def plus (p q : Pair) : Pair := (p.plus? q).getD longest

/-- Twice as long, if the seconds can hold it. -/
def double? (p : Pair) : Option Pair :=
  (twice? p.seconds).bind fun s =>
    (sum? s (2 * p.nanos.toUInt64 / 1000000000)).map fun s =>
      ⟨s, (2 * p.nanos.toUInt64 % 1000000000).toUInt32, by
        rw [toNat_rest]
        exact Nat.mod_lt _ (by decide)⟩

def double (p : Pair) : Pair := p.double?.getD longest

/-- All nanoseconds in one word. -/
def total (p : Pair) : BitVec 128 :=
  BitVec.ofNat 128 p.seconds.toNat * 1000000000#128 + BitVec.ofNat 128 p.nanos.toNat

def ofNanos (n : UInt64) : Pair :=
  ⟨n / 1000000000, (n % 1000000000).toUInt32, by
    rw [toNat_rest]
    exact Nat.mod_lt _ (by decide)⟩

/-- Lengthens `p` by a random part of the spread, if a random number can be had. -/
def spreadBy? (p spread : Pair) (draw : Nat) : Option Pair :=
  if spread = zero then some p
  else (sample? spread.total draw).map fun n => p.plus (ofNanos (cut n))

theorem nanos_duration (p : Pair) :
    p.duration.nanos = p.seconds.toNat * 1000000000 + p.nanos.toNat := rfl

theorem duration_longest : longest.duration = Duration.longest := by decide

/-- The sum in words is the sum of the nanoseconds, or the longest length. -/
theorem duration_plus (p q : Pair) : (p.plus q).duration = p.duration.plus q.duration := by
  have hp := p.nanos_lt
  have hq := q.nanos_lt
  apply Duration.ext
  rw [nanos_plus, nanos_duration p, nanos_duration q]
  unfold plus plus?
  obtain ⟨s, fits, sum⟩ | ⟨full, big⟩ := sum?_cases p.seconds q.seconds
  · have bound := s.toNat_lt
    rw [fits, Option.bind_some]
    split_ifs with carry
    · have nanos := toNat_nanos_add p q
      rw [Option.getD_some, nanos_duration]
      unfold longestNanos
      dsimp only
      omega
    · have nanos := toNat_nanos_carried carry
      have pastBillion := toNat_nanos_add p q
      have one : (1 : UInt64).toNat = 1 := UInt64.toNat_one
      obtain ⟨s', fits', sum'⟩ | ⟨full', big'⟩ := sum?_cases s 1
      · have bound' := s'.toNat_lt
        rw [fits', Option.map_some, Option.getD_some, nanos_duration]
        unfold longestNanos
        dsimp only
        omega
      · rw [full', Option.map_none, Option.getD_none, duration_longest, nanos_longest]
        unfold longestNanos
        omega
  · rw [full, Option.bind_none, Option.getD_none, duration_longest, nanos_longest]
    unfold longestNanos
    omega

/-- Doubling in words is doubling the nanoseconds, or comes to the longest length. -/
theorem duration_double (p : Pair) : p.double.duration = p.duration.double := by
  have hp := p.nanos_lt
  apply Duration.ext
  rw [nanos_double, nanos_duration p]
  unfold double double? longestNanos
  obtain ⟨s, fits, twice⟩ | ⟨full, big⟩ := twice?_cases p.seconds
  · have nanos := toNat_nanos_double p
    have carried : (2 * p.nanos.toUInt64 / 1000000000).toNat = 2 * p.nanos.toNat / 1000000000 := by
      rw [UInt64.toNat_div, nanos]
      rfl
    rw [fits, Option.bind_some]
    obtain ⟨s', fits', sum⟩ | ⟨full, big⟩ := sum?_cases s (2 * p.nanos.toUInt64 / 1000000000)
    · have bound := s'.toNat_lt
      rw [fits', Option.map_some, Option.getD_some, nanos_duration]
      dsimp only
      rw [toNat_rest, nanos]
      omega
    · rw [full, Option.map_none, Option.getD_none]
      show 18446744073709551615999999999 = _
      omega
  · rw [full, Option.bind_none, Option.getD_none]
    show 18446744073709551615999999999 = _
    omega

theorem toNat_total (p : Pair) : p.total.toNat = p.duration.nanos := by
  have hp := p.nanos_lt
  have hs := p.seconds.toNat_lt
  rw [nanos_duration, total, BitVec.toNat_add, BitVec.toNat_mul, BitVec.toNat_ofNat, BitVec.toNat_ofNat,
    BitVec.toNat_ofNat]
  omega

theorem nanos_ofNanos (n : UInt64) : (ofNanos n).duration.nanos = n.toNat := by
  have seconds : (n / 1000000000).toNat = n.toNat / 1000000000 := UInt64.toNat_div n 1000000000
  rw [nanos_duration]
  unfold ofNanos
  dsimp only
  rw [seconds, toNat_rest]
  omega

theorem eq_zero_iff (p : Pair) : p = zero ↔ p.duration.nanos = 0 := by
  refine ⟨fun h => h ▸ rfl, fun h => ?_⟩
  obtain ⟨seconds, nanos, lt⟩ := p
  rw [nanos_duration] at h
  dsimp only at h
  obtain rfl : seconds = 0 := UInt64.toNat_inj.1 (by show _ = 0; omega)
  obtain rfl : nanos = 0 := UInt32.toNat_inj.1 (by show _ = 0; omega)
  rfl

/-- A random number is never asked for below zero, and what comes of it is what the nanoseconds say. -/
theorem duration_spreadBy? (p spread : Pair) (draw : Nat) :
    (p.spreadBy? spread draw).map duration = some (p.duration.spreadBy spread.duration draw) := by
  unfold spreadBy? spreadBy
  by_cases zero : spread = zero
  · rw [if_pos zero, if_pos ((eq_zero_iff spread).1 zero), Option.map_some]
  · have nonzero : spread.duration.nanos ≠ 0 := fun h => zero ((eq_zero_iff spread).2 h)
    have bound : spread.total ≠ 0 := by
      intro h
      apply nonzero
      rw [← toNat_total, h]
      rfl
    have drawn : (BitVec.ofNat 128 (draw % spread.total.toNat)).toNat = draw % spread.duration.nanos := by
      have lt := Nat.mod_lt draw (Nat.pos_of_ne_zero nonzero)
      have inRange := spread.duration.inRange
      rw [toNat_total, BitVec.toNat_ofNat]
      exact Nat.mod_eq_of_lt (by omega)
    rw [if_neg zero, if_neg nonzero, sample?, if_neg bound, Option.map_some, Option.map_some, duration_plus]
    unfold Duration.plus
    rw [nanos_ofNanos, toNat_cut, drawn]

end Pair

/-- The two words of a length of time. -/
def pair (d : Duration) : Pair :=
  ⟨UInt64.ofNat d.seconds, UInt32.ofNat d.subsecond, by
    rw [UInt32.toNat_ofNat']
    exact Nat.lt_of_le_of_lt (Nat.mod_le _ _) (Nat.mod_lt _ (by decide))⟩

theorem duration_pair (d : Duration) : d.pair.duration = d := by
  have inRange := d.inRange
  have seconds : d.seconds < 18446744073709551616 := by
    unfold Duration.seconds
    omega
  have rest : d.subsecond < 4294967296 := by
    unfold subsecond
    omega
  apply Duration.ext
  rw [Pair.nanos_duration]
  unfold pair
  dsimp only
  rw [UInt64.toNat_ofNat_of_lt' seconds, UInt32.toNat_ofNat_of_lt' rest]
  unfold Duration.seconds subsecond
  omega

/-! ## Bounds -/

theorem spreadBy_zero (d : Duration) (draw : Nat) : d.spreadBy zero draw = d := if_pos rfl

/-- Of a random number below the spread at most what fits in sixty-four bits is added. -/
theorem nanos_spreadBy (d : Duration) {s : Duration} {draw : Nat} (lt : draw < s.nanos) :
    (d.spreadBy s draw).nanos = min (d.nanos + min draw 18446744073709551615) longestNanos := by
  have nonzero : s.nanos ≠ 0 := Nat.ne_of_gt (Nat.lt_of_le_of_lt (Nat.zero_le draw) lt)
  unfold spreadBy
  rw [if_neg nonzero, nanos_saturating, Nat.mod_eq_of_lt lt]

theorem le_spreadBy (d s : Duration) (draw : Nat) : d.nanos ≤ (d.spreadBy s draw).nanos := by
  have bound := d.nanos_le
  unfold spreadBy
  split_ifs
  · exact Nat.le_refl _
  · rw [nanos_saturating]
    omega

theorem spreadBy_le_plus (d s : Duration) (draw : Nat) :
    (d.spreadBy s draw).nanos ≤ (d.plus s).nanos := by
  have bound := d.nanos_le
  rw [nanos_plus]
  unfold spreadBy
  split_ifs with zero
  · omega
  · have less := Nat.mod_lt draw (Nat.pos_of_ne_zero zero)
    rw [nanos_saturating]
    omega

/-- A spread adds less than itself, unless the sum saturates. -/
theorem spreadBy_lt_plus {d s : Duration} (nonzero : s ≠ .zero)
    (fits : d.nanos + s.nanos ≤ longestNanos) (draw : Nat) :
    (d.spreadBy s draw).nanos < (d.plus s).nanos := by
  have nonzero : s.nanos ≠ 0 := fun h => nonzero (Duration.ext h)
  have less := Nat.mod_lt draw (Nat.pos_of_ne_zero nonzero)
  rw [nanos_plus, Nat.min_eq_left fits]
  unfold spreadBy
  rw [if_neg nonzero, nanos_saturating]
  omega

/-! ## Doubling over and over -/

theorem duration_doubled (p : Pair) (k : Nat) :
    (Pair.double^[k] p).duration = double^[k] p.duration :=
  Function.Semiconj.iterate_right Pair.duration_double k p

/-- Doubled over and over, a length grows by a power of two, up to the longest one. -/
theorem nanos_doubled (d : Duration) (k : Nat) :
    (double^[k] d).nanos = min (d.nanos * 2 ^ k) longestNanos := by
  induction k with
  | zero =>
    rw [Function.iterate_zero_apply, Nat.pow_zero, Nat.mul_one]
    exact (Nat.min_eq_left d.nanos_le).symm
  | succ k ih =>
    rw [Function.iterate_succ_apply']
    exact nanos_double_streak ih

theorem doubled_le_doubled {d e : Duration} (le : d.nanos ≤ e.nanos) {j k : Nat} (sooner : j ≤ k) :
    (double^[j] d).nanos ≤ (double^[k] e).nanos := by
  have more : d.nanos * 2 ^ j ≤ e.nanos * 2 ^ k :=
    Nat.mul_le_mul le (Nat.pow_le_pow_right (by decide) sooner)
  rw [nanos_doubled, nanos_doubled]
  omega

/--
A length of time can be lengthened by every random part of every spread, in words as in nanoseconds: by
nothing if the spread is zero, else by a number below it, of which at most what fits in sixty-four bits
counts, up to the longest length.  So the outcome is no shorter than before and no longer than the sum,
and it is shorter than the sum if that does not saturate.  Doubled `k` times, in words or in nanoseconds,
a length has `2 ^ k` times the nanoseconds, up to the longest length.  So the outcome is no shorter for a
longer one, nor for more times.
-/
theorem spread_and_doubled (d : Duration) :
    (∀ s draw, (d.pair.spreadBy? s.pair draw).map Pair.duration = some (d.spreadBy s draw) ∧
      (s = .zero → d.spreadBy s draw = d) ∧
      (draw < s.nanos →
        (d.spreadBy s draw).nanos = min (d.nanos + min draw 18446744073709551615) longestNanos) ∧
      d.nanos ≤ (d.spreadBy s draw).nanos ∧ (d.spreadBy s draw).nanos ≤ (d.plus s).nanos ∧
      (s ≠ .zero → d.nanos + s.nanos ≤ longestNanos →
        (d.spreadBy s draw).nanos < (d.plus s).nanos)) ∧
    ∀ k, (Pair.double^[k] d.pair).duration = double^[k] d ∧
      (double^[k] d).nanos = min (d.nanos * 2 ^ k) longestNanos ∧
      (∀ e, d.nanos ≤ e.nanos → (double^[k] d).nanos ≤ (double^[k] e).nanos) ∧
      ∀ j, j ≤ k → (double^[j] d).nanos ≤ (double^[k] d).nanos := by
  refine ⟨fun s draw => ⟨?_, ?_, nanos_spreadBy d, le_spreadBy d s draw, spreadBy_le_plus d s draw,
    fun nonzero fits => spreadBy_lt_plus nonzero fits draw⟩, fun k => ⟨?_, nanos_doubled d k, ?_, ?_⟩⟩
  · rw [Pair.duration_spreadBy?, duration_pair, duration_pair]
  · rintro rfl
    exact spreadBy_zero d draw
  · rw [duration_doubled, duration_pair]
  · exact fun e le => doubled_le_doubled le (Nat.le_refl k)
  · exact fun j sooner => doubled_le_doubled (Nat.le_refl d.nanos) sooner

/-- One second short of the longest length. -/
def nearlyLongest : Duration := saturating 18446744073709551614999999999

theorem spread_and_doubled_near_longest :
    nearlyLongest.spreadBy zero 7 = nearlyLongest ∧
      (nearlyLongest.spreadBy (ofSeconds 1) 999999999).nanos = 18446744073709551615999999998 ∧
      (nearlyLongest.spreadBy (ofSeconds 1) 999999999).nanos < longestNanos ∧
      (double^[2] nearlyLongest).nanos ≤ (double^[2] longest).nanos ∧
      (double^[0] nearlyLongest).nanos ≤ (double^[2] nearlyLongest).nanos := by
  obtain ⟨spread, doubled⟩ := spread_and_doubled nearlyLongest
  have sum : (nearlyLongest.plus (ofSeconds 1)).nanos = longestNanos := by decide
  obtain ⟨-, -, exact, -, -, less⟩ := spread (ofSeconds 1) 999999999
  obtain ⟨-, -, longer, later⟩ := doubled 2
  refine ⟨(spread zero 7).2.1 rfl, (exact (by decide)).trans (by decide), ?_,
    longer longest (by decide), later 0 (by decide)⟩
  rw [← sum]
  exact less (by decide) (by decide)

end DnsWarden.Duration
