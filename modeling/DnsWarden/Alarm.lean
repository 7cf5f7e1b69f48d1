import DnsWarden.Duration

/-!
# Instants and alarms

Instants are nanoseconds since the start.  The clock can name no instant from `2 ^ 63` seconds on.
A wait that would end later ends after thirty years instead, while setting an alarm so late is an
error.
-/

namespace DnsWarden

namespace Clock

/-- The first instant that the clock cannot name. -/
def limit : Nat := 9223372036854775808000000000

/-- The instant `d` after `now`, if the clock can name it. -/
def after? (now : Nat) (d : Duration) : Option Nat :=
  if now + d.nanos < limit then some (now + d.nanos) else none

/-- Thirty years of three hundred and sixty-five days. -/
def longWait : Nat := 946080000000000000

/-- The end of a wait that begins at `now`. -/
def endOfWait (now : Nat) (d : Duration) : Nat :=
  (after? now d).getD (now + longWait)

/--
The end of a wait until `deadline` that may be cancelled at an instant, and whether it was: being
cancelled counts if it comes before the deadline, or if the wait is cancelled when it begins.
-/
def endUnless (now deadline : Nat) (cancelAt : Option Nat) : Nat × Bool :=
  match cancelAt with
  | none => (max now deadline, false)
  | some t => if t ≤ now then (now, true) else if t < deadline then (t, true)
    else (max now deadline, false)

/-! ## Laws -/

variable {now t : Nat} {d : Duration}

theorem after?_eq_some_iff : after? now d = some t ↔ now + d.nanos < limit ∧ now + d.nanos = t := by
  simp [after?]

theorem after?_eq_none_iff : after? now d = none ↔ limit ≤ now + d.nanos := by
  simp [after?]

end Clock

/-- An alarm that may be set for an instant. -/
structure Alarm where
  /-- When the alarm is due, if it is set. -/
  deadline : Option Nat := none
deriving DecidableEq

namespace Alarm

def off : Alarm := {}

/-- Sets the alarm for the time `d` from now, in place of any other time, if the clock can. -/
def set? (now : Nat) (d : Duration) : Option Alarm :=
  (Clock.after? now d).map fun t => ⟨some t⟩

/-- Whether the alarm rings now. -/
def rings (a : Alarm) (now : Nat) : Bool :=
  a.deadline.any (· ≤ now)

/--
Waits for the alarm from `now` until `limit` at most.  If the deadline is not later than that, the
wait ends there, or at once if it has passed, and the alarm is off; else it ends at `limit` and the
alarm stays as it is.  The result is the alarm, the end of the wait and whether the alarm rang.
-/
def await (a : Alarm) (now limit : Nat) : Alarm × Nat × Bool :=
  match a.deadline with
  | some t => if t ≤ limit then (off, max now t, true) else (a, limit, false)
  | none => (a, limit, false)

/-! ## Laws -/

section

variable {a : Alarm} {now limit t : Nat} {d : Duration}

theorem set?_eq_some_iff :
    set? now d = some a ↔ now + d.nanos < Clock.limit ∧ a = ⟨some (now + d.nanos)⟩ := by
  unfold set?
  constructor
  · intro h
    obtain ⟨t, named, rfl⟩ := Option.map_eq_some_iff.1 h
    obtain ⟨early, rfl⟩ := Clock.after?_eq_some_iff.1 named
    exact ⟨early, rfl⟩
  · rintro ⟨early, rfl⟩
    exact Option.map_eq_some_iff.2 ⟨_, Clock.after?_eq_some_iff.2 ⟨early, rfl⟩, rfl⟩

theorem set?_eq_none_iff : set? now d = none ↔ Clock.limit ≤ now + d.nanos :=
  Option.map_eq_none_iff.trans Clock.after?_eq_none_iff

theorem await_of_le (set : a.deadline = some t) (patient : t ≤ limit) :
    a.await now limit = (off, max now t, true) := by
  unfold await
  rw [set]
  exact if_pos patient

theorem await_of_lt (early : ∀ t, a.deadline = some t → limit < t) :
    a.await now limit = (a, limit, false) := by
  unfold await
  split
  next t set => exact if_neg (Nat.not_le.2 (early t set))
  next => rfl

end

end Alarm

end DnsWarden
