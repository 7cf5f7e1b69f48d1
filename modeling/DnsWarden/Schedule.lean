import DnsWarden.Alarm

/-!
# The schedule of refreshes

An alarm together with the instant of the last tick.  A change of the period keeps what has passed
of the current one, so that changing it often delays no refresh.
-/

namespace DnsWarden

/-- When the next refresh is due. -/
structure Schedule where
  alarm : Alarm := .off
  /-- When the alarm rang last. -/
  lastTick : Option Nat := none
deriving DecidableEq

namespace Schedule

/-- Sets the alarm for a whole period from now, or switches it off if the period is zero. -/
def rearm? (s : Schedule) (now : Nat) (period : Duration) : Option Schedule :=
  if period = .zero then some { s with alarm := .off }
  else (Alarm.set? now period).map fun a => { s with alarm := a }

/-- A schedule that first ticks after one period. -/
def start? (now : Nat) (period : Duration) : Option Schedule :=
  ({} : Schedule).rearm? now period

/-- What has passed since the last tick. -/
def elapsed (s : Schedule) (now : Nat) : Duration :=
  match s.lastTick with
  | none => .zero
  | some t => .saturating (now - t)

/-- Sets the alarm for what is left of a period since the last tick. -/
def reschedule? (s : Schedule) (now : Nat) (period : Duration) : Option Schedule :=
  if period = .zero then some { s with alarm := .off }
  else (Alarm.set? now (period.minus (s.elapsed now))).map fun a => { s with alarm := a }

/-- The schedule once its alarm has rung. -/
def tick (now : Nat) : Schedule :=
  { alarm := .off, lastTick := some now }

/-- Waits for the next tick from `now` until `limit` at most; see `Alarm.await`. -/
def await (s : Schedule) (now limit : Nat) : Schedule × Nat × Bool :=
  match s.alarm.await now limit with
  | (_, t, true) => (tick t, t, true)
  | (a, t, false) => ({ s with alarm := a }, t, false)

end Schedule

end DnsWarden
