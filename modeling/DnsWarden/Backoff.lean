import DnsWarden.Duration

/-!
# Backoff

The delay before the next attempt: it starts at a default, doubles with every pause, and falls back
to the default when a resolver is up.
-/

namespace DnsWarden

/-- The delays between attempts. -/
structure Backoff where
  first : Duration
  /-- The bound of the random time that is added. -/
  spread : Duration
  /-- The delay of the next pause, without the random time. -/
  current : Duration
  /-- The random numbers still to be drawn. -/
  draws : Nat → Nat := fun _ => 0

namespace Backoff

def starting (first spread : Duration) (draws : Nat → Nat) : Backoff :=
  { first, spread, current := first, draws }

/-- Begins anew at the default. -/
def reset (b : Backoff) : Backoff := { b with current := b.first }

/-- How long the next pause lasts, the random time included. -/
def pause (b : Backoff) : Duration := b.current.spreadBy b.spread (b.draws 0)

/-- The delays after one more pause. -/
def advance (b : Backoff) : Backoff :=
  { b with current := b.current.double, draws := fun n => b.draws (n + 1) }

end Backoff

end DnsWarden
