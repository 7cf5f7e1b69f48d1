/-!
# Running tasks under a virtual clock

A machine is a state in which tasks can take steps, and things fall due at known instants.  Tasks
take turns: one runs until it can take no further step, while those that it enables queue up behind
the ones that wait already.  Time moves only when no task can take a step, and then to the next
instant at which something falls due.
-/

namespace DnsWarden

/-- A state with tasks and a clock. -/
structure Machine (σ τ : Type) where
  /-- The tasks there are. -/
  tasks : σ → List τ
  /-- The next step of a task, if it can take one now. -/
  step? : τ → σ → Option σ
  /-- The instants at which something falls due. -/
  dues : σ → List Nat
  now : σ → Nat
  setNow : Nat → σ → σ

namespace Machine

variable {σ τ : Type} [BEq τ] (m : Machine σ τ)

/-- The tasks that can take a step. -/
def enabled (s : σ) : List τ := (m.tasks s).filter fun t => (m.step? t s).isSome

/-- Gives the tasks of a queue their turns, with at most so many steps. -/
def takeTurns : Nat → List τ → σ → σ
  | 0, _, s => s
  | _ + 1, [], s => s
  | fuel + 1, t :: rest, s =>
    match m.step? t s with
    | none => takeTurns fuel rest s
    | some s =>
      let woken := (m.enabled s).filter fun u => !(u == t) && !rest.contains u
      takeTurns fuel (t :: rest ++ woken) s

/-- The steps that one instant has room for. -/
def instantFuel : Nat := 100000

/-- Lets every task run until none can take a step. -/
def settle (s : σ) : σ := m.takeTurns instantFuel (m.enabled s) s

/-- The first instant after now at which something falls due. -/
def nextDue? (s : σ) : Option Nat := ((m.dues s).filter (m.now s < ·)).min?

/-- Moves the clock to `target`, letting tasks run whenever something falls due. -/
def advanceTo : Nat → Nat → σ → σ
  | 0, target, s => m.setNow target s
  | fuel + 1, target, s =>
    match m.nextDue? s with
    | some due =>
      if due ≤ target then advanceTo fuel target (m.settle (m.setNow due s))
      else m.setNow target s
    | none => m.setNow target s

/-- Lets tasks run, and time pass when they wait, until `stop` holds or nothing falls due. -/
def runUntil (stop : σ → Bool) : Nat → σ → σ
  | 0, s => s
  | fuel + 1, s =>
    let s := m.settle s
    if stop s then s
    else match m.nextDue? s with
      | some due => runUntil stop fuel (m.setNow due s)
      | none => s

/-- The instants that one step of a script has room for. -/
def clockFuel : Nat := 1000000

/-- Moves the clock on by so many nanoseconds, then lets every task run. -/
def advance (nanos : Nat) (s : σ) : σ :=
  m.settle (m.advanceTo clockFuel (m.now s + nanos) s)

end Machine

end DnsWarden
