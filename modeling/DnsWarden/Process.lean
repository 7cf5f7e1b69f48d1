import DnsWarden.Collector

/-!
# Resolver processes

A process is asked for, runs until it is told to stop or ends by itself, and gives notice of its end
once.
-/

namespace DnsWarden

/-- The notice that a process has ended. -/
inductive ExitNote where
  /-- It ended because it was told to. -/
  | clean
  /-- It ended by itself. -/
  | failed (f : EngineFault)
  /-- It ended without giving notice. -/
  | dropped
deriving DecidableEq

/-- What a notice of an end that nobody asked for says about its cause. -/
def ExitNote.cause : ExitNote → Option EngineFault
  | .clean => none
  | .failed f => some f
  | .dropped => some (.other (.root "resolver exit notification was dropped"))

/-- How far a process has come. -/
inductive Process.Stage where
  /-- The engine was asked for it. -/
  | requested
  /-- The engine failed to start it. -/
  | refused
  | up
  | down (note : ExitNote)
deriving DecidableEq

/-- A process, its notice and the collector of its lines. -/
structure Process where
  stage : Process.Stage := .requested
  /-- It was told to stop. -/
  cancelled : Bool := false
  /-- The notice of its end was received. -/
  heard : Bool := false
  collector : Collector := {}
deriving DecidableEq

namespace Process

def isUp (p : Process) : Bool := p.stage = .up

/-- The notice of the end, until it is received. -/
def note? (p : Process) : Option ExitNote :=
  match p.stage with
  | .down note => if p.heard then none else some note
  | _ => none

def cancel (p : Process) : Process := { p with cancelled := true }

def hear (p : Process) : Process := { p with heard := true }

def tell (p : Process) : Process := { p with collector := p.collector.tell }

/-- Lets go of the process: tells it to stop, and ends its collector. -/
def release (p : Process) : Process :=
  { p with cancelled := true, collector := p.collector.abort }

end Process

end DnsWarden
