import DnsWarden.Session.Attempt

/-!
# Scripted collaborators

A script says how each collaborator answers: after which delay, and with which failure if any.  A
call follows the script that holds when it begins.
-/

namespace DnsWarden

/-- The nanoseconds of a number of milliseconds. -/
def millis (n : Nat) : Nat := n * 1000000

/-- The first whole millisecond from an instant on. -/
def wholeMillis (t : Nat) : Nat := (t + 999999) / 1000000 * 1000000

/-- When and how a collaborator answers. -/
structure Reaction (α : Type) where
  /-- The delay in milliseconds. -/
  delay : Nat := 0
  failure : Option α := none

/-- One source of the scripted blocklists. -/
structure ListSource where
  blocklist : Blocklist := {}
  failure : Option BlocklistFault := none

/-- Whether a scripted probe comes to an end. -/
inductive ProbeMode where
  /-- After its delay, or when the watch is told to end if that is earlier. -/
  | timed
  /-- When the watch is told to end. -/
  | untilCancelled
  | never
deriving DecidableEq

/-- How the collaborators answer. -/
structure Script where
  setUpFiles : Reaction WriterFault := {}
  writeConfig : Reaction WriterFault := {}
  pointSystem : Reaction NameserverFault := {}
  listDelay : Nat := 0
  sources : List ListSource := []
  probeMode : ProbeMode := .timed
  probe : Reaction ProbeFault := {}
  start : Reaction EngineFault := {}
  /-- What a process prints when it starts. -/
  out : List String := []
  err : List String := []
  /-- How many milliseconds a process takes to end when it is told to. -/
  exitDelay : Nat := 0
  /-- What a process prints as a complaint before it crashes. -/
  complaint : Option String := none

/-- A call under way. -/
structure Underway where
  /-- When it is answered by itself, if ever. -/
  due : Option Nat
  answer : Answer
  /-- The answer at once when the watch is told to end, if it heeds that. -/
  uponCancel : Option Answer := none

namespace Script

/-- All lists of the sources one after the other. -/
def lists (s : Script) : BuiltLists where
  blocklist :=
    { hostnames := s.sources.flatMap fun x => x.blocklist.hostnames
      ips := s.sources.flatMap fun x => x.blocklist.ips
      ranges := s.sources.flatMap fun x => x.blocklist.ranges }
  failures := s.sources.filterMap ListSource.failure

/-- The course of a call that begins now. -/
def underway (s : Script) (now : Nat) : Query → Underway
  | .setUpFiles =>
    { due := some (now + millis s.setUpFiles.delay), answer := .filesSetUp s.setUpFiles.failure }
  | .buildLists => { due := some (now + millis s.listDelay), answer := .listsBuilt s.lists }
  | .writeConfig =>
    { due := some (now + millis s.writeConfig.delay)
      answer := .configWritten s.writeConfig.failure }
  | .start => { due := some (now + millis s.start.delay), answer := .started s.start.failure }
  | .pointSystem =>
    { due := some (now + millis s.pointSystem.delay)
      answer := .systemPointed s.pointSystem.failure }
  | .probe =>
    let answer := Answer.probed s.probe.failure
    let cancelled := Answer.probed (some .cancelled)
    match s.probeMode with
    | .timed =>
      { due := some (now + millis s.probe.delay), answer
        uponCancel := if s.probe.delay = 0 then none else some cancelled }
    | .untilCancelled => { due := none, answer, uponCancel := some cancelled }
    | .never => { due := none, answer }

end Script

/-- The answer that a call gets now, if any. -/
def Underway.answer? (u : Underway) (s : Scene) : Option Answer :=
  if u.due.any (· ≤ s.now) then some u.answer
  else if s.cancelled then u.uponCancel
  else none

/-- What can end a wait now, what is preferred first: an answer, then the word to end. -/
def inputs (u : Option Underway) (s : Scene) : List Input :=
  ((u.bind (·.answer? s)).map Input.answer).toList ++ [.cancelled, .request, .ended, .elapsed]

end DnsWarden
