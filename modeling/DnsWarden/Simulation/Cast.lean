import DnsWarden.Simulation.Script
import DnsWarden.Warden.World

/-!
# Scripted processes

Each process that the scripted engine starts prints its lines at once, ends some time after it is
told to, and may be told to crash before.
-/

namespace DnsWarden

/-- A scripted process. -/
structure Actor where
  out : List String := []
  err : List String := []
  /-- How many milliseconds it takes to end when it is told to. -/
  exitDelay : Nat := 0
  complaint : Option String := none
  /-- When it ends, once it was told to. -/
  exitDue : Option Nat := none
  /-- How it was told to end at once; it heeds this only while it was not told to stop. -/
  crash : Option ExitNote := none
deriving DecidableEq

/-- The script, and the processes that were started under it. -/
structure Cast where
  script : Script := {}
  actors : List Actor := []
  /-- The configurations that were written without a failure, the newest first. -/
  written : List ResolverSettings := []

namespace Cast

/-- The process that the script now starts. -/
def actor (c : Cast) : Actor :=
  { out := c.script.out, err := c.script.err, exitDelay := c.script.exitDelay
    complaint := c.script.complaint }

/-- Takes note of the processes that were asked for or told to stop meanwhile. -/
def sync (c : Cast) (s : Scene) : Cast :=
  let actors := c.actors ++ List.replicate (s.processes.length - c.actors.length) c.actor
  { c with
    actors := (actors.zip s.processes).map fun (a, p) =>
      if p.cancelled && p.isUp && a.exitDue.isNone then
        { a with exitDue := some (s.now + millis a.exitDelay) }
      else a }

/-- Takes note of a configuration that was written. -/
def noteWritten (c : Cast) (s : Scene) : Answer → Cast
  | .configWritten none =>
    match s.journal.config? with
    | some r => { c with written := r :: c.written }
    | none => c
  | _ => c

/-- The last process that was started. -/
def latest? (s : Scene) : Option Nat :=
  (s.processes.zipIdx.filter fun (p, _) =>
    p.stage ≠ .requested && p.stage ≠ .refused).getLast?.map Prod.snd

/-- Whether a process can be told anything: it runs, or a stream of it is still open. -/
def listens (p : Process) : Bool :=
  match p.stage with
  | .up => true
  | .down _ => !p.collector.out.shut || !p.collector.err.shut
  | _ => false

/--
Tells the last process to crash.  The result says whether it was the first to tell it that, and the
process could be told; a process that was told to stop does not heed it.
-/
def crash (c : Cast) (s : Scene) (note : ExitNote) : Cast × Bool :=
  match latest? s with
  | none => (c, false)
  | some pid =>
    match s.processes[pid]?, c.actors[pid]? with
    | some p, some a =>
      if listens p && a.crash.isNone then
        ({ c with actors := c.actors.set pid { a with crash := some note } }, true)
      else (c, false)
    | _, _ => (c, false)

/-- The lines of the process that has just been started, as moves. -/
def prologue (c : Cast) (s : Scene) : List Move :=
  match latest? s with
  | none => []
  | some pid =>
    match c.actors[pid]? with
    | none => []
    | some a => (a.out.map (.print pid .out)) ++ (a.err.map (.print pid .err))

/-- What a process does now of its own: nothing, or print its complaint and end. -/
def epilogue (c : Cast) (s : Scene) (pid : Nat) : List Move :=
  match s.processes[pid]?, c.actors[pid]? with
  | some p, some a =>
    if !p.isUp then []
    else if a.exitDue.any (· ≤ s.now) then [.exit pid .clean]
    else match a.crash with
      | some note =>
        if p.cancelled then [] else (a.complaint.map (.print pid .err)).toList ++ [.exit pid note]
      | none => []
  | _, _ => []

/-- The processes that run or whose collectors are not over. -/
def active (s : Scene) : List Nat :=
  s.processes.zipIdx.filterMap fun (p, pid) =>
    if p.isUp || !p.collector.isOver then some pid else none

/-- The instants at which processes end. -/
def dues (c : Cast) (s : Scene) : List Nat :=
  (c.actors.zip s.processes).filterMap fun (a, p) => if p.isUp then a.exitDue else none

/-- The number of streams of processes that neither the process nor its reader has closed. -/
def openStreams (s : Scene) : Nat :=
  s.processes.foldl (fun n p =>
    match p.stage with
    | .up => n + 2
    | .down _ => n + (if p.collector.out.shut then 0 else 1) + (if p.collector.err.shut then 0 else 1)
    | _ => n) 0

end Cast

/-- A move that takes place around the tasks of a warden. -/
def Scene.surround? (s : Scene) : Move → Option Scene
  | .exit pid note => s.exit? pid note
  | .print pid stream line => s.print? pid stream line
  | .hangUp pid stream => some (s.hangUp pid stream)
  | .collect pid m => s.collect? pid m
  | .pass nanos => some (s.pass nanos)
  | _ => none

/-- The next step of a collector, if it can take one. -/
def collectorMove? (s : Scene) (pid : Nat) : Option Move :=
  [Collector.Move.close, .read .out, .read .err].findSome? fun m =>
    if (s.collect? pid m).isSome then some (.collect pid m) else none

end DnsWarden
