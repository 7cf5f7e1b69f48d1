import DnsWarden.Simulation.Cast
import DnsWarden.Simulation.Clockwork

/-!
# Rehearsing a warden

A whole warden among scripted collaborators.  It changes only by moves of the warden's world.
-/

namespace DnsWarden

/-- A warden, the script, and the calls of its two tasks that are under way. -/
structure Rehearsal where
  world : World
  cast : Cast := {}
  watchCall : Option Underway := none
  refresherCall : Option Underway := none

/-- What takes turns in a rehearsal. -/
inductive Role where
  | watch
  | refresher
  | caller (id : Nat)
  | process (pid : Nat)
  | collector (pid : Nat)
deriving DecidableEq

namespace Rehearsal

def scene (r : Rehearsal) : Scene := r.world.scene

/-- Makes a move, if it can be made. -/
def move? (r : Rehearsal) (m : Move) : Option Rehearsal :=
  (r.world.step m).map fun w => { r with world := w, cast := r.cast.sync w.scene }

/-- Makes those of several moves that can be made. -/
def moves (r : Rehearsal) : List Move → Rehearsal
  | [] => r
  | m :: ms => ((r.move? m).getD r).moves ms

/-- Notes which calls the watch has begun. -/
def noteWatchCall (r : Rehearsal) : Rehearsal :=
  { r with watchCall := r.world.watch.query?.map (r.cast.script.underway r.scene.now) }

/-- Notes which calls the refresher has begun. -/
def noteRefresherCall (r : Rehearsal) : Rehearsal :=
  { r with refresherCall := r.world.warden.query?.map (r.cast.script.underway r.scene.now) }

/-- Prints the lines of a process that an answer has started. -/
def prologue (r : Rehearsal) : Answer → Rehearsal
  | .started none => r.moves (r.cast.prologue r.scene)
  | _ => r

def stepWatch? (r : Rehearsal) : Option Rehearsal :=
  (inputs r.watchCall r.scene).findSome? fun i =>
    (r.move? (.watch i)).map fun s =>
      match i with
      | .answer a => (({ s with cast := s.cast.noteWritten r.scene a } : Rehearsal).prologue
          a).noteWatchCall
      | _ => s.noteWatchCall

/-- What can end a wait of the refresher now, what is preferred first. -/
def refresherInputs (r : Rehearsal) : List RefresherInput :=
  .cancelled :: ((r.refresherCall.bind (·.answer? r.scene)).map .answer).toList ++
    [.ask, .rang, .periodChanged]

def stepRefresher? (r : Rehearsal) : Option Rehearsal :=
  r.refresherInputs.findSome? fun i =>
    (r.move? (.refresher i)).map fun s =>
      match i with
      | .answer a =>
        ({ s with cast := s.cast.noteWritten r.scene a } : Rehearsal).noteRefresherCall
      | _ => s.noteRefresherCall

def step? (role : Role) (r : Rehearsal) : Option Rehearsal :=
  match role with
  | .watch => r.stepWatch?
  | .refresher => r.stepRefresher?
  | .caller id => r.move? (.caller id)
  | .process pid =>
    match r.cast.epilogue r.scene pid with
    | [] => none
    | ms => some (r.moves ms)
  | .collector pid => (collectorMove? r.scene pid).bind r.move?

def roles (r : Rehearsal) : List Role :=
  let pids := Cast.active r.scene
  [.watch, .refresher] ++ (List.range r.world.callers.length).map .caller ++
    pids.map .process ++ pids.map .collector

/-- The instants at which something falls due. -/
def dues (r : Rehearsal) : List Nat :=
  ((r.watchCall.bind (·.due)).toList ++ r.world.watch.deadline?.toList ++
    (r.refresherCall.bind (·.due)).toList ++ r.world.warden.deadline?.toList ++
    r.cast.dues r.scene).map wholeMillis

def machine : Machine Rehearsal Role where
  tasks := roles
  step? := step?
  dues := dues
  now r := r.scene.now
  setNow t r := (r.move? (.pass (t - r.scene.now))).getD r

/-- Lets every role play until all wait. -/
def settle (r : Rehearsal) : Rehearsal := machine.settle r

/-- Lets so many milliseconds pass. -/
def advance (ms : Nat) (r : Rehearsal) : Rehearsal := machine.advance (millis ms) r

/-- A warden that nobody drives yet. -/
def initial (policy : Policy) (settings : Settings) (script : Script) : Rehearsal :=
  { world := .initial policy settings fun _ => 0, cast := { script } }

/-- Makes a move, and notes the calls that begin with it. -/
def act (r : Rehearsal) (m : Move) : Rehearsal :=
  match r.move? m with
  | none => r
  | some s =>
    match m with
    | .run | .dropWatch => s.noteWatchCall
    | .beginRefresher | .dropRefresher => s.noteRefresherCall
    | _ => s

/-- Tells the last process to crash; the result says whether that was the first time it could be told. -/
def crash (r : Rehearsal) (note : ExitNote) : Rehearsal × Bool :=
  let (cast, told) := r.cast.crash r.scene note
  ({ r with cast }, told)

/-- Prints a line on a stream of the last process; the result says whether it was taken. -/
def emit (r : Rehearsal) (stream : Stream) (line : String) : Rehearsal × Bool :=
  match (Cast.latest? r.scene).bind fun pid => r.move? (.print pid stream line) with
  | some r => (r, true)
  | none => (r, false)

end Rehearsal

end DnsWarden
