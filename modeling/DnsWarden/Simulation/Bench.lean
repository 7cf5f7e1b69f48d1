import DnsWarden.Simulation.Cast
import DnsWarden.Simulation.Clockwork

/-!
# Single activities on a bench

One activity of the warden at a time, among scripted collaborators: an attempt, the end of a
session, a pause, a retreat to plaintext, a refresh of the files.
-/

namespace DnsWarden

/-- The result of an activity. -/
inductive BenchResult where
  | nothing
  | ready (pid : Nat)
  | failed (f : SessionFault)
  | refreshed (failure : Option RefreshFault)
  /-- No process ended in the time given. -/
  | silent
  | exited (note : ExitNote)

/-- What goes on, by what it waits for. -/
inductive Activity where
  | attempting (a : Attempt)
  | ending (t : Teardown)
  /-- For the notice of a process that was told to stop. -/
  | terminating (session : Session)
  /-- For the notice of a process that was not, until a deadline. -/
  | listening (session : Session) (deadline : Nat)
  | pausing (deadline : Nat)
  | retreating
  | refreshing (r : Refresh)
  | finished (result : BenchResult)

namespace Activity

def isOver : Activity → Bool
  | .finished _ => true
  | _ => false

/-- The call that is waited for. -/
def query? : Activity → Option Query
  | .attempting a => a.query?
  | .retreating => some .pointSystem
  | .refreshing r => some r.query
  | _ => none

/-- The instant that is waited for. -/
def deadline? : Activity → Option Nat
  | .attempting (.probing _ deadline) => some deadline
  | .listening _ deadline => some deadline
  | .pausing deadline => some deadline
  | _ => none

/-- The end of a session. -/
def ofTeardown : Option Teardown → Activity
  | some t => .ending t
  | none => .finished .nothing

/-- Goes on with what ended its wait. -/
def resume : Activity → Input → Scene → Option (Scene × Activity)
  | .attempting a, i, s =>
    (a.resume i s).map fun
      | (s, .waiting a) => (s, .attempting a)
      | (s, .ready pid) => (s, .finished (.ready pid))
      | (s, .failed f) => (s, .finished (.failed f))
  | .ending t, .ended, s => (t.resume s).map fun (s, t) => (s, ofTeardown t)
  | .terminating session, .ended, s =>
    (s.sessionNote? session).map fun _ => (s.hear session, .finished .nothing)
  | .listening session _, .ended, s =>
    (s.sessionNote? session).map fun note => (s.hear session, .finished (.exited note))
  | .listening _ deadline, .elapsed, s =>
    if deadline ≤ s.now then some (s, .finished .silent) else none
  | .pausing deadline, .elapsed, s => if deadline ≤ s.now then some (s, .finished .nothing) else none
  | .pausing _, .cancelled, s => if s.cancelled then some (s, .finished .nothing) else none
  | .retreating, .answer (.systemPointed failure), s =>
    some (s.systemPointed failure, .finished .nothing)
  | .refreshing r, .answer a, s =>
    (r.resume a s).map fun
      | (s, .waiting r) => (s, .refreshing r)
      | (s, .done failure) => (s, .finished (.refreshed failure))
  | _, _, _ => none

end Activity

/-- A scene, the script, what goes on, and its call under way. -/
structure Bench where
  scene : Scene
  cast : Cast := {}
  activity : Activity := .finished .nothing
  underway : Option Underway := none

/-- What takes turns on a bench. -/
inductive BenchRole where
  | activity
  | process (pid : Nat)
  | collector (pid : Nat)
deriving DecidableEq

namespace Bench

def withScene (b : Bench) (s : Scene) : Bench := { b with scene := s, cast := b.cast.sync s }

/-- Makes a move around the activity, if it can be made. -/
def move? (b : Bench) (m : Move) : Option Bench := (b.scene.surround? m).map b.withScene

/-- Makes those of several moves that can be made. -/
def moves (b : Bench) : List Move → Bench
  | [] => b
  | m :: ms => ((b.move? m).getD b).moves ms

/-- Goes on with an activity, whose call under way is noted. -/
def go (b : Bench) (s : Scene) (a : Activity) : Bench :=
  { b.withScene s with
    activity := a, underway := a.query?.map (b.cast.script.underway s.now) }

/-- The activity's next step. -/
def stepActivity? (b : Bench) : Option Bench :=
  (inputs b.underway b.scene).findSome? fun i =>
    (b.activity.resume i b.scene).map fun (s, a) =>
      let c := b.go s a
      match i with
      | .answer answer =>
        let c := { c with cast := c.cast.noteWritten b.scene answer }
        if answer = .started none then c.moves (c.cast.prologue c.scene) else c
      | _ => c

def step? (role : BenchRole) (b : Bench) : Option Bench :=
  match role with
  | .activity => b.stepActivity?
  | .process pid =>
    match b.cast.epilogue b.scene pid with
    | [] => none
    | ms => some (b.moves ms)
  | .collector pid => (collectorMove? b.scene pid).bind b.move?

def roles (b : Bench) : List BenchRole :=
  let pids := Cast.active b.scene
  [.activity] ++ pids.map .process ++ pids.map .collector

def machine : Machine Bench BenchRole where
  tasks := roles
  step? := step?
  dues b :=
    ((b.underway.bind (·.due)).toList ++ b.activity.deadline?.toList ++
      b.cast.dues b.scene).map wholeMillis
  now b := b.scene.now
  setNow t b := b.withScene { b.scene with now := t }

/-- Lets so many milliseconds pass. -/
def advance (ms : Nat) (b : Bench) : Bench := machine.advance (millis ms) b

/-- Carries an activity out to its end, then lets everything else run until all wait. -/
def carryOut (b : Bench) (s : Scene) (a : Activity) : Bench :=
  machine.runUntil (fun b => b.activity.isOver) Machine.clockFuel (b.go s a)

def result (b : Bench) : BenchResult :=
  match b.activity with
  | .finished r => r
  | _ => .nothing

/-! ## Activities -/

/-- One attempt, on behalf of a start request or of none. -/
def attempt (b : Bench) : Bench :=
  let (s, a) := Attempt.begin b.scene
  b.carryOut s (.attempting a)

/-- Tells a session's process to stop, and waits for the notice. -/
def terminate (b : Bench) (session : Session) : Bench :=
  let s := b.scene.cancelSession session
  b.carryOut s (if s.quiet session then .finished .nothing else .terminating session)

def cleanUp (b : Bench) (session : Session) : Bench :=
  let (s, t) := Teardown.begin b.scene session
  b.carryOut s (.ofTeardown t)

def release (b : Bench) (session : Session) : Bench :=
  b.carryOut (b.scene.releaseSession session) (.finished .nothing)

/-- Waits so many milliseconds for a process to end by itself. -/
def listen (b : Bench) (session : Session) (ms : Nat) : Bench :=
  b.carryOut b.scene (.listening session (b.scene.now + millis ms))

def pause (b : Bench) (failure : Option SessionFault) : Bench :=
  let (s, deadline) := b.scene.pause failure
  b.carryOut s (.pausing deadline)

/-- Pauses, unless the pause is cancelled so many milliseconds after its beginning. -/
def pauseUnless (b : Bench) (failure : Option SessionFault) (cancelAfter : Option Nat) : Bench :=
  let (s, deadline) := b.scene.pause failure
  let cancelAt := cancelAfter.map fun ms => s.now + millis ms
  b.withScene { s with now := (Clock.endUnless s.now (wholeMillis deadline) cancelAt).1 }

def retreat (b : Bench) (failed : Bool) : Bench :=
  let (s, waits) := b.scene.retreat failed
  b.carryOut s (if waits then .retreating else .finished .nothing)

def refresh (b : Bench) : Bench :=
  let (s, r) := Refresh.begin b.scene
  b.carryOut s (.refreshing r)

/-- Lets everything run until all wait. -/
def settle (b : Bench) : Bench := machine.settle b

/-- Tells the last process to crash; the result says whether that was the first time it could be told. -/
def crash (b : Bench) (note : ExitNote) : Bench × Bool :=
  let (cast, told) := b.cast.crash b.scene note
  ({ b with cast }, told)

/-- Prints a line on a stream of the last process; the result says whether it was taken. -/
def emit (b : Bench) (stream : Stream) (line : String) : Bench × Bool :=
  match (Cast.latest? b.scene).bind fun pid => b.move? (.print pid stream line) with
  | some b => (b, true)
  | none => (b, false)

end Bench

end DnsWarden
