import DnsWarden.Simulation.Rehearsal

/-!
# The parts in a rehearsal

The calls that are made on a rehearsed warden, each of which ends in some way sooner or later: to
drive the watch, to drive the refresher, to change the status or the settings.  Calls have names,
and the end of each is reported once.
-/

namespace DnsWarden

/-- Who a call is. -/
inductive Part where
  | watch
  | refresher
  /-- A call to drive what is driven already, or was before. -/
  | refused
  | caller (id : Nat)
deriving DecidableEq

/-- A call that can be made. -/
inductive Summons where
  | drive
  | driveRefresher
  | errand (p : Errand)

/-- How a call ends. -/
inductive PartEnd where
  | exited
  | refused
  | broken
  | aborted
  | outcome (o : Outcome)

namespace Rehearsal

def summon (r : Rehearsal) : Summons → Rehearsal × Part
  | .drive => if r.world.watch.phase = .unborn then (r.act .run, .watch) else (r, .refused)
  | .driveRefresher =>
    if r.world.warden.refresher = .unborn then (r.act .beginRefresher, .refresher)
    else (r, .refused)
  | .errand p => (r.act (.arrive p), .caller r.world.callers.length)

/-- How a call has ended, if it has. -/
def ending? (r : Rehearsal) : Part → Option PartEnd
  | .watch =>
    match r.world.watch.phase with
    | .returned => some .exited
    | .dropped => some .aborted
    | _ => none
  | .refresher =>
    match r.world.warden.refresher with
    | .returned => some .exited
    | .broken => some .broken
    | .dropped => some .aborted
    | _ => none
  | .refused => some .refused
  | .caller id =>
    match r.world.callers[id]? with
    | some (.done o) => some (.outcome o)
    | some .gone => some .aborted
    | _ => none

/-- Ends a call from outside, if it has not ended. -/
def abort (r : Rehearsal) : Part → Rehearsal
  | .watch => r.act .dropWatch
  | .refresher => r.act .dropRefresher
  | .refused => r
  | .caller id => r.act (.leave id)

end Rehearsal

/-- A call by its name, and whether its end was reported. -/
structure NamedPart where
  name : String
  part : Part
  reported : Bool := false

/-- A rehearsal with named calls. -/
structure Show where
  rehearsal : Rehearsal
  /-- The calls in the order in which they were made. -/
  parts : List NamedPart := []
  /-- How many calls were made that have no name of their own. -/
  extras : Nat := 0

/-- One step of a show. -/
inductive Cue where
  | summon (s : Summons)
  | cancel (watch refresher : Bool)
  | abort (name : String)
  | follow (s : Script)
  | crash (note : ExitNote)
  | emit (stream : Stream) (line : String)
  | advance (ms : Nat)
  | nothing

namespace Show

def scene (s : Show) : Scene := s.rehearsal.scene

/-- Makes a call by a name. -/
def summonAs (s : Show) (name : String) (c : Summons) : Show :=
  let (r, part) := s.rehearsal.summon c
  { s with rehearsal := r, parts := s.parts ++ [{ name, part }] }

/-- Makes a call that is named by its number. -/
def summon (s : Show) (c : Summons) : Show :=
  { s.summonAs ("r" ++ toString s.extras) c with extras := s.extras + 1 }

/-- Lets everything run until all wait. -/
def settle (s : Show) : Show := { s with rehearsal := s.rehearsal.settle }

/-- A show in which the watch and the refresher are driven from the beginning, or not. -/
def initial (policy : Policy) (settings : Settings) (script : Script) (drive refresh : Bool) :
    Show :=
  let s : Show := { rehearsal := .initial policy settings script }
  let s := if drive then s.summonAs "run" .drive else s
  let s := if refresh then s.summonAs "ticker" .driveRefresher else s
  s.settle

/-- What one step comes to; the truth value is for steps that can be in vain. -/
def perform (s : Show) : Cue → Show × Option Bool
  | .summon c => (s.summon c, none)
  | .cancel watch refresher =>
    let r := s.rehearsal
    let r := if watch then r.act .cancelWatch else r
    let r := if refresher then r.act .cancelRefresher else r
    ({ s with rehearsal := r }, none)
  | .abort name =>
    match s.parts.find? fun p => p.name = name with
    | some p => ({ s with rehearsal := s.rehearsal.abort p.part }, none)
    | none => (s, none)
  | .follow script =>
    let r := s.rehearsal
    ({ s with rehearsal := { r with cast := { r.cast with script } } }, none)
  | .crash note =>
    let (r, told) := s.rehearsal.crash note
    ({ s with rehearsal := r }, some told)
  | .emit stream line =>
    let (r, taken) := s.rehearsal.emit stream line
    ({ s with rehearsal := r }, some taken)
  | .advance ms => ({ s with rehearsal := s.rehearsal.advance ms }, none)
  | .nothing => (s, none)

/-- One step, after which everything runs until all wait. -/
def act (s : Show) (c : Cue) : Show × Option Bool :=
  let (s, r) := s.perform c
  (s.settle, r)

/-- The calls that have ended since the last report, the calls that wait, and the show after that. -/
def report (s : Show) : List (String × PartEnd) × List String × Show :=
  let ended (p : NamedPart) := (s.rehearsal.ending? p.part).isSome
  let done := s.parts.filterMap fun p =>
    if p.reported then none else (s.rehearsal.ending? p.part).map fun e => (p.name, e)
  let waiting := (s.parts.filter fun p => !ended p).map NamedPart.name
  (done, waiting, { s with parts := s.parts.map fun p => { p with reported := p.reported || ended p } })

end Show

end DnsWarden
