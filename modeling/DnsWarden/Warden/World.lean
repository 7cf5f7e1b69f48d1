import DnsWarden.Warden.Refresher

/-!
# The warden

All tasks of a warden and their surroundings.  A `Move` is one step of one of them, or something
that happens to them, and `World.step` says what comes of it; a list of moves is one of all possible
interleavings.  Callers take one move for every access to what others can change meanwhile.
-/

namespace DnsWarden

/-- The result of a change of settings. -/
inductive SettingsOutcome where
  | unchanged
  /-- Only the period of the refreshes has changed. -/
  | periodChanged
  /-- The resolver was stopped, and started with the new settings. -/
  | restarted (o : StatusOutcome)
  /-- The resolver was stopped, and stays so. -/
  | disabled
deriving DecidableEq

/-- The result of a call. -/
inductive Outcome where
  | status (result : Except CallFault StatusOutcome)
  | settings (result : Except CallFault SettingsOutcome)

/-- How far a call has come. -/
inductive Caller where
  /-- Asking for a status. -/
  | asking (desired : Status) (a : Ask)
  /-- About to store settings. -/
  | storing (new : Settings)
  /-- The settings are stored, in place of others. -/
  | stored (new old : Settings)
  /-- Stopping the resolver because of new settings. -/
  | stopping (new : Settings) (a : Ask)
  /-- Starting the resolver with new settings. -/
  | starting (new : Settings) (a : Ask)
  | done (o : Outcome)
  /-- The caller has gone away. -/
  | gone

/-- A call that somebody can make. -/
inductive Errand where
  | setStatus (desired : Status)
  | setSettings (new : Settings)
deriving DecidableEq

/-- A warden with its callers. -/
structure World where
  warden : Warden
  callers : List Caller := []

/-- A step of a task, a caller, a process or a collector, or something that happens to one of them. -/
inductive Move where
  | run
  | watch (i : Input)
  | cancelWatch
  | dropWatch
  | beginRefresher
  | refresher (i : RefresherInput)
  | cancelRefresher
  | dropRefresher
  | arrive (p : Errand)
  | caller (id : Nat)
  /-- A caller goes away. -/
  | leave (id : Nat)
  | exit (pid : Nat) (note : ExitNote)
  | print (pid : Nat) (stream : Stream) (line : String)
  | hangUp (pid : Nat) (stream : Stream)
  | collect (pid : Nat) (m : Collector.Move)
  | pass (nanos : Nat)
deriving DecidableEq

namespace Scene

def exit? (s : Scene) (pid : Nat) (note : ExitNote) : Option Scene :=
  s.processes[pid]?.bind fun p =>
    if p.isUp then some (s.onProcess pid fun p => { p with stage := .down note }) else none

def print? (s : Scene) (pid : Nat) (stream : Stream) (line : String) : Option Scene :=
  s.processes[pid]?.bind fun p =>
    (p.collector.write? stream line).map fun c =>
      s.onProcess pid fun p => { p with collector := c }

def hangUp (s : Scene) (pid : Nat) (stream : Stream) : Scene :=
  s.onProcess pid fun p => { p with collector := p.collector.hangUp stream }

def collect? (s : Scene) (pid : Nat) (m : Collector.Move) : Option Scene :=
  s.processes[pid]?.bind fun p =>
    (p.collector.step m).map fun (c, told) =>
      let s := s.onProcess pid fun p => { p with collector := c }
      match told with
      | none => s
      | some (stream, line) => s.record (.printed pid stream line)

end Scene

namespace World

def scene (w : World) : Scene := w.warden.scene

def watch (w : World) : Watch := w.warden.desk.watch

def update (w : World) (f : Scene → Scene) : World := { w with warden := w.warden.update f }

def setWatch (w : World) (x : Watch) : World :=
  { w with warden := { w.warden with desk := { w.warden.desk with watch := x } } }

/-- A warden before anything has happened. -/
def initial (policy : Policy) (settings : Settings) (draws : Nat → Nat) : World :=
  { warden := { desk := { watch := { scene := .initial policy settings draws } } } }

def setCaller (w : World) (id : Nat) (c : Caller) : World :=
  { w with callers := w.callers.set id c }

/-- The first stage of a call. -/
def Errand.stage : Errand → Caller
  | .setStatus desired => .asking desired .arriving
  | .setSettings new => .storing new

/-- A caller's step at the desk, with what it becomes of the result. -/
def ask (w : World) (id : Nat) (desired : Status) (a : Ask) (waiting : Ask → Caller)
    (done : Except CallFault StatusOutcome → Caller) : Option World :=
  (w.warden.desk.step (.caller id) desired a).map fun
    | (d, .waiting a) =>
      ({ w with warden := { w.warden with desk := d } } : World).setCaller id (waiting a)
    | (d, .done result) =>
      ({ w with warden := { w.warden with desk := d } } : World).setCaller id (done result)

/-- Tells the refresher if the period has changed, and decides what else the settings ask for. -/
def compare (w : World) (id : Nat) (new old : Settings) : World :=
  if old = new then w.setCaller id (.done (.settings (.ok .unchanged)))
  else
    let w : World :=
      if old.updatePeriod ≠ new.updatePeriod then
        { w with warden := { w.warden with periodChanged := true } }
      else w
    if new.sameButPeriod old then w.setCaller id (.done (.settings (.ok .periodChanged)))
    else w.setCaller id (.stopping new .arriving)

/-- What becomes of a change of settings once the resolver was stopped, or could not be. -/
def afterStop (new : Settings) : Except CallFault StatusOutcome → Caller
  | .error f => .done (.settings (.error f))
  | .ok _ => if new.enabled then .starting new .arriving else .done (.settings (.ok .disabled))

/-- What becomes of a change of settings once the resolver was started, or could not be. -/
def afterStart : Except CallFault StatusOutcome → Caller
  | .error f => .done (.settings (.error f))
  | .ok o => .done (.settings (.ok (.restarted o)))

/-- A caller takes its next step, if it can. -/
def caller? (w : World) (id : Nat) : Option World :=
  match w.callers[id]? with
  | some (.asking desired a) => w.ask id desired a (.asking desired) fun r => .done (.status r)
  | some (.storing new) =>
    some ((w.update (·.replace new)).setCaller id (.stored new w.scene.settings))
  | some (.stored new old) => some (w.compare id new old)
  | some (.stopping new a) => w.ask id .stopped a (.stopping new) (afterStop new)
  | some (.starting new a) => w.ask id .running a (.starting new) afterStart
  | _ => none

/-- A caller gives up its place at the desk. -/
def abandon (w : World) (id : Nat) (a : Ask) : World :=
  { w with warden := { w.warden with desk := w.warden.desk.abandon (.caller id) a } }

/-- A caller goes away, if it has not begun or waits. -/
def leave? (w : World) (id : Nat) : Option World :=
  match w.callers[id]? with
  | some (.asking _ a) | some (.stopping _ a) | some (.starting _ a) =>
    some ((w.abandon id a).setCaller id .gone)
  | some (.storing _) => some (w.setCaller id .gone)
  | _ => none

/-- What comes of a move, if it can be made. -/
def step (w : World) : Move → Option World
  | .run => if w.watch.phase = .unborn then some (w.setWatch w.watch.begin) else none
  | .watch i => (w.watch.resume i).map w.setWatch
  | .cancelWatch => some (w.update fun s => { s with cancelled := true })
  | .dropWatch =>
    if w.watch.isOpen && w.watch.phase ≠ .unborn then some (w.setWatch w.watch.drop) else none
  | .beginRefresher =>
    if w.warden.refresher = .unborn then some { w with warden := w.warden.beginRefresher }
    else none
  | .refresher i => (w.warden.resume i).map fun o => { w with warden := o }
  | .cancelRefresher => some { w with warden := { w.warden with cancelled := true } }
  | .dropRefresher =>
    if w.warden.refreshes then some { w with warden := w.warden.dropRefresher } else none
  | .arrive p => some { w with callers := w.callers ++ [Errand.stage p] }
  | .caller id => w.caller? id
  | .leave id => w.leave? id
  | .exit pid note => (w.scene.exit? pid note).map fun s => w.update fun _ => s
  | .print pid stream line => (w.scene.print? pid stream line).map fun s => w.update fun _ => s
  | .hangUp pid stream => some (w.update (·.hangUp pid stream))
  | .collect pid m => (w.scene.collect? pid m).map fun s => w.update fun _ => s
  | .pass nanos => some (w.update (·.pass nanos))

/-- What comes of moves one after the other, if all can be made. -/
def run (w : World) : List Move → Option World
  | [] => some w
  | m :: ms => (w.step m).bind fun w => w.run ms

/-! ## Laws -/

@[simp] theorem run_nil (w : World) : w.run [] = some w := rfl

theorem run_cons (w : World) (m : Move) (ms : List Move) :
    w.run (m :: ms) = (w.step m).bind fun w => w.run ms := rfl

theorem run_append (w : World) (ms ns : List Move) :
    w.run (ms ++ ns) = (w.run ms).bind fun w => w.run ns := by
  induction ms generalizing w with
  | nil => rfl
  | cons m ms ih =>
    simp only [List.cons_append, run_cons]
    cases w.step m with
    | none => rfl
    | some v => exact ih v

end World

end DnsWarden
