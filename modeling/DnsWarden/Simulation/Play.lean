import DnsWarden.Simulation.Bench

/-!
# A play on the bench

A sequence of activities with at most one session and at most one start request between them.
-/

namespace DnsWarden

/-- A bench, the session that is held, and the reply that is watched. -/
structure Play where
  bench : Bench
  current : Option Session := none
  watched : Option Ticket := none

/-- Which start request an attempt is made for. -/
inductive OnBehalf where
  /-- A fresh one, whose reply is watched. -/
  | fresh
  | nobody
  /-- The one that there is, if any. -/
  | same
deriving DecidableEq

/-- One act of a play. -/
inductive Act where
  | attempt (onBehalf : OnBehalf)
  /-- Holds a session without a process. -/
  | holdEmpty
  | reply (s : Status)
  | terminate
  | cleanUp
  | drop
  | pause
  | cancel
  /-- Waits so many milliseconds for the process to end by itself. -/
  | listen (ms : Nat)
  | retreat (failed : Bool)
  | refresh
  | replaceSettings (s : Settings)
  | follow (s : Script)
  | crash (note : ExitNote)
  | emit (stream : Stream) (line : String)
  | advance (ms : Nat)
  | nothing

/-- What an act comes to. -/
inductive ActResult where
  | nothing
  | bench (r : BenchResult)
  | flag (b : Bool)

namespace Play

/-- A play before its first act. -/
def initial (policy : Policy) (settings : Settings) (script : Script) : Play :=
  { bench := { scene := .initial policy settings fun _ => 0, cast := { script } } }

def scene (p : Play) : Scene := p.bench.scene

def update (p : Play) (f : Scene → Scene) : Play :=
  { p with bench := p.bench.withScene (f p.scene) }

/-- Makes a start request and watches its reply, in place of any other. -/
def expect (p : Play) : Play :=
  let (s, t) := p.scene.openReply
  { p.update fun _ => s.hold (some t) with watched := some t }

/-- Does something with the session that is held. -/
def onSession (p : Play) (f : Bench → Session → Bench) : Play :=
  match p.current with
  | some session => { p with bench := f p.bench session }
  | none => p

/-- Chooses the start request for an attempt. -/
def prepare (p : Play) : OnBehalf → Play
  | .fresh => p.expect
  | .nobody => { p.update (·.hold none) with watched := none }
  | .same => p

/-- Makes an attempt; a session that comes of it is held in place of any other. -/
def attempt (p : Play) : Play × ActResult :=
  let b := p.bench.attempt
  match b.result with
  | .ready pid =>
    ({ { p with bench := b }.onSession Bench.release with current := some (.of pid) },
      .bench b.result)
  | r => ({ p with bench := b }, .bench r)

/-- What one act comes to. -/
def perform (p : Play) : Act → Play × ActResult
  | .attempt onBehalf => (p.prepare onBehalf).attempt
  | .holdEmpty => ({ p.onSession Bench.release with current := some .empty }, .nothing)
  | .reply s => (p.update (·.answerPending s), .nothing)
  | .terminate => (p.onSession Bench.terminate, .nothing)
  | .cleanUp => ({ p.onSession Bench.cleanUp with current := none }, .nothing)
  | .drop => ({ p.onSession Bench.release with current := none }, .nothing)
  | .pause => ({ p with bench := p.bench.pause none }, .nothing)
  | .cancel => (p.update fun s => { s with cancelled := true }, .nothing)
  | .listen ms =>
    match p.current with
    | none => (p, .nothing)
    | some session =>
      let b := p.bench.listen session ms
      ({ p with bench := b }, .bench b.result)
  | .retreat failed => ({ p with bench := p.bench.retreat failed }, .nothing)
  | .refresh =>
    let b := p.bench.refresh
    ({ p with bench := b }, .bench b.result)
  | .replaceSettings s => (p.update (·.replace s), .nothing)
  | .follow s => ({ p with bench := { p.bench with cast := { p.bench.cast with script := s } } }, .nothing)
  | .crash note =>
    let (b, told) := p.bench.crash note
    ({ p with bench := b }, .flag told)
  | .emit stream line =>
    let (b, taken) := p.bench.emit stream line
    ({ p with bench := b }, .flag taken)
  | .advance ms => ({ p with bench := p.bench.advance ms }, .nothing)
  | .nothing => (p, .nothing)

/-- One act, after which everything runs until all wait. -/
def act (p : Play) (a : Act) : Play × ActResult :=
  let (p, r) := p.perform a
  ({ p with bench := p.bench.settle }, r)

/-- The reply that is watched; once it is there it is no longer watched. -/
def report (p : Play) : Option Reply × Play :=
  match p.watched.bind fun t => p.scene.replies[t]? with
  | none => (none, p)
  | some .awaited => (some .awaited, p)
  | some r => (some r, { p with watched := none })

end Play

end DnsWarden
