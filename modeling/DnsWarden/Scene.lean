import DnsWarden.Backoff
import DnsWarden.Policy
import DnsWarden.Process
import DnsWarden.Schedule

/-!
# The scene

What all tasks of a warden share: the clock, the status and the settings, the counters, the
processes started so far, the replies that callers wait for, and the journal.  Every change of the
scene is one of the small operations here.
-/

namespace DnsWarden

/-- Counters for the operator. -/
structure Tallies where
  /-- Attempts to bring a resolver up. -/
  attempts : Nat := 0
  /-- Resolvers that answered their probe. -/
  sessions : Nat := 0
  /-- Retreats to plaintext because of a failure. -/
  fallbacks : Nat := 0
  /-- Choices of plaintext without any failure. -/
  plaintextDefaults : Nat := 0
  /-- Resolvers that ended by themselves after they had come up. -/
  unexpectedExits : Nat := 0
  /-- Periodic restarts. -/
  restarts : Nat := 0
deriving DecidableEq

/-- What has become of a reply. -/
inductive Reply where
  | awaited
  | given (s : Status)
  /-- Nobody is left to give it. -/
  | lost
deriving DecidableEq

/-- What all tasks share. -/
structure Scene where
  policy : Policy := {}
  /-- The clock, in nanoseconds since the start. -/
  now : Nat := 0
  /-- The loop was told to end. -/
  cancelled : Bool := false
  status : Status := .stopped
  settings : Settings := {}
  backoff : Backoff
  /-- The start request that is not answered yet. -/
  pending : Option Ticket := none
  tallies : Tallies := {}
  /-- The processes asked for so far, the oldest first. -/
  processes : List Process := []
  /-- The replies by ticket. -/
  replies : List Reply := []
  journal : Journal := []

namespace Scene

/-- The scene before anything has happened. -/
def initial (policy : Policy) (settings : Settings) (draws : Nat → Nat) : Scene :=
  { policy, settings, backoff := .starting policy.backoff policy.spread draws }

/-! ## Journal -/

/-- Records an event. -/
def record (s : Scene) (e : Event) : Scene :=
  { s with journal := ⟨s.now, e⟩ :: s.journal }

def tell (s : Scene) (n : Notice) : Scene := s.record (.notice n)

def call (s : Scene) (c : Call) : Scene := s.record (.call c)

def tellAll (s : Scene) : List Notice → Scene
  | [] => s
  | n :: ns => (s.tell n).tellAll ns

/-! ## Status and settings -/

/-- Stores a status; only a change is worth telling. -/
def setStatus (s : Scene) (new : Status) : Scene :=
  if s.status = new then s else { s.tell (.statusChanged s.status new) with status := new }

def replace (s : Scene) (new : Settings) : Scene :=
  { s.record (.replaced new) with settings := new }

def tally (s : Scene) (f : Tallies → Tallies) : Scene := { s with tallies := f s.tallies }

def pass (s : Scene) (nanos : Nat) : Scene := { s with now := s.now + nanos }

/-! ## Replies -/

def openReply (s : Scene) : Scene × Ticket :=
  ({ s with replies := s.replies ++ [.awaited] }, s.replies.length)

def answer (s : Scene) (t : Ticket) (status : Status) : Scene :=
  { s.record (.answered t status) with replies := s.replies.set t (.given status) }

/-- Lets go of a reply: if it was not given, it is lost. -/
def forsake (s : Scene) (t : Ticket) : Scene :=
  if s.replies[t]? = some .awaited then { s with replies := s.replies.set t .lost } else s

/-- Answers the start request that is not answered yet, if there is one. -/
def answerPending (s : Scene) (status : Status) : Scene :=
  match s.pending with
  | none => s
  | some t => { s.answer t status with pending := none }

/-- Holds a start request in place of any other. -/
def hold (s : Scene) (t : Option Ticket) : Scene :=
  match s.pending with
  | none => { s with pending := t }
  | some old => { s.forsake old with pending := t }

/-! ## Processes -/

def onProcess (s : Scene) (pid : Nat) (f : Process → Process) : Scene :=
  { s with processes := s.processes.modify pid f }

/-- Asks the engine for a process. -/
def requestProcess (s : Scene) (detail : UInt8) : Scene × Nat :=
  ({ s.call (.start detail) with processes := s.processes ++ [{}] }, s.processes.length)

/-- The notice of a process's end, if it has ended and nobody has received it. -/
def note? (s : Scene) (pid : Nat) : Option ExitNote :=
  s.processes[pid]?.bind Process.note?

/-- Whether the notice of a process's end was received. -/
def heard (s : Scene) (pid : Nat) : Bool :=
  s.processes[pid]?.any Process.heard

/-- Whether the collector of a process is over. -/
def collected (s : Scene) (pid : Nat) : Bool :=
  s.processes[pid]?.any fun p => p.collector.isOver

def live (s : Scene) : Nat := s.processes.countP Process.isUp

/-! ## Laws -/

@[simp] theorem journal_record (s : Scene) (e : Event) :
    (s.record e).journal = ⟨s.now, e⟩ :: s.journal := rfl

@[simp] theorem status_setStatus (s : Scene) (new : Status) : (s.setStatus new).status = new := by
  by_cases h : s.status = new <;> simp [setStatus, h]

@[simp] theorem pending_answerPending (s : Scene) (status : Status) :
    (s.answerPending status).pending = none := by
  cases h : s.pending <;> simp [answerPending, h]

@[simp] theorem pending_hold (s : Scene) (t : Option Ticket) : (s.hold t).pending = t := by
  cases h : s.pending <;> simp [hold, h]

end Scene

end DnsWarden
