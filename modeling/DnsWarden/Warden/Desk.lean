import DnsWarden.Warden.Watch

/-!
# The desk

Changes of status are asked for at a desk that serves one client at a time, in the order in which
they came.  The client at the head of the queue reads the status, and if a change is needed puts a
request into the watch's mailbox and waits for the reply before the next one is served.
-/

namespace DnsWarden

/-- Who can stand in the queue. -/
inductive Client where
  | caller (id : Nat)
  /-- The task of the periodic restarts. -/
  | refresher
deriving DecidableEq

/-- The watch and the queue of clients before it, the first of whom is served. -/
structure Desk where
  watch : Watch
  queue : List Client := []

/-- How far a client has come with a change of status. -/
inductive Ask where
  /-- About to join the queue. -/
  | arriving
  /-- In the queue, perhaps at its head. -/
  | queued
  | reading
  /-- About to put a request into the mailbox. -/
  | sending (r : Request)
  | awaiting (t : Ticket)
deriving DecidableEq

/-- The result of a change of status. -/
inductive StatusOutcome where
  /-- No change was needed, or one was under way. -/
  | already (s : Status)
  /-- The watch acted on the request and arrived at this status. -/
  | changed (s : Status)
deriving DecidableEq

/-- What follows one step of a client. -/
inductive Ask.Next where
  | waiting (a : Ask)
  | done (result : Except CallFault StatusOutcome)

namespace Desk

def update (d : Desk) (f : Scene → Scene) : Desk := { d with watch := d.watch.update f }

def scene (d : Desk) : Scene := d.watch.scene

def leave (d : Desk) (c : Client) : Desk := { d with queue := d.queue.erase c }

/-- The client leaves with a result. -/
def settle (d : Desk) (c : Client) (result : Except CallFault StatusOutcome) :
    Desk × Ask.Next :=
  (d.leave c, .done result)

/-- Sends a request for the reply to which a ticket is opened. -/
def compose (d : Desk) (make : Ticket → Request) : Desk × Ask.Next :=
  let (s, t) := d.scene.openReply
  (d.update fun _ => s, .waiting (.sending (make t)))

/-- The client reads the status and decides what to ask for. -/
def decide (d : Desk) (c : Client) (desired : Status) : Desk × Ask.Next :=
  let current := d.scene.status
  match desired with
  | .running =>
    if current = .stopped then d.compose .start else d.settle c (.ok (.already current))
  | .stopped =>
    if current = .stopped then d.settle c (.ok (.already current)) else d.compose .stop
  | .crashed => d.settle c (.error (.invalidStatus desired))

def post (d : Desk) (r : Request) : Desk :=
  { d with watch := { d.watch.update (·.record (.sent r)) with mailbox := some r } }

/-- The client takes one step, if it can. -/
def step (d : Desk) (c : Client) (desired : Status) : Ask → Option (Desk × Ask.Next)
  | .arriving => some ({ d with queue := d.queue ++ [c] }, .waiting .queued)
  | .queued => if d.queue.head? = some c then some (d, .waiting .reading) else none
  | .reading => some (d.decide c desired)
  | .sending r =>
    if !d.watch.isOpen then
      some ((d.update (·.forsake r.ticket)).settle c (.error .terminated))
    else if d.watch.mailbox.isNone then some (d.post r, .waiting (.awaiting r.ticket))
    else none
  | .awaiting t =>
    match d.scene.replies[t]? with
    | some (.given s) => some (d.settle c (.ok (.changed s)))
    | some .lost => some (d.settle c (.error .terminated))
    | _ => none

/-- The client goes away where it waits, and takes back a request that it has not posted. -/
def abandon (d : Desk) (c : Client) : Ask → Desk
  | .sending r => (d.update (·.forsake r.ticket)).leave c
  | _ => d.leave c

end Desk

end DnsWarden
