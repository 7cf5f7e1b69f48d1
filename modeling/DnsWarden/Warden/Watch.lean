import DnsWarden.Session.Attempt

/-!
# The watch

The task that keeps a resolver up.  It waits for the first start request in plaintext, then attempts
to bring a resolver up until one answers or none is wanted, serves requests while it has the
session, and begins anew after a start request or the unexpected end of the resolver.  Between two
waits it runs in one piece: `resume` takes it from one wait to the next.
-/

namespace DnsWarden

/-- What the watch does after a retreat to plaintext. -/
inductive AfterRetreat where
  /-- Wait for the first start request. -/
  | idle
  /-- Begin attempts. -/
  | attempt
  /-- Pause after a failed attempt. -/
  | pause (f : SessionFault)
  /-- Serve without a process, since no resolver is wanted. -/
  | disable
  /-- Stop the process and answer a stop request. -/
  | halt (session : Session) (reply : Ticket)
  /-- Pause after the process ended by itself. -/
  | recover (session : Session) (f : SessionFault)
deriving DecidableEq

/-- What the watch does after a pause. -/
inductive AfterPause where
  | attempt
  /-- End the session, then begin anew. -/
  | recover (session : Session)
deriving DecidableEq

/-- What the watch does after a session. -/
inductive AfterSession where
  | finish
  /-- Begin anew, with a start request if there is one. -/
  | restart (reply : Option Ticket)
deriving DecidableEq

/-- Where the watch waits. -/
inductive Phase where
  | unborn
  /-- For the system to be pointed at a plaintext nameserver. -/
  | retreating (after : AfterRetreat)
  /-- For the first start request. -/
  | idle
  /-- For a step of an attempt. -/
  | attempting (a : Attempt)
  /-- For the end of a pause. -/
  | pausing (deadline : Nat) (after : AfterPause)
  /-- For requests, or the end of the session's process. -/
  | serving (session : Session)
  /-- For the end of a process that a request stopped. -/
  | halting (session : Session) (reply : Ticket)
  /-- For the end of a session. -/
  | clearing (t : Teardown) (after : AfterSession)
  | returned
  /-- Nobody drives it any more. -/
  | dropped
deriving DecidableEq

/-- The watch, with the scene that it works on and its mailbox, which holds one request. -/
structure Watch where
  scene : Scene
  phase : Phase := .unborn
  mailbox : Option Request := none

namespace Watch

/-- Whether requests can still be put into the mailbox. -/
def isOpen (w : Watch) : Bool := w.phase ≠ .returned && w.phase ≠ .dropped

def wait (w : Watch) (p : Phase) : Watch := { w with phase := p }

def update (w : Watch) (f : Scene → Scene) : Watch := { w with scene := f w.scene }

/-- Closes the mailbox: a request in it is lost, and so is a start request that was not answered. -/
def close (w : Watch) : Watch :=
  let s := w.scene.hold none
  match w.mailbox with
  | none => { w with scene := s }
  | some r => { w with scene := s.forsake r.ticket, mailbox := none }

def finish (w : Watch) : Watch :=
  (w.close.update (·.tell .runEnded)).wait .returned

/-- Returns without a resolver, and says so to a start request that waits. -/
def giveUp (w : Watch) : Watch :=
  (w.update (·.answerPending .stopped)).finish

/-- Retreats to plaintext and goes on, at once if there is nothing to wait for. -/
def retreat (w : Watch) (failed : Bool) (after : AfterRetreat) (go : Watch → Watch) : Watch :=
  match w.scene.retreat failed with
  | (s, true) => { w with scene := s, phase := .retreating after }
  | (s, false) => go { w with scene := s }

def pause (w : Watch) (f : SessionFault) (after : AfterPause) : Watch :=
  let (s, deadline) := w.scene.pause (some f)
  { w with scene := s, phase := .pausing deadline after }

/-- Serves without a process, since no resolver is wanted. -/
def disable (w : Watch) : Watch :=
  (w.update fun s => (s.setStatus .stopped).answerPending .stopped).wait (.serving .empty)

/-- Begins the next attempt, unless no resolver is wanted or the watch is to end. -/
def attempt (w : Watch) : Watch :=
  if w.scene.settings.enabled then
    if w.scene.cancelled then w.giveUp
    else
      let (s, a) := Attempt.begin w.scene
      { w with scene := s, phase := .attempting a }
  else w.retreat false .disable disable

def cycle (w : Watch) : Watch :=
  if w.scene.cancelled then w.giveUp else w.retreat false .attempt attempt

/-- Goes on after a failed attempt. -/
def failed (w : Watch) (f : SessionFault) : Watch :=
  if f.callsForPlaintext then w.retreat true (.pause f) fun w => w.pause f .attempt
  else w.pause f .attempt

/-- Goes on after a session. -/
def afterSession (w : Watch) : AfterSession → Watch
  | .finish => w.finish
  | .restart reply => (w.update (·.hold reply)).cycle

/-- Ends a session and goes on. -/
def clear (w : Watch) (session : Session) (after : AfterSession) : Watch :=
  match Teardown.begin w.scene session with
  | (s, some t) => { w with scene := s, phase := .clearing t after }
  | (s, none) => ({ w with scene := s } : Watch).afterSession after

/-- Answers a stop request once the process has ended, and goes on serving. -/
def halted (w : Watch) (session : Session) (reply : Ticket) : Watch :=
  (w.update fun s => (s.setStatus .stopped).answer reply .stopped).wait (.serving session)

/-- Stops the process for a stop request. -/
def halt (w : Watch) (session : Session) (reply : Ticket) : Watch :=
  let w := w.update (·.cancelSession session)
  if w.scene.quiet session then w.halted session reply else w.wait (.halting session reply)

/-- Goes on after a retreat. -/
def afterRetreat (w : Watch) : AfterRetreat → Watch
  | .idle => w.wait .idle
  | .attempt => w.attempt
  | .pause f => w.pause f .attempt
  | .disable => w.disable
  | .halt session reply => w.halt session reply
  | .recover session f => w.pause f (.recover session)

/-- Goes on after a pause. -/
def afterPause (w : Watch) : AfterPause → Watch
  | .attempt => w.attempt
  | .recover session => w.clear session (.restart none)

/-- Takes the request out of the mailbox. -/
def take? (w : Watch) : Option (Request × Watch) :=
  w.mailbox.map fun r => (r, { w with scene := w.scene.record (.received r), mailbox := none })

/-- Goes on with the first start request; as nothing runs yet, a stop request is answered at once. -/
def first (w : Watch) : Request → Watch
  | .start reply => (w.update (·.hold (some reply))).cycle
  | .stop reply => w.update (·.answer reply .stopped)

/-- Serves a request. -/
def serve (w : Watch) (session : Session) : Request → Watch
  | .start reply => (w.update (·.tell .starting)).clear session (.restart (some reply))
  | .stop reply =>
    (w.update (·.tell .stopping)).retreat false (.halt session reply) fun w => w.halt session reply

/-- Goes on when the session's process has ended by itself. -/
def lose (w : Watch) (session : Session) (note : ExitNote) : Watch :=
  let w := w.update fun s => (s.hear session).cancelSession session
  if w.scene.cancelled then w.clear session .finish
  else
    let f := SessionFault.ended note.cause
    (w.update fun s =>
        (s.tally fun t => { t with unexpectedExits := t.unexpectedExits + 1 }).setStatus .crashed).retreat
      true (.recover session f) fun w => w.pause f (.recover session)

def begin (w : Watch) : Watch :=
  w.retreat false .idle fun w => w.wait .idle

/-- Goes on with what ended its wait. -/
def resume (w : Watch) (i : Input) : Option Watch :=
  match w.phase, i with
  | .retreating after, .answer (.systemPointed failure) =>
    some ((w.update (·.systemPointed failure)).afterRetreat after)
  | .idle, .cancelled => if w.scene.cancelled then some w.finish else none
  | .idle, .request => w.take?.map fun (r, w) => w.first r
  | .attempting a, i =>
    (a.resume i w.scene).map fun
      | (s, .waiting a) => { w with scene := s, phase := .attempting a }
      | (s, .ready pid) => { w with scene := s, phase := .serving (.of pid) }
      | (s, .failed f) => ({ w with scene := s } : Watch).failed f
  | .pausing _ after, .cancelled => if w.scene.cancelled then some (w.afterPause after) else none
  | .pausing deadline after, .elapsed =>
    if deadline ≤ w.scene.now then some (w.afterPause after) else none
  | .serving session, .cancelled =>
    if w.scene.cancelled then some (w.clear session .finish) else none
  | .serving session, .request => w.take?.map fun (r, w) => w.serve session r
  | .serving session, .ended =>
    (w.scene.sessionNote? session).map fun note => w.lose session note
  | .halting session reply, .ended =>
    (w.scene.sessionNote? session).map fun _ =>
      (w.update (·.hear session)).halted session reply
  | .clearing t after, .ended =>
    (t.resume w.scene).map fun
      | (s, some t) => { w with scene := s, phase := .clearing t after }
      | (s, none) => ({ w with scene := s } : Watch).afterSession after
  | _, _ => none

/-- The call that the watch waits for, if it waits for one. -/
def query? (w : Watch) : Option Query :=
  match w.phase with
  | .retreating _ => some .pointSystem
  | .attempting a => a.query?
  | _ => none

/-- The end of the pause or the probe that the watch waits for. -/
def deadline? (w : Watch) : Option Nat :=
  match w.phase with
  | .pausing deadline _ => some deadline
  | .attempting (.probing _ deadline) => some deadline
  | _ => none

/-! ## Dropping the watch -/

/-- Lets go of what the watch holds where it waits: its session, and a request that it serves. -/
def release (s : Scene) : Phase → Scene
  | .retreating (.halt session reply) => (s.releaseSession session).forsake reply
  | .retreating (.recover session _) => s.releaseSession session
  | .attempting a => a.release s
  | .pausing _ (.recover session) => s.releaseSession session
  | .serving session => s.releaseSession session
  | .halting session reply => (s.releaseSession session).forsake reply
  | .clearing t (.restart (some reply)) => (t.release s).forsake reply
  | .clearing t _ => t.release s
  | _ => s

/-- Drops the watch where it waits. -/
def drop (w : Watch) : Watch :=
  ({ w with scene := release w.scene w.phase } : Watch).close.wait .dropped

end Watch

end DnsWarden
