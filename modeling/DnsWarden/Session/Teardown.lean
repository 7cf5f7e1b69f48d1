import DnsWarden.Refresh

/-!
# Sessions and their end

A session holds one process, or none while encrypted DNS is not wanted.  The process is stopped by
telling it to and receiving the notice of its end, unless that was received before; after that the
collector of its lines is told to close and waited for.
-/

namespace DnsWarden

/-- A hold on the process of a resolver, if there is one. -/
structure Session where
  pid? : Option Nat := none
deriving DecidableEq

namespace Session

def of (pid : Nat) : Session := ⟨some pid⟩

def empty : Session := {}

end Session

namespace Scene

def cancelSession (s : Scene) (session : Session) : Scene :=
  match session.pid? with
  | none => s
  | some pid => s.onProcess pid .cancel

/-- Whether there is no notice of an end to wait for. -/
def quiet (s : Scene) (session : Session) : Bool :=
  match session.pid? with
  | none => true
  | some pid => s.heard pid

/-- The notice of the end of a session's process, if it has come and was not received. -/
def sessionNote? (s : Scene) (session : Session) : Option ExitNote :=
  session.pid?.bind s.note?

/-- Receives the notice of the end of a session's process. -/
def hear (s : Scene) (session : Session) : Scene :=
  match session.pid? with
  | none => s
  | some pid => s.onProcess pid .hear

/-- Lets go of a session: its process is told to stop and its collector ended. -/
def releaseSession (s : Scene) (session : Session) : Scene :=
  match session.pid? with
  | none => s
  | some pid => s.onProcess pid .release

end Scene

/-- How far the end of a session has come. -/
inductive Teardown where
  /-- Waiting for the notice of the process's end. -/
  | stopping (pid : Nat)
  /-- Waiting for the collector to finish. -/
  | joining (pid : Nat)
deriving DecidableEq

namespace Teardown

/-- Closes the collector once the process has ended. -/
def join (s : Scene) (pid : Nat) : Scene × Teardown :=
  (s.onProcess pid .tell, .joining pid)

/-- Begins to end a session; there is nothing to wait for if it has no process. -/
def begin (s : Scene) (session : Session) : Scene × Option Teardown :=
  match session.pid? with
  | none => (s, none)
  | some pid =>
    let s := s.onProcess pid .cancel
    if s.heard pid then
      let (s, t) := join s pid
      (s, some t)
    else (s, some (.stopping pid))

/-- Goes on if what it waits for has come; no next stage means that the session has ended. -/
def resume (t : Teardown) (s : Scene) : Option (Scene × Option Teardown) :=
  match t with
  | .stopping pid =>
    (s.note? pid).map fun _ =>
      let (s, t) := join (s.onProcess pid .hear) pid
      (s, some t)
  | .joining pid => if s.collected pid then some (s, none) else none

/-- Lets go of a session at this stage: a collector that is waited for finishes by itself. -/
def release (t : Teardown) (s : Scene) : Scene :=
  match t with
  | .stopping pid => s.onProcess pid .release
  | .joining _ => s

end Teardown

end DnsWarden
