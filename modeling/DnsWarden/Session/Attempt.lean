import DnsWarden.Retreat
import DnsWarden.Session.Teardown

/-!
# Attempts

One attempt to bring a resolver up: refresh its files, start the process, point DNS at it, and wait
until it answers a probe.  A start request that waits is answered as soon as the outcome is known,
but not after a failed refresh, which leaves it to the next attempt.
-/

namespace DnsWarden

/-- How far an attempt has come, by what it waits for. -/
inductive Attempt where
  | refreshing (r : Refresh)
  | starting (pid : Nat) (keep : Bool)
  | pointing (pid : Nat)
  | probing (pid : Nat) (deadline : Nat)
  /-- The probe failed, and the session is ended. -/
  | clearing (f : ProbeFault) (t : Teardown)
deriving DecidableEq

/-- What can end a wait. -/
inductive Input where
  /-- The task was told to end. -/
  | cancelled
  /-- A request has come. -/
  | request
  /-- The time is up. -/
  | elapsed
  /-- A process has ended, or a collector has. -/
  | ended
  /-- A collaborator has answered. -/
  | answer (a : Answer)
deriving DecidableEq

/-- What follows one step of an attempt. -/
inductive Attempt.Next where
  | waiting (a : Attempt)
  | ready (pid : Nat)
  | failed (f : SessionFault)

namespace Attempt

/-- The call that an attempt waits for, if it waits for one. -/
def query? : Attempt → Option Query
  | .refreshing r => some r.query
  | .starting _ _ => some .start
  | .pointing _ => some .pointSystem
  | .probing _ _ => some .probe
  | .clearing _ _ => none

def begin (s : Scene) : Scene × Attempt :=
  let s := (s.tally fun t => { t with attempts := t.attempts + 1 }).record .attemptBegan
  let (s, r) := Refresh.begin s
  (s, .refreshing r)

def fail (s : Scene) (f : SessionFault) : Scene × Next :=
  (s.record (.attemptEnded (some f)), .failed f)

/-- Goes on after the refresh of the files. -/
def refreshed (s : Scene) : Option RefreshFault → Scene × Next
  | some f => fail (s.setStatus .crashed) (.refresh f)
  | none =>
    let keep := s.settings.keepNameserver
    let (s, pid) := s.requestProcess s.settings.resolver.detail
    (s, .waiting (.starting pid keep))

/-- Goes on after the engine's answer. -/
def started (s : Scene) (pid : Nat) (keep : Bool) : Option EngineFault → Scene × Next
  | some f =>
    let s := s.onProcess pid fun p => { p with stage := .refused, cancelled := true }
    fail ((s.setStatus .crashed).answerPending .crashed) (.start f)
  | none =>
    let s := s.onProcess pid fun p => { p with stage := .up }
    (s.pointAt s.policy.resolverAddress .encrypted keep, .waiting (.pointing pid))

/-- Goes on once the system was pointed at the resolver, or could not be. -/
def pointed (s : Scene) (pid : Nat) (failure : Option NameserverFault) : Scene × Next :=
  ((s.systemPointed failure).call .probe,
    .waiting (.probing pid (Clock.endOfWait s.now s.policy.probeTimeout)))

def probed (s : Scene) (pid : Nat) : Option ProbeFault → Scene × Next
  | some f =>
    let s := (s.setStatus .crashed).answerPending .crashed
    match Teardown.begin s (.of pid) with
    | (s, some t) => (s, .waiting (.clearing f t))
    | (s, none) => fail s (.probe f)
  | none =>
    let s := s.tell .ready
    let s := ({ s with backoff := s.backoff.reset }.setStatus .running).answerPending .running
    let s := s.tally fun t => { t with sessions := t.sessions + 1 }
    (s.record (.attemptEnded none), .ready pid)

/-- Goes on with what ended its wait. -/
def resume : Attempt → Input → Scene → Option (Scene × Next)
  | .refreshing r, .answer a, s =>
    (r.resume a s).map fun
      | (s, .waiting r) => (s, .waiting (.refreshing r))
      | (s, .done failure) => refreshed s failure
  | .starting pid keep, .answer (.started failure), s => some (started s pid keep failure)
  | .pointing pid, .answer (.systemPointed failure), s => some (pointed s pid failure)
  | .probing pid _, .answer (.probed failure), s => some (probed s pid failure)
  | .probing pid deadline, .elapsed, s =>
    if deadline ≤ s.now then some (probed s pid (some .timedOut)) else none
  | .clearing f t, .ended, s =>
    (t.resume s).map fun
      | (s, some t) => (s, .waiting (.clearing f t))
      | (s, none) => fail s (.probe f)
  | _, _, _ => none

/-- Lets go of an attempt where it waits. -/
def release : Attempt → Scene → Scene
  | .pointing pid, s => s.onProcess pid .release
  | .probing pid _, s => s.onProcess pid .release
  | .clearing _ t, s => t.release s
  | _, s => s

end Attempt

namespace Scene

/--
Begins a pause before the next attempt, told with the failure that led to it.  The delay doubles at
once, not at the end of the pause.  The result is the end of the pause.
-/
def pause (s : Scene) (failure : Option SessionFault) : Scene × Nat :=
  let s := match failure with
    | none => s
    | some f => s.tell (.attemptFailed f)
  let s := (s.tell (.retryingIn s.backoff.current)).record (.pauseBegan s.backoff.current)
  ({ s with backoff := s.backoff.advance }, Clock.endOfWait s.now s.backoff.pause)

end Scene

end DnsWarden
