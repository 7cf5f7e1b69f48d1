import DnsWarden.Fault
import DnsWarden.Fault.ExitStatus
import DnsWarden.Fault.SystemTexts
import DnsWarden.Status

/-!
# The kinds of failure

One type for the failures of each collaborator, and for those that the warden makes of them.  The
fault of a value says its message and its causes; a collaborator's own failure of an unknown kind
passes for what it is, without a message of ours above it.
-/

namespace DnsWarden

/-- Why reading, writing or starting something failed. -/
inductive IoFailure where
  /-- An error that the operating system numbers. -/
  | os (code : Nat)
  /-- An error with a text of its own. -/
  | custom (text : String)
  /-- An error with a text of its own and a cause. -/
  | caused (text : String) (cause : Fault)
deriving DecidableEq

namespace IoFailure

def text : IoFailure → String
  | .os n => SystemError.text n ++ " (os error " ++ toString n ++ ")"
  | .custom m => m
  | .caused m _ => m

/-- The fault of the error by itself. -/
def bare : IoFailure → Fault
  | .caused m c => .because m c
  | e => .root e.text

end IoFailure

inductive EngineFault where
  | io (e : IoFailure)
  | exited (s : ExitStatus)
  | other (f : Fault)
deriving DecidableEq

inductive WriterFault where
  | io (e : IoFailure)
  | other (f : Fault)
deriving DecidableEq

inductive NameserverFault where
  | io (e : IoFailure)
  | other (f : Fault)
deriving DecidableEq

inductive ProbeFault where
  | cancelled
  | timedOut
  | other (f : Fault)
deriving DecidableEq

inductive BlocklistFault where
  | fetch (source : String) (f : Fault)
  | other (f : Fault)
deriving DecidableEq

inductive RefreshFault where
  | setUp (f : WriterFault)
  | write (f : WriterFault)
deriving DecidableEq

inductive SessionFault where
  | refresh (f : RefreshFault)
  | start (f : EngineFault)
  | probe (f : ProbeFault)
  /-- The resolver ended by itself, with or without an error. -/
  | ended (f : Option EngineFault)
deriving DecidableEq

/-- Why a call of the warden failed. -/
inductive CallFault where
  | alreadyRunning
  | invalidStatus (s : Status)
  | terminated
deriving DecidableEq

/-- The fault of an input or output error beneath the message that all collaborators share. -/
def IoFailure.fault (e : IoFailure) : Fault := .because "I/O Error" e.bare

namespace EngineFault

def fault : EngineFault → Fault
  | .io e => e.fault
  | .exited s => .root ("resolver exited with " ++ s.text)
  | .other f => f

end EngineFault

namespace WriterFault

def fault : WriterFault → Fault
  | .io e => e.fault
  | .other f => f

end WriterFault

namespace NameserverFault

def fault : NameserverFault → Fault
  | .io e => e.fault
  | .other f => f

end NameserverFault

namespace ProbeFault

def fault : ProbeFault → Fault
  | .cancelled => .root "DNS probe cancelled"
  | .timedOut => .root "DNS probe timed out"
  | .other f => f

end ProbeFault

namespace BlocklistFault

def fault : BlocklistFault → Fault
  | .fetch source f => .because ("cannot fetch blocklist from " ++ source) f
  | .other f => f

end BlocklistFault

namespace RefreshFault

def fault : RefreshFault → Fault
  | .setUp f => .because "cannot set up resolver files" f.fault
  | .write f => .because "cannot write resolver configuration" f.fault

end RefreshFault

namespace SessionFault

def fault : SessionFault → Fault
  | .refresh f => .because "cannot update files" f.fault
  | .start f => .because "cannot start resolver" f.fault
  | .probe f => .because "resolver is not answering DNS queries" f.fault
  | .ended none => .root "resolver exited unexpectedly"
  | .ended (some f) => .because "resolver exited unexpectedly" f.fault

/--
Whether DNS is to be pointed at plaintext because of the failure.  A failed refresh touches no
resolver that runs already, so there is nothing to retreat from.
-/
def callsForPlaintext : SessionFault → Bool
  | .refresh _ => false
  | _ => true

end SessionFault

namespace CallFault

def message : CallFault → String
  | .alreadyRunning => "already running"
  | .invalidStatus s => "status " ++ s.text ++ " cannot be requested"
  | .terminated => "supervisor terminated"

end CallFault

end DnsWarden
