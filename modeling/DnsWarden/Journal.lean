import DnsWarden.Notice
import DnsWarden.Settings

/-!
# The journal

Everything that happens under a warden, in order: notices, calls of the collaborators, requests
received and answered, attempts, pauses, ticks, and lines that the resolver printed.  The newest
entry comes first.
-/

namespace DnsWarden

/-- Which way DNS is pointed at a nameserver for. -/
inductive Route where
  /-- To the resolver. -/
  | encrypted
  /-- Past the resolver. -/
  | plaintext
deriving DecidableEq

/-- A call of a collaborator. -/
inductive Call where
  | setUpFiles
  | buildLists (choice : BlocklistChoice)
  | writeConfig (settings : ResolverSettings)
  /-- Start a resolver process with so much detail. -/
  | start (detail : UInt8)
  | pointInternally (ip : IpAddress) (route : Route)
  | pointSystem (ip : IpAddress) (keep : Bool)
  | probe
deriving DecidableEq

/-- The number of a reply that somebody waits for. -/
abbrev Ticket := Nat

/-- What callers ask of the warden's loop; the reply goes to the ticket. -/
inductive Request where
  | start (reply : Ticket)
  | stop (reply : Ticket)
deriving DecidableEq

def Request.ticket : Request → Ticket
  | .start t => t
  | .stop t => t

/-- The two streams that a process prints lines on. -/
inductive Stream where
  | out
  | err
deriving DecidableEq

/-- The level at which lines of a stream are told. -/
def Stream.level : Stream → Level
  | .out => .info
  | .err => .warn

/-- Something that happened. -/
inductive Event where
  | notice (n : Notice)
  | call (c : Call)
  /-- An attempt to bring a resolver up began. -/
  | attemptBegan
  /-- An attempt ended, with a resolver up or with a failure. -/
  | attemptEnded (failure : Option SessionFault)
  /-- A pause of this length began, the random time not counted. -/
  | pauseBegan (delay : Duration)
  /-- A caller asked for a change of status. -/
  | sent (r : Request)
  /-- The loop received a request. -/
  | received (r : Request)
  /-- The loop answered a request. -/
  | answered (t : Ticket) (s : Status)
  /-- A caller replaced the settings. -/
  | replaced (s : Settings)
  /-- The schedule was set from a period. -/
  | scheduled (period : Duration)
  /-- A periodic restart fell due. -/
  | ticked
  | printed (process : Nat) (stream : Stream) (line : String)
deriving DecidableEq

/-- The call that an event is, if it is one. -/
def Event.call? : Event → Option Call
  | .call c => some c
  | _ => none

structure Entry where
  instant : Nat
  event : Event
deriving DecidableEq

/-- What happened so far, the newest entry first. -/
abbrev Journal := List Entry

namespace Journal

def calls (j : Journal) : List Call := j.filterMap fun e => e.event.call?

/-- Where the warden's own lookups were pointed last, and for which route. -/
def internalTarget? (j : Journal) : Option (IpAddress × Route) :=
  j.findSome? fun e => match e.event with
    | .call (.pointInternally ip route) => some (ip, route)
    | _ => none

/-- Where the system was pointed last. -/
def systemTarget? (j : Journal) : Option IpAddress :=
  j.findSome? fun e => match e.event with
    | .call (.pointSystem ip _) => some ip
    | _ => none

/-- The configuration that was written last, or was to be. -/
def config? (j : Journal) : Option ResolverSettings :=
  j.findSome? fun e => match e.event with
    | .call (.writeConfig r) => some r
    | _ => none

/-- How many entries record an event of some kind. -/
def count (p : Event → Bool) (j : Journal) : Nat := j.countP fun e => p e.event

end Journal

end DnsWarden
