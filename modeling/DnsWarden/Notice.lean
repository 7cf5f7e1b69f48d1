import DnsWarden.Address.Printer
import DnsWarden.Duration.Text
import DnsWarden.Fault.Kinds

/-!
# Notices

What the warden tells its operator: each notice has a level, a message, and named texts.
-/

namespace DnsWarden

inductive Level where
  | debug
  | info
  | warn
  | error
deriving DecidableEq

def Level.text : Level → String
  | .debug => "DEBUG"
  | .info => "INFO"
  | .warn => "WARN"
  | .error => "ERROR"

/-- Something worth telling the operator. -/
inductive Notice where
  | fetchingKeys
  | fetchingLists
  | sourceFailed (f : BlocklistFault)
  | usingPlaintext (ip : IpAddress)
  | fallingBack (ip : IpAddress)
  | noPlaintext
  | systemUnchanged (f : NameserverFault)
  | statusChanged (old new : Status)
  | ready
  | starting
  | stopping
  | attemptFailed (f : SessionFault)
  | retryingIn (d : Duration)
  | refreshFailed (f : RefreshFault)
  | restartSkipped
  | cannotStop (f : CallFault)
  | cannotStart (f : CallFault)
  | runEnded
deriving DecidableEq

namespace Notice

def level : Notice → Level
  | .statusChanged _ _ | .runEnded => .debug
  | .fetchingKeys | .fetchingLists | .usingPlaintext _ | .fallingBack _ | .ready | .starting
  | .stopping | .retryingIn _ => .info
  | .sourceFailed _ | .attemptFailed _ | .restartSkipped | .cannotStop _ | .cannotStart _ => .warn
  | .noPlaintext | .systemUnchanged _ | .refreshFailed _ => .error

def message : Notice → String
  | .fetchingKeys => "downloading DNS over TLS cryptographic files"
  | .fetchingLists => "downloading hostnames and IP block lists"
  | .sourceFailed _ => "blocklist source failed"
  | .usingPlaintext ip => "using plaintext DNS at address " ++ ip.text
  | .fallingBack ip => "falling back on plaintext DNS at address " ++ ip.text
  | .noPlaintext =>
    "no plaintext DNS address available: no address set and no provider has an IPv4 address"
  | .systemUnchanged _ => "cannot set system-wide DNS"
  | .statusChanged _ _ => "status transition"
  | .ready => "ready"
  | .starting => "starting"
  | .stopping => "stopping"
  | .attemptFailed _ => "resolver setup failed"
  | .retryingIn d => "attempting restart in " ++ d.text
  | .refreshFailed _ => "periodic files update failed"
  | .restartSkipped => "skipping resolver restart due to failed files update"
  | .cannotStop _ => "cannot stop resolver for restart"
  | .cannotStart _ => "cannot start resolver after restart"
  | .runEnded => "run loop exited"

def fields : Notice → List (String × String)
  | .sourceFailed f => [("err", f.fault.report)]
  | .systemUnchanged f => [("err", f.fault.report)]
  | .statusChanged old new => [("from", old.text), ("to", new.text)]
  | .attemptFailed f => [("err", f.fault.report)]
  | .refreshFailed f => [("err", f.fault.report)]
  | .cannotStop f => [("err", f.message)]
  | .cannotStart f => [("err", f.message)]
  | _ => []

end Notice

end DnsWarden
