import DnsWarden.Refresh

/-!
# Retreating to plaintext

When no resolver is up, or none is wanted, DNS is pointed at a plaintext nameserver.
-/

namespace DnsWarden.Scene

/-- Points the warden's own lookups and then the system at a nameserver. -/
def pointAt (s : Scene) (ip : IpAddress) (route : Route) (keep : Bool) : Scene :=
  (s.call (.pointInternally ip route)).call (.pointSystem ip keep)

/-- Tells when the system could not be pointed at a nameserver, which stops nothing. -/
def systemPointed (s : Scene) : Option NameserverFault → Scene
  | none => s
  | some f => s.tell (.systemUnchanged f)

/-- Counts a retreat, or a choice of plaintext without any failure. -/
def tallyRetreat (s : Scene) (failed : Bool) : Scene :=
  s.tally fun t =>
    if failed then { t with fallbacks := t.fallbacks + 1 }
    else { t with plaintextDefaults := t.plaintextDefaults + 1 }

/--
Points DNS at plaintext, because of a failure or without one.  The result says whether there is an
answer to wait for: there is none if no plaintext nameserver is known.
-/
def retreat (s : Scene) (failed : Bool) : Scene × Bool :=
  let s := s.tallyRetreat failed
  match s.settings.plaintextTarget? with
  | none => (s.tell .noPlaintext, false)
  | some ip =>
    ((s.tell (if failed then .fallingBack ip else .usingPlaintext ip)).pointAt ip .plaintext
      s.settings.keepNameserver, true)

end DnsWarden.Scene
