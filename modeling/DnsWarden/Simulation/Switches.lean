import DnsWarden.Simulation.Script

/-!
# Collaborators with switches

The simplest script: every collaborator acts at once, and a switch says whether it fails.
-/

namespace DnsWarden

structure Switches where
  failStart : Bool := false
  answering : Bool := true
  failSystemWide : Bool := false
  failSetUpFiles : Bool := false
  failWriteConfig : Bool := false

namespace Switches

/-- Settings that want encrypted DNS, with one provider. -/
def enabledSettings : Settings :=
  { enabled := true
    resolver := { providers := [
      { name := "cloudflare", tlsName := "cloudflare-dns.com", ipv4 := [⟨1, 1, 1, 1⟩],
        ipv6 := [] }] } }

/-- Where these settings fall back to. -/
def plaintext : IpAddress := .v4 ⟨1, 1, 1, 1⟩

/-- The one source of blocklists unless others are given. -/
def defaultSources : List ListSource := [{ blocklist := { hostnames := ["ads.example.com"] } }]

/-- A source that cannot be fetched. -/
def failingSource (name : String) : ListSource :=
  { failure := some (.fetch name (.root "connection reset")) }

/-- An answer at once, which is a failure if the switch is on. -/
def reaction {α : Type} (other : Fault → α) (on : Bool) (message : String) : Reaction α :=
  { failure := if on then some (other (.root message)) else none }

/-- The script that the switches make. -/
def script (s : Switches) (sources : List ListSource) : Script where
  setUpFiles := reaction .other s.failSetUpFiles "cannot download root hints"
  writeConfig := reaction .other s.failWriteConfig "disk full"
  pointSystem := reaction .other s.failSystemWide "read-only file system"
  sources := sources
  probeMode := if s.answering then .timed else .untilCancelled
  start := reaction .other s.failStart "fake resolver refused to start"
  out := ["fake resolver started"]
  complaint := some "fake resolver crashed"

/-- The end of a process that is told to crash. -/
def crash : EngineFault := .other (.root "fake resolver crashed")

end Switches

end DnsWarden
