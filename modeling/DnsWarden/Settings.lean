import DnsWarden.Duration
import DnsWarden.IpRange

/-!
# Settings

What a user can set: whether encrypted DNS is wanted, how plaintext DNS is to be reached, how often
the resolver's files are refreshed, which blocklists to fetch, and the resolver's own settings.
-/

namespace DnsWarden

structure Provider where
  name : String
  /-- The name in the provider's certificate. -/
  tlsName : String
  ipv4 : List Ipv4
  ipv6 : List Ipv6
deriving DecidableEq

/-- Names and addresses that the resolver refuses to resolve. -/
structure Blocklist where
  hostnames : List String := []
  ips : List IpAddress := []
  ranges : List IpRange := []
deriving DecidableEq

/-- Which blocklists to fetch, and what to add to them or keep off them. -/
structure BlocklistChoice where
  blockMalicious : Bool := false
  blockAds : Bool := false
  blockSurveillance : Bool := false
  allowedHosts : List String := []
  addedHosts : List String := []
  addedIps : List IpAddress := []
  addedRanges : List IpRange := []
deriving DecidableEq

/-- The settings that are handed to the resolver. -/
structure ResolverSettings where
  /-- The providers, the preferred one first. -/
  providers : List Provider := []
  verbosity : UInt8 := 1
  /-- How much detail the resolver process is started with. -/
  detail : UInt8 := 0
  validationLog : UInt8 := 0
  /-- The port on the loopback address. -/
  port : UInt16 := 53
  caching : Bool := true
  ipv6 : Bool := false
  /-- What to block; every refresh of the files replaces it. -/
  blocklist : Blocklist := {}
deriving DecidableEq

structure Settings where
  /-- Whether encrypted DNS is wanted. -/
  enabled : Bool := false
  /-- The plaintext nameserver to use in place of the first provider's. -/
  plaintextAddress : Option IpAddress := none
  /-- Whether nameservers that the system has already are kept behind ours. -/
  keepNameserver : Bool := false
  /-- How often the files are refreshed and the resolver restarted; zero means never. -/
  updatePeriod : Duration := .zero
  blocklistChoice : BlocklistChoice := {}
  resolver : ResolverSettings := {}
deriving DecidableEq

namespace Provider

/-- The provider's address for plaintext DNS. -/
def plaintextAddress? (p : Provider) : Option IpAddress := p.ipv4.head?.map .v4

end Provider

namespace Settings

/-- The plaintext nameserver: the address that is set, else the first provider's first IPv4 one. -/
def plaintextTarget? (s : Settings) : Option IpAddress :=
  match s.plaintextAddress with
  | some ip => some ip
  | none => s.resolver.providers.head?.bind Provider.plaintextAddress?

/-- Whether two settings differ at most in the period of the refreshes. -/
def sameButPeriod (s t : Settings) : Bool :=
  { s with updatePeriod := t.updatePeriod } = t

end Settings

end DnsWarden
