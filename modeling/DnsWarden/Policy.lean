import DnsWarden.Address
import DnsWarden.Duration

/-!
# Policy

What the operator of a warden decides once: how patiently it retries, how long a new resolver has
to answer, and where the resolver listens.
-/

namespace DnsWarden

/-- The fixed parameters of a warden. -/
structure Policy where
  /-- The delay before the first retry. -/
  backoff : Duration := .ofSeconds 10
  /-- The bound of the random time that is added to a delay. -/
  spread : Duration := .zero
  /-- How long a started resolver has to answer. -/
  probeTimeout : Duration := .ofSeconds 60
  /-- Where the resolver listens. -/
  resolverAddress : IpAddress := .loopback
deriving DecidableEq

end DnsWarden
