import DnsWarden.Json
import DnsWarden.Settings
import DnsWarden.Status

/-!
# Settings as JSON

Every record is written as an object with its fields in order, and may be read back either from an
object, whose unknown fields do not matter, or from an array with exactly its fields' values in that
order.  Every field has to be there but the plaintext address, which may be missing or null.
Addresses and ranges are texts.  A duration is an object of whole seconds and nanoseconds; from a
thousand million on, the nanoseconds carry into the seconds, and no other field may stand beside the
two.
-/

namespace DnsWarden

namespace Json

/-- The values of the fields of a record, from an object or from an array of just these. -/
def record? (names : List String) : Json → Option (List (Option Json))
  | .obj fields => some (names.map fun n => lookup n fields)
  | .arr items => if items.length = names.length then some (items.map some) else none
  | _ => none

/-- The value of a field that may not be missing. -/
def required? {α : Type} (read : Json → Option α) (field : Option Json) : Option α :=
  field.bind read

/-- A list, of which every item can be read. -/
def listOf? {α : Type} (read : Json → Option α) (v : Json) : Option (List α) :=
  v.arr?.bind fun items => items.mapM read

def uint8? (v : Json) : Option UInt8 := (v.below? UInt8.size).map UInt8.ofNat

def uint16? (v : Json) : Option UInt16 := (v.below? UInt16.size).map UInt16.ofNat

def texts (ss : List String) : Json := .arr (ss.map .str)

end Json

namespace IpAddress

def toJson (ip : IpAddress) : Json := .str ip.text

def ofJson? (v : Json) : Option IpAddress := v.str?.bind parse?

end IpAddress

namespace Ipv4

def toJson (ip : Ipv4) : Json := .str (String.ofList ip.write)

def ofJson? (v : Json) : Option Ipv4 := v.str?.bind fun s => read? s.toList

end Ipv4

namespace Ipv6

def toJson (ip : Ipv6) : Json := .str (String.ofList ip.write)

def ofJson? (v : Json) : Option Ipv6 := v.str?.bind fun s => read? s.toList

end Ipv6

namespace IpRange

def toJson (r : IpRange) : Json := .str r.text

def ofJson? (v : Json) : Option IpRange := v.str?.bind fun s => (parse s).toOption

end IpRange

namespace Duration

def toJson (d : Duration) : Json :=
  .obj [("secs", .int d.seconds), ("nanos", .int d.subsecond)]

/-- Reads the seconds and the nanoseconds of a duration. -/
def ofParts? (secs nanos : Json) : Option Duration :=
  (secs.below? UInt64.size).bind fun s => (nanos.below? UInt32.size).bind fun n =>
    ofNanos? (s * 1000000000 + n)

def ofJson? : Json → Option Duration
  | .obj fields =>
    if fields.all fun f => f.1 == "secs" || f.1 == "nanos" then
      (Json.lookup "secs" fields).bind fun s => (Json.lookup "nanos" fields).bind fun n =>
        ofParts? s n
    else none
  | .arr [s, n] => ofParts? s n
  | _ => none

end Duration

namespace Provider

def toJson (p : Provider) : Json :=
  .obj [("name", .str p.name), ("tls_name", .str p.tlsName),
    ("ipv4", .arr (p.ipv4.map Ipv4.toJson)), ("ipv6", .arr (p.ipv6.map Ipv6.toJson))]

def ofJson? (v : Json) : Option Provider := do
  match ← v.record? ["name", "tls_name", "ipv4", "ipv6"] with
  | [name, tlsName, ipv4, ipv6] =>
    return {
      name := ← Json.required? Json.str? name
      tlsName := ← Json.required? Json.str? tlsName
      ipv4 := ← Json.required? (Json.listOf? Ipv4.ofJson?) ipv4
      ipv6 := ← Json.required? (Json.listOf? Ipv6.ofJson?) ipv6 }
  | _ => none

end Provider

namespace Blocklist

def toJson (b : Blocklist) : Json :=
  .obj [("hostnames", Json.texts b.hostnames), ("ips", .arr (b.ips.map IpAddress.toJson)),
    ("ip_prefixes", .arr (b.ranges.map IpRange.toJson))]

def ofJson? (v : Json) : Option Blocklist := do
  match ← v.record? ["hostnames", "ips", "ip_prefixes"] with
  | [hostnames, ips, ranges] =>
    return {
      hostnames := ← Json.required? (Json.listOf? Json.str?) hostnames
      ips := ← Json.required? (Json.listOf? IpAddress.ofJson?) ips
      ranges := ← Json.required? (Json.listOf? IpRange.ofJson?) ranges }
  | _ => none

end Blocklist

namespace BlocklistChoice

def toJson (b : BlocklistChoice) : Json :=
  .obj [("block_malicious", .bool b.blockMalicious), ("block_ads", .bool b.blockAds),
    ("block_surveillance", .bool b.blockSurveillance),
    ("allowed_hosts", Json.texts b.allowedHosts), ("added_hosts", Json.texts b.addedHosts),
    ("added_ips", .arr (b.addedIps.map IpAddress.toJson)),
    ("added_ip_prefixes", .arr (b.addedRanges.map IpRange.toJson))]

def ofJson? (v : Json) : Option BlocklistChoice := do
  match ← v.record? ["block_malicious", "block_ads", "block_surveillance", "allowed_hosts",
      "added_hosts", "added_ips", "added_ip_prefixes"] with
  | [malicious, ads, surveillance, allowed, hosts, ips, ranges] =>
    return {
      blockMalicious := ← Json.required? Json.bool? malicious
      blockAds := ← Json.required? Json.bool? ads
      blockSurveillance := ← Json.required? Json.bool? surveillance
      allowedHosts := ← Json.required? (Json.listOf? Json.str?) allowed
      addedHosts := ← Json.required? (Json.listOf? Json.str?) hosts
      addedIps := ← Json.required? (Json.listOf? IpAddress.ofJson?) ips
      addedRanges := ← Json.required? (Json.listOf? IpRange.ofJson?) ranges }
  | _ => none

end BlocklistChoice

namespace ResolverSettings

def toJson (r : ResolverSettings) : Json :=
  .obj [("providers", .arr (r.providers.map Provider.toJson)),
    ("verbosity_level", .int r.verbosity.toNat), ("verbosity_details_level", .int r.detail.toNat),
    ("validation_log_level", .int r.validationLog.toNat), ("listening_port", .int r.port.toNat),
    ("caching", .bool r.caching), ("ipv6", .bool r.ipv6), ("blocklist", r.blocklist.toJson)]

def ofJson? (v : Json) : Option ResolverSettings := do
  match ← v.record? ["providers", "verbosity_level", "verbosity_details_level",
      "validation_log_level", "listening_port", "caching", "ipv6", "blocklist"] with
  | [providers, verbosity, detail, validationLog, port, caching, ipv6, blocklist] =>
    return {
      providers := ← Json.required? (Json.listOf? Provider.ofJson?) providers
      verbosity := ← Json.required? Json.uint8? verbosity
      detail := ← Json.required? Json.uint8? detail
      validationLog := ← Json.required? Json.uint8? validationLog
      port := ← Json.required? Json.uint16? port
      caching := ← Json.required? Json.bool? caching
      ipv6 := ← Json.required? Json.bool? ipv6
      blocklist := ← Json.required? Blocklist.ofJson? blocklist }
  | _ => none

end ResolverSettings

namespace Settings

/-- An address or null as JSON. -/
def addressToJson : Option IpAddress → Json
  | none => .null
  | some ip => ip.toJson

/-- Reads an address that may be missing or null. -/
def addressOfJson? : Option Json → Option (Option IpAddress)
  | none => some none
  | some .null => some none
  | some v => (IpAddress.ofJson? v).map some

def toJson (s : Settings) : Json :=
  .obj [("enabled", .bool s.enabled), ("plaintext_address", addressToJson s.plaintextAddress),
    ("keep_nameserver", .bool s.keepNameserver), ("update_period", s.updatePeriod.toJson),
    ("blocklist_build", s.blocklistChoice.toJson), ("resolver", s.resolver.toJson)]

def ofJson? (v : Json) : Option Settings := do
  match ← v.record? ["enabled", "plaintext_address", "keep_nameserver", "update_period",
      "blocklist_build", "resolver"] with
  | [enabled, plaintextAddress, keepNameserver, updatePeriod, blocklistChoice, resolver] =>
    return {
      enabled := ← Json.required? Json.bool? enabled
      plaintextAddress := ← addressOfJson? plaintextAddress
      keepNameserver := ← Json.required? Json.bool? keepNameserver
      updatePeriod := ← Json.required? Duration.ofJson? updatePeriod
      blocklistChoice := ← Json.required? BlocklistChoice.ofJson? blocklistChoice
      resolver := ← Json.required? ResolverSettings.ofJson? resolver }
  | _ => none

end Settings

namespace Status

def toJson (s : Status) : Json := .str s.text

/-- Reads a status: its text, or an object with the text as its one field and null as the value. -/
def ofJson? : Json → Option Status
  | .str s => ofText? s
  | .obj [(s, .null)] => ofText? s
  | _ => none

end Status

end DnsWarden
