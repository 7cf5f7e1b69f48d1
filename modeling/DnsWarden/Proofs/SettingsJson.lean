import DnsWarden.Proofs.AddressTexts
import DnsWarden.Settings.Codec
import Mathlib.Data.List.Basic

/-!
# Settings that were written are read back

Every kind of value in the settings is read back from the JSON that it is written as.  The main statement,
`Settings.json_round_trip`, puts this together: settings survive being written and read, and so does
whatever was read in one of the other forms that are accepted.
-/

namespace DnsWarden

namespace Json

theorem below?_ofNat {bound n : Nat} (lt : n < bound) : below? bound (.int n) = some n := by
  show (if n < bound then some n else none) = some n
  rw [if_pos lt]

theorem uint8?_toNat (n : UInt8) : uint8? (.int n.toNat) = some n := by
  unfold uint8?
  rw [below?_ofNat n.toNat_lt]
  simp

theorem uint16?_toNat (n : UInt16) : uint16? (.int n.toNat) = some n := by
  unfold uint16?
  rw [below?_ofNat n.toNat_lt]
  simp

/-- A list is read back if its items are. -/
theorem listOf?_map {α : Type} {write : α → Json} {read : Json → Option α}
    (back : ∀ a, read (write a) = some a) (as : List α) :
    listOf? read (.arr (as.map write)) = some as := by
  show (as.map write).mapM read = some as
  induction as with
  | nil => rfl
  | cons a as ih => simp [back, ih]

theorem listOf?_texts (ss : List String) : listOf? str? (texts ss) = some ss :=
  listOf?_map (fun s => show str? (.str s) = some s from rfl) ss

theorem lookup_zip {names : List String} (distinct : names.Nodup) (vs : List Json)
    (length : vs.length = names.length) :
    names.map (fun n => lookup n (names.zip vs)) = vs.map some := by
  induction names generalizing vs with
  | nil =>
    cases vs with
    | nil => rfl
    | cons v vs => cases length
  | cons n names ih =>
    cases vs with
    | nil => cases length
    | cons v vs =>
      obtain ⟨fresh, distinct⟩ := List.nodup_cons.1 distinct
      have later : ∀ m ∈ names, lookup m ((n, v) :: names.zip vs) = lookup m (names.zip vs) :=
        fun m there => if_neg fun same : n = m => fresh (same ▸ there)
      rw [List.zip_cons_cons, List.map_cons, List.map_congr_left later,
        ih distinct vs (by simpa using length)]
      simp [lookup]

/-- The fields of a record are found in an object that holds them under their names. -/
theorem record?_zip (names : List String) (distinct : names.Nodup) (vs : List Json)
    (length : vs.length = names.length) : record? names (.obj (names.zip vs)) = some (vs.map some) :=
  congrArg some (lookup_zip distinct vs length)

end Json

theorem IpAddress.ofJson?_toJson (ip : IpAddress) : ofJson? ip.toJson = some ip := ip.parse?_text

theorem Ipv4.ofJson?_toJson (ip : Ipv4) : ofJson? ip.toJson = some ip := by
  show read? (String.ofList ip.write).toList = some ip
  rw [String.toList_ofList, ip.read?_write]

theorem Ipv6.ofJson?_toJson (ip : Ipv6) : ofJson? ip.toJson = some ip := by
  show read? (String.ofList ip.write).toList = some ip
  rw [String.toList_ofList, ip.read?_write]

theorem IpRange.ofJson?_toJson (r : IpRange) : ofJson? r.toJson = some r := by
  show (parse r.text).toOption = some r
  rw [r.parse_text]
  rfl

theorem Duration.ofJson?_toJson (d : Duration) : ofJson? d.toJson = some d := by
  have inRange := d.inRange
  have whole : d.seconds < UInt64.size := by
    unfold seconds UInt64.size
    omega
  have rest : d.subsecond < UInt32.size := by
    unfold subsecond UInt32.size
    omega
  have sum : d.seconds * 1000000000 + d.subsecond = d.nanos := by
    unfold seconds subsecond
    omega
  show ofParts? (.int d.seconds) (.int d.subsecond) = some d
  unfold ofParts?
  rw [Json.below?_ofNat whole, Option.bind_some, Json.below?_ofNat rest, Option.bind_some, sum]
  exact dif_pos inRange

theorem Provider.ofJson?_toJson (p : Provider) : ofJson? p.toJson = some p := by
  have fields := Json.record?_zip ["name", "tls_name", "ipv4", "ipv6"] (by decide)
    [.str p.name, .str p.tlsName, .arr (p.ipv4.map Ipv4.toJson), .arr (p.ipv6.map Ipv6.toJson)] rfl
  unfold ofJson?
  rw [show p.toJson.record? _ = _ from fields]
  simp [Json.required?, Json.str?, Json.listOf?_map Ipv4.ofJson?_toJson,
    Json.listOf?_map Ipv6.ofJson?_toJson]

theorem Blocklist.ofJson?_toJson (b : Blocklist) : ofJson? b.toJson = some b := by
  have fields := Json.record?_zip ["hostnames", "ips", "ip_prefixes"] (by decide)
    [Json.texts b.hostnames, .arr (b.ips.map IpAddress.toJson), .arr (b.ranges.map IpRange.toJson)] rfl
  unfold ofJson?
  rw [show b.toJson.record? _ = _ from fields]
  simp [Json.required?, Json.listOf?_texts, Json.listOf?_map IpAddress.ofJson?_toJson,
    Json.listOf?_map IpRange.ofJson?_toJson]

theorem BlocklistChoice.ofJson?_toJson (b : BlocklistChoice) : ofJson? b.toJson = some b := by
  have fields := Json.record?_zip ["block_malicious", "block_ads", "block_surveillance", "allowed_hosts",
      "added_hosts", "added_ips", "added_ip_prefixes"] (by decide)
    [.bool b.blockMalicious, .bool b.blockAds, .bool b.blockSurveillance, Json.texts b.allowedHosts,
      Json.texts b.addedHosts, .arr (b.addedIps.map IpAddress.toJson),
      .arr (b.addedRanges.map IpRange.toJson)] rfl
  unfold ofJson?
  rw [show b.toJson.record? _ = _ from fields]
  simp [Json.required?, Json.bool?, Json.listOf?_texts, Json.listOf?_map IpAddress.ofJson?_toJson,
    Json.listOf?_map IpRange.ofJson?_toJson]

theorem ResolverSettings.ofJson?_toJson (r : ResolverSettings) : ofJson? r.toJson = some r := by
  have fields := Json.record?_zip ["providers", "verbosity_level", "verbosity_details_level",
      "validation_log_level", "listening_port", "caching", "ipv6", "blocklist"] (by decide)
    [.arr (r.providers.map Provider.toJson), .int r.verbosity.toNat, .int r.detail.toNat,
      .int r.validationLog.toNat, .int r.port.toNat, .bool r.caching, .bool r.ipv6,
      r.blocklist.toJson] rfl
  unfold ofJson?
  rw [show r.toJson.record? _ = _ from fields]
  simp [Json.required?, Json.bool?, Json.uint8?_toNat, Json.uint16?_toNat, Blocklist.ofJson?_toJson,
    Json.listOf?_map Provider.ofJson?_toJson]

namespace Settings

/-- An address is read back, and so is the lack of one. -/
theorem addressOfJson?_addressToJson (ip : Option IpAddress) :
    addressOfJson? (some (addressToJson ip)) = some ip := by
  cases ip with
  | none => rfl
  | some ip => exact congrArg (Option.map some) ip.ofJson?_toJson

theorem ofJson?_toJson (s : Settings) : ofJson? s.toJson = some s := by
  have fields := Json.record?_zip ["enabled", "plaintext_address", "keep_nameserver", "update_period",
      "blocklist_build", "resolver"] (by decide)
    [.bool s.enabled, addressToJson s.plaintextAddress, .bool s.keepNameserver, s.updatePeriod.toJson,
      s.blocklistChoice.toJson, s.resolver.toJson] rfl
  unfold ofJson?
  rw [show s.toJson.record? _ = _ from fields]
  simp [Json.required?, Json.bool?, addressOfJson?_addressToJson, Duration.ofJson?_toJson,
    BlocklistChoice.ofJson?_toJson, ResolverSettings.ofJson?_toJson]

/-- The ranges in settings: those to add to the blocklists and those that are blocked. -/
def ranges (s : Settings) : List IpRange := s.blocklistChoice.addedRanges ++ s.resolver.blocklist.ranges

/--
Settings are read back from the JSON that they are written as.  Whatever is read as settings, in any form
that is accepted, holds only ranges whose length fits the family of the address, and survives being written
and read again.  No range is read from an address and a length that does not fit, and from any other
address and length just this range is.
-/
theorem json_round_trip :
    (∀ s, ofJson? (toJson s) = some s) ∧
    (∀ v s, ofJson? v = some s →
      (∀ r ∈ s.ranges, r.bits.toNat ≤ r.addr.width) ∧ ofJson? s.toJson = some s) ∧
    ∀ (addr : IpAddress) (bits : UInt8),
      IpRange.ofJson? (.str (String.ofList (addr.write ++ '/' :: Numeral.write 10 bits.toNat))) =
        IpRange.ofParts? addr bits := by
  refine ⟨ofJson?_toJson, fun v s _ => ⟨fun r _ => r.bits_le, s.ofJson?_toJson⟩, fun addr bits => ?_⟩
  show (IpRange.parse _).toOption = _
  rw [IpRange.parse_parts]
  cases IpRange.ofParts? addr bits <;> rfl

/-- Settings as an array, with a field that is not known and nanoseconds that carry. -/
def unusual : Json :=
  .arr [.bool true, .null, .bool false, .arr [.int 1, .int 3999999999],
    .obj [("added_ip_prefixes", .arr [.str "::ffff:1.2.3.4/128", .str "10.0.0.0/+08"]),
      ("block_malicious", .bool true), ("block_ads", .bool false), ("block_surveillance", .bool false),
      ("comment", .null), ("allowed_hosts", .arr []), ("added_hosts", .arr [.str "example.net"]),
      ("added_ips", .arr [.str "2001:DB8:0:0:1::"])],
    .arr [.arr [.arr [.str "quad9", .str "dns.quad9.net", .arr [.str "9.9.9.9"], .arr [.str "2620:fe::fe"]]],
      .int 1, .int 0, .int 255, .int 53, .bool true, .bool false, .arr [.arr [], .arr [], .arr []]]]

theorem unusual_round_trip :
    ∃ s, ofJson? unusual = some s ∧ s.updatePeriod.nanos = 4999999999 ∧ s.ranges.length = 2 ∧
      (∀ r ∈ s.ranges, r.bits.toNat ≤ r.addr.width) ∧ ofJson? s.toJson = some s := by
  have reads : ((ofJson? unusual).any fun s => decide
      (s.updatePeriod.nanos = 4999999999 ∧ s.ranges.length = 2)) = true := by
    decide +kernel
  obtain ⟨s, hs, reads⟩ := (Option.any_eq_true _ _).1 reads
  obtain ⟨carried, two⟩ := of_decide_eq_true reads
  exact ⟨s, hs, carried, two, json_round_trip.2.1 _ s hs⟩

end Settings

end DnsWarden
