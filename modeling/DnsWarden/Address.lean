/-!
# IP addresses

Addresses of both families, in the order in which sorted lists show them: every IPv4 address before
every IPv6 address, and within a family by the address read as a number.
-/

namespace DnsWarden

/-- An IPv4 address, four octets. -/
structure Ipv4 where
  a : UInt8
  b : UInt8
  c : UInt8
  d : UInt8
deriving DecidableEq, Inhabited

structure Ipv6 where
  /-- The groups, most significant first. -/
  groups : List UInt16
  /-- There are eight of them. -/
  length_groups : groups.length = 8
deriving DecidableEq

inductive IpAddress where
  | v4 (ip : Ipv4)
  | v6 (ip : Ipv6)
deriving DecidableEq

namespace Ipv4

def octets (ip : Ipv4) : List UInt8 := [ip.a, ip.b, ip.c, ip.d]

/-- The two groups that an IPv4 address fills at the end of an IPv6 address. -/
def asGroups (ip : Ipv4) : List UInt16 :=
  [UInt16.ofNat (ip.a.toNat * 256 + ip.b.toNat), UInt16.ofNat (ip.c.toNat * 256 + ip.d.toNat)]

def value (ip : Ipv4) : Nat :=
  ((ip.a.toNat * 256 + ip.b.toNat) * 256 + ip.c.toNat) * 256 + ip.d.toNat

end Ipv4

namespace Ipv6

def value (ip : Ipv6) : Nat := ip.groups.foldl (fun n g => n * 65536 + g.toNat) 0

/-- The IPv4 address inside an IPv4-mapped address: five zero groups and a group of ones come first. -/
def mapped? (ip : Ipv6) : Option Ipv4 :=
  match ip.groups with
  | [0, 0, 0, 0, 0, 0xffff, g, h] =>
    some ⟨UInt8.ofNat (g.toNat / 256), UInt8.ofNat g.toNat,
      UInt8.ofNat (h.toNat / 256), UInt8.ofNat h.toNat⟩
  | _ => none

end Ipv6

namespace IpAddress

instance : Inhabited IpAddress := ⟨.v4 default⟩

def loopback : IpAddress := .v4 ⟨127, 0, 0, 1⟩

/-- The number of bits of an address of this family. -/
def width : IpAddress → Nat
  | .v4 _ => 32
  | .v6 _ => 128

/-- The place of an address in a sorted list: its family, then its value. -/
def rank : IpAddress → Nat × Nat
  | .v4 ip => (4, ip.value)
  | .v6 ip => (6, ip.value)

end IpAddress

end DnsWarden
