import DnsWarden.Address
import DnsWarden.Text.Numeral

/-!
# Writing IP addresses

IPv4 addresses are four decimal octets.  IPv6 addresses are lower-case hexadecimal groups in which
the longest run of at least two zero groups, the first of several of that length, shrinks to `::`.
Only an IPv4-mapped address ends in an IPv4 address.
-/

namespace DnsWarden

def Ipv4.write (ip : Ipv4) : List Char :=
  List.intercalate ['.'] (ip.octets.map fun o => Numeral.write 10 o.toNat)

namespace Ipv6

/-- The number of zero groups at the head of a list. -/
def leadingZeros : List UInt16 → Nat
  | [] => 0
  | g :: gs => if g = 0 then leadingZeros gs + 1 else 0

/-- The start and the length of the first longest run of zero groups. -/
def longestZeros : List UInt16 → Nat × Nat
  | [] => (0, 0)
  | g :: gs =>
    let here := leadingZeros (g :: gs)
    let later := longestZeros gs
    if later.2 ≤ here then (0, here) else (later.1 + 1, later.2)

/-- Groups in hexadecimal with colons between them. -/
def writeGroups (gs : List UInt16) : List Char :=
  List.intercalate [':'] (gs.map fun g => Numeral.write 16 g.toNat)

def write (ip : Ipv6) : List Char :=
  match ip.mapped? with
  | some inner => "::ffff:".toList ++ inner.write
  | none =>
    let run := longestZeros ip.groups
    if 2 ≤ run.2 then
      writeGroups (ip.groups.take run.1) ++ [':', ':'] ++
        writeGroups (ip.groups.drop (run.1 + run.2))
    else writeGroups ip.groups

end Ipv6

namespace IpAddress

def write : IpAddress → List Char
  | .v4 ip => ip.write
  | .v6 ip => ip.write

def text (ip : IpAddress) : String := String.ofList ip.write

end IpAddress

end DnsWarden
