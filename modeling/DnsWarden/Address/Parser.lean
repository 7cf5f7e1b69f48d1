import DnsWarden.Address
import DnsWarden.Text.Numeral
import DnsWarden.Text.Split

/-!
# Reading IP addresses

An IPv4 address is four decimal octets of at most three digits without leading zeros.  An IPv6
address is eight groups of one to four hexadecimal digits of either case, the last two of which may
be written as an IPv4 address; or fewer groups with one `::` in place of at least one missing group,
and no IPv4 address before it.
-/

namespace DnsWarden

namespace Ipv4

def readOctet? (cs : List Char) : Option UInt8 :=
  if 3 < cs.length ∨ (cs.head? = some '0' ∧ 1 < cs.length) then none
  else ((Numeral.read? 10 cs).filter (· < 256)).map UInt8.ofNat

def read? (cs : List Char) : Option Ipv4 :=
  match pieces '.' cs with
  | [a, b, c, d] =>
    (readOctet? a).bind fun a => (readOctet? b).bind fun b =>
      (readOctet? c).bind fun c => (readOctet? d).map fun d => ⟨a, b, c, d⟩
  | _ => none

end Ipv4

namespace Ipv6

def readGroup? (cs : List Char) : Option UInt16 :=
  if 4 < cs.length then none else (Numeral.read? 16 cs).map UInt16.ofNat

/-- Reads groups, the last of which may be an IPv4 address that counts for two. -/
def readGroups? (mixed : Bool) : List (List Char) → Option (List UInt16)
  | [] => some []
  | [p] =>
    match (readGroup? p).map fun g => [g] with
    | some gs => some gs
    | none => if mixed then (Ipv4.read? p).map Ipv4.asGroups else none
  | p :: ps => (readGroup? p).bind fun g => (readGroups? mixed ps).map (g :: ·)

/-- Reads the groups of a text with colons between them; an empty text holds none. -/
def readPart? (mixed : Bool) (cs : List Char) : Option (List UInt16) :=
  if cs.isEmpty then some [] else readGroups? mixed (pieces ':' cs)

/-- Takes eight groups for an address. -/
def ofGroups? (gs : List UInt16) : Option Ipv6 :=
  if h : gs.length = 8 then some ⟨gs, h⟩ else none

def read? (cs : List Char) : Option Ipv6 :=
  match cutAtPair ':' cs with
  | none => (readPart? true cs).bind ofGroups?
  | some (front, back) =>
    (readPart? false front).bind fun fs => (readPart? true back).bind fun bs =>
      if fs.length + bs.length < 8 then
        ofGroups? (fs ++ List.replicate (8 - (fs.length + bs.length)) 0 ++ bs)
      else none

end Ipv6

namespace IpAddress

def read? (cs : List Char) : Option IpAddress :=
  match Ipv4.read? cs with
  | some ip => some (.v4 ip)
  | none => (Ipv6.read? cs).map .v6

def parse? (s : String) : Option IpAddress := read? s.toList

end IpAddress

end DnsWarden
