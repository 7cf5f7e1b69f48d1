import DnsWarden.Address.Parser
import DnsWarden.Address.Printer
import DnsWarden.Text.Quoted

/-!
# Address ranges

A range is an address and a length in bits that its family has room for, written `address/length`.
Of the three ways in which a text can fail to be a range the first that applies is reported: there
is no slash, what stands before the first slash is no address, what follows it is no length.
-/

namespace DnsWarden

structure IpRange where
  addr : IpAddress
  bits : UInt8
  /-- The length fits the family. -/
  bits_le : bits.toNat ≤ addr.width
deriving DecidableEq

/-- Why a text is no range; each cause holds the text. -/
inductive IpRange.Refusal where
  | missingLength (text : String)
  | address (text : String)
  | length (text : String)
deriving DecidableEq

namespace IpRange

def Refusal.message : Refusal → String
  | .missingLength s => "missing '/' in IP prefix " ++ quoted s
  | .address s => "invalid address in IP prefix " ++ quoted s
  | .length s => "invalid prefix length in IP prefix " ++ quoted s

/-- The range of an address and a length, if the length fits. -/
def ofParts? (addr : IpAddress) (bits : UInt8) : Option IpRange :=
  if h : bits.toNat ≤ addr.width then some ⟨addr, bits, h⟩ else none

/-- Reads a length: a decimal number below 256, which may carry a plus sign and leading zeros. -/
def readBits? (cs : List Char) : Option UInt8 :=
  (Numeral.readBelow? 256 cs).map UInt8.ofNat

def parse (s : String) : Except Refusal IpRange :=
  match cut '/' s.toList with
  | none => .error (.missingLength s)
  | some (front, back) =>
    match IpAddress.read? front with
    | none => .error (.address s)
    | some addr =>
      match (readBits? back).bind (ofParts? addr) with
      | none => .error (.length s)
      | some range => .ok range

def text (r : IpRange) : String :=
  String.ofList (r.addr.write ++ '/' :: Numeral.write 10 r.bits.toNat)

/-! ## Order -/

/-- Whether a range comes no later than another: by family, then address, then length. -/
def precedes (r s : IpRange) : Bool :=
  let a := r.addr.rank
  let b := s.addr.rank
  a.1 < b.1 || (a.1 == b.1 && (a.2 < b.2 || (a.2 == b.2 && r.bits ≤ s.bits)))

def sort (rs : List IpRange) : List IpRange := rs.mergeSort precedes

/-- A list without any range that directly follows its equal. -/
def dedup : List IpRange → List IpRange
  | [] => []
  | [r] => [r]
  | r :: s :: rest => if r = s then dedup (s :: rest) else r :: dedup (s :: rest)

end IpRange

end DnsWarden
