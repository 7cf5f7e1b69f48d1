import DnsWarden.Address.Printer
import DnsWarden.Fault.Kinds
import DnsWarden.Text.Lines

/-!
# The system's list of nameservers

The system reads its nameservers from a file of lines: an entry is a line whose first word is
`nameserver` and whose second word is the address.  Pointing the system at a nameserver puts its
entry first; the other entries go, or stay behind it if they are to be kept and do not spell the
same address; every other line stays.  The nameserver for the process's own lookups is not written to
the file but published beside it.
-/

namespace DnsWarden.NameserverFile

/-- The word that makes a line an entry. -/
def keyword : List Char := "nameserver".toList

/-- The file that most systems read. -/
def defaultPath : String := "/etc/resolv.conf"

/-- The address of an entry, as it is spelt. -/
def entry? (line : List Char) : Option (List Char) :=
  match words line with
  | w :: address :: _ => if w = keyword then some address else none
  | _ => none

def entries (contents : List Char) : List (List Char) := (lines contents).filterMap entry?

/-- Whether a line stays when the system is pointed at the address spelt `ip`. -/
def stays (ip : List Char) (keep : Bool) (line : List Char) : Bool :=
  match entry? line with
  | none => true
  | some address => keep && address ≠ ip

/-- Puts a line end after each line. -/
def unlines (ls : List (List Char)) : List Char := ls.flatMap fun l => l ++ ['\n']

/-- The file with the entry of a nameserver in front. -/
def pointAt (contents : List Char) (ip : IpAddress) (keep : Bool) : List Char :=
  unlines ((keyword ++ ' ' :: ip.write) :: (lines contents).filter (stays ip.write keep))

/-! ## The file on its disk -/

/-- What is found where the file should be. -/
inductive Disk where
  | text (contents : String)
  | missing
  /-- The bytes there are no text. -/
  | binary
  | directory
  /-- Not even the directory for the file is there. -/
  | nowhere
deriving DecidableEq

def Disk.contents? : Disk → Option String
  | .text s => some s
  | _ => none

/-- Points the system at a nameserver; a file that is missing counts as empty and is created. -/
def Disk.pointAt (ip : IpAddress) (keep : Bool) : Disk → Except NameserverFault Disk
  | .text s => .ok (.text (String.ofList (NameserverFile.pointAt s.toList ip keep)))
  | .missing => .ok (.text (String.ofList (NameserverFile.pointAt [] ip keep)))
  | .binary => .error (.io (.custom "stream did not contain valid UTF-8"))
  | .directory => .error (.io (.os 21))
  | .nowhere => .error (.io (.os 2))

/-! ## The system and the process -/

/-- What is to be pointed at a nameserver. -/
inductive Order where
  /-- The process's own lookups. -/
  | process (ip : IpAddress)
  /-- The system, whose other entries are kept or not. -/
  | system (ip : IpAddress) (keep : Bool)
deriving DecidableEq

/-- The file on its disk, and the nameserver that is published for the process's own lookups. -/
structure Publisher where
  disk : Disk
  internal : Option IpAddress := none
deriving DecidableEq

/-- Carries out an order, or says why the system cannot be pointed there; then nothing changes. -/
def Publisher.obey (p : Publisher) : Order → Publisher × Option NameserverFault
  | .process ip => ({ p with internal := some ip }, none)
  | .system ip keep =>
    match p.disk.pointAt ip keep with
    | .ok disk => ({ p with disk }, none)
    | .error f => (p, some f)

end DnsWarden.NameserverFile
