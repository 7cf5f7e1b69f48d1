import DnsWarden.Address.Parser
import DnsWarden.Duration

/-!
# Probing by looking up a name

A probe looks a name up until the nameserver answers with an address, and pauses between two
lookups; a name that is an address itself needs no nameserver.
-/

namespace DnsWarden.Lookup

/-- The name that is looked up unless another is given. -/
def defaultName : String := "github.com"

/-- The pause between two lookups. -/
def retryInterval : Duration := .ofSeconds 1

/-- How long one lookup may take. -/
def queryTimeout : Duration := .ofSeconds 5

/-- What comes of a query. -/
inductive Response where
  /-- So many addresses. -/
  | addresses (count : Nat)
  /-- The name has no such record, or does not exist, or the nameserver failed or refused. -/
  | failure
  /-- Nothing until the time is up. -/
  | silence
deriving DecidableEq

/-- Whether a response ends the probe. -/
def Response.settles : Response → Bool
  | .addresses n => 0 < n
  | _ => false

/-- How a probe ends. -/
inductive Ending where
  /-- With an address, after so many queries. -/
  | answered (queries : Nat)
  | cancelled
deriving DecidableEq

/-- The number of the first query that settles the probe, counted from `n`. -/
def firstSettled? (n : Nat) : List Response → Option Nat
  | [] => none
  | r :: rs => if r.settles then some n else firstSettled? (n + 1) rs

/--
Probes a nameserver that gives these responses one after the other, and the last one ever after,
while the word to end comes after a number of queries if at all.  A probe that neither gets an
address nor is told to end has no ending.
-/
def run (name : String) (responses : List Response) (cancelAfter : Option Nat) : Option Ending :=
  if cancelAfter = some 0 then some .cancelled
  else if (IpAddress.parse? name).isSome then some (.answered 0)
  else match firstSettled? 1 responses, cancelAfter with
    | some n, some m => if m < n then some .cancelled else some (.answered n)
    | some n, none => some (.answered n)
    | none, some _ => some .cancelled
    | none, none => none

end DnsWarden.Lookup
