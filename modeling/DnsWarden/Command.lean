import DnsWarden.Fault.Kinds

/-!
# The command of a resolver

A resolver runs in the foreground: its own arguments come first, then the flag for that, then one
flag for each level of detail.
-/

namespace DnsWarden

/-- A program and its own arguments. -/
structure Command where
  program : String := "unbound"
  args : List String := []
deriving DecidableEq

namespace Command

/-- Adds arguments behind those that there are. -/
def withArgs (c : Command) (args : List String) : Command := { c with args := c.args ++ args }

/-- The arguments of a process that is started with so much detail. -/
def arguments (c : Command) (detail : UInt8) : List String :=
  c.args ++ "-d" :: List.replicate detail.toNat "-v"

end Command

end DnsWarden
