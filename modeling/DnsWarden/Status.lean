/-!
# The status of the resolver

What callers learn about the encrypted resolver, and may ask of it.
-/

namespace DnsWarden

/-- The state of the encrypted resolver as callers see it. -/
inductive Status where
  /-- No resolver is wanted, and DNS is in plaintext. -/
  | stopped
  /-- A resolver is up and has answered its probe. -/
  | running
  /-- The last attempt to bring the resolver up failed, or a refresh of its files did. -/
  | crashed
deriving DecidableEq, Inhabited

namespace Status

def text : Status → String
  | .stopped => "stopped"
  | .running => "running"
  | .crashed => "crashed"

/-- The name of a status, with a capital. -/
def name : Status → String
  | .stopped => "Stopped"
  | .running => "Running"
  | .crashed => "Crashed"

/-- The status that a text names. -/
def ofText? : String → Option Status
  | "stopped" => some .stopped
  | "running" => some .running
  | "crashed" => some .crashed
  | _ => none

/-- The text followed by blanks up to `width` characters. -/
def alignLeft (width : Nat) (s : Status) : String :=
  String.ofList (s.text.toList ++ List.replicate (width - s.text.length) ' ')

/-- The text after blanks up to `width` characters. -/
def alignRight (width : Nat) (s : Status) : String :=
  String.ofList (List.replicate (width - s.text.length) ' ' ++ s.text.toList)

@[simp] theorem ofText?_text (s : Status) : ofText? s.text = some s := by
  cases s <;> rfl

end Status

end DnsWarden
