/-!
# Waiting for helper tasks

A helper task ends with a value, by breaking down, or because it was ended from outside.  Whoever
waits for it gets the value, breaks down in the same way, or goes on without a value.
-/

namespace DnsWarden

/-- How a helper task ends. -/
inductive HelperEnd where
  | value (n : Int)
  /-- It broke down with a message. -/
  | broken (message : String)
  /-- It was ended from outside. -/
  | aborted
deriving DecidableEq

namespace HelperEnd

/-- What waiting for the task comes to: a breakdown is passed on. -/
def join : HelperEnd → Except String (Option Int)
  | .value n => .ok (some n)
  | .broken m => .error m
  | .aborted => .ok none

/-- The end of a task that ends by itself after `delay`, unless it is ended from outside before. -/
def unlessAborted (own : HelperEnd) (delay : Nat) (abortAt : Option Nat) : HelperEnd :=
  match abortAt with
  | none => own
  | some t => if delay < t then own else .aborted

end HelperEnd

end DnsWarden
