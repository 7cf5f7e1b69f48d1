/-!
# Causes of failure

A failure is a message, and beneath it a chain of the failures that caused it.  Its report is all
messages from the outermost to the first cause, with a colon and a blank between them.
-/

namespace DnsWarden

/-- A failure and the chain of its causes. -/
inductive Fault where
  /-- A failure without a further cause. -/
  | root (message : String)
  /-- A failure because of another. -/
  | because (message : String) (cause : Fault)
deriving DecidableEq

namespace Fault

def message : Fault → String
  | .root m => m
  | .because m _ => m

def cause? : Fault → Option Fault
  | .root _ => none
  | .because _ c => some c

/-- The report of a failure. -/
def report : Fault → String
  | .root m => m
  | .because m c => m ++ ": " ++ c.report

def messages : Fault → List String
  | .root m => [m]
  | .because m c => m :: c.messages

/-- The failure with a message and, as its causes, the failures with the messages that follow. -/
def ofMessages (m : String) : List String → Fault
  | [] => .root m
  | c :: cs => .because m (ofMessages c cs)

/-! ## Laws -/

@[simp] theorem messages_ofMessages (m : String) (cs : List String) :
    (ofMessages m cs).messages = m :: cs := by
  induction cs generalizing m with
  | nil => rfl
  | cons c cs ih => simp [ofMessages, messages, ih]

end Fault

end DnsWarden
