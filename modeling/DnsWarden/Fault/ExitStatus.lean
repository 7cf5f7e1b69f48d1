import DnsWarden.Text.Numeral

/-!
# How a process ended

The word in which a system reports the end of a child holds the exit code in its second byte, or
else the number of the signal that ended the child in its low seven bits, with the next bit set if
the memory was dumped.
-/

namespace DnsWarden

/-- The word that waiting for a child yields. -/
structure ExitStatus where
  /-- The word, of thirty-two bits with a sign. -/
  word : Int
deriving DecidableEq

namespace ExitStatus

/-- The names of the signals from one on. -/
def signalNames : List String :=
  ["SIGHUP", "SIGINT", "SIGQUIT", "SIGILL", "SIGTRAP", "SIGABRT", "SIGBUS", "SIGFPE", "SIGKILL",
   "SIGUSR1", "SIGSEGV", "SIGUSR2", "SIGPIPE", "SIGALRM", "SIGTERM", "SIGSTKFLT", "SIGCHLD",
   "SIGCONT", "SIGSTOP", "SIGTSTP", "SIGTTIN", "SIGTTOU", "SIGURG", "SIGXCPU", "SIGXFSZ",
   "SIGVTALRM", "SIGPROF", "SIGWINCH", "SIGIO", "SIGPWR", "SIGSYS"]

/-- The number of a signal, and its name in brackets if it has one. -/
def signalText (n : Nat) : String :=
  match n with
  | 0 => "0"
  | k + 1 =>
    match signalNames[k]? with
    | some name => toString n ++ " (" ++ name ++ ")"
    | none => toString n

def bits (s : ExitStatus) : Nat := (s.word % 4294967296).toNat

/-- The status of a child that ended by itself. -/
def exited (code : Nat) : ExitStatus := ⟨(code % 256) * 256⟩

/-- The status of a child that a signal ended. -/
def killed (signal : Nat) : ExitStatus := ⟨signal % 128⟩

def text (s : ExitStatus) : String :=
  let w := s.bits
  let low := w % 128
  if low = 0 then "exit status: " ++ toString (w / 256 % 256)
  else if low < 127 then
    "signal: " ++ signalText low ++ if w / 128 % 2 = 1 then " (core dumped)" else ""
  else if w % 256 = 127 then "stopped (not terminated) by signal: " ++ signalText (w / 256 % 256)
  else if w = 0xffff then "continued (WIFCONTINUED)"
  else
    "unrecognised wait status: " ++ toString s.word ++ " 0x" ++ String.ofList (Numeral.write 16 w)

end ExitStatus

end DnsWarden
