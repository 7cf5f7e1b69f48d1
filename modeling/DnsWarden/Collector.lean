import DnsWarden.Journal

/-!
# Collecting the lines of a process

A collector tells the operator every line that a process prints, until both its streams have ended.
When told to close it shuts the streams: they take no further line, but those taken already are
still told before the collector finishes.
-/

namespace DnsWarden

/-- A stream as its reader sees it. -/
structure Pipe where
  /-- The lines taken and not yet read, the oldest first. -/
  waiting : List String := []
  /-- The writer is gone. -/
  ended : Bool := false
  /-- The reader takes no further line. -/
  shut : Bool := false
  /-- The reader has seen the end. -/
  drained : Bool := false
deriving DecidableEq

namespace Pipe

/-- Puts a line on the stream, unless it is shut or its writer is gone. -/
def write? (p : Pipe) (line : String) : Option Pipe :=
  if p.shut || p.ended then none else some { p with waiting := p.waiting ++ [line] }

/--
What the reader gets next: a line, or the end once no line is left and none can follow.  There is
nothing to get while a line may still come, nor after the end.
-/
def read? (p : Pipe) : Option (Option String × Pipe) :=
  if p.drained then none
  else match p.waiting with
    | line :: rest => some (some line, { p with waiting := rest })
    | [] => if p.ended || p.shut then some (none, { p with drained := true }) else none

def close (p : Pipe) : Pipe := { p with shut := true }

/-- Throws the stream away with all that waits on it. -/
def discard (p : Pipe) : Pipe := { p with waiting := [], shut := true }

theorem write?_eq_some {p q : Pipe} {line : String} :
    p.write? line = some q ↔
      p.shut = false ∧ p.ended = false ∧ q = { p with waiting := p.waiting ++ [line] } := by
  cases hs : p.shut <;> cases he : p.ended <;> simp [write?, hs, he, eq_comm]

theorem read?_cons {p : Pipe} {line : String} {rest : List String} (hd : p.drained = false)
    (hw : p.waiting = line :: rest) :
    p.read? = some (some line, { p with waiting := rest }) := by
  simp [read?, hd, hw]

theorem read?_nil {p : Pipe} (hd : p.drained = false) (hw : p.waiting = []) :
    p.read? = if p.ended || p.shut then some (none, { p with drained := true }) else none := by
  simp [read?, hd, hw]

end Pipe

/-- The collector of a process's two streams. -/
structure Collector where
  out : Pipe := {}
  err : Pipe := {}
  /-- The collector was told to close. -/
  told : Bool := false
  /-- The collector has shut its streams because it was told to. -/
  closing : Bool := false
  /-- The collector was ended from outside. -/
  aborted : Bool := false
deriving DecidableEq

namespace Collector

/-- What a collector can do next. -/
inductive Move where
  /-- Get the next line or the end of a stream. -/
  | read (s : Stream)
  /-- Heed the word to close. -/
  | close
deriving DecidableEq

def pipe (c : Collector) : Stream → Pipe
  | .out => c.out
  | .err => c.err

def setPipe (c : Collector) : Stream → Pipe → Collector
  | .out, p => { c with out := p }
  | .err, p => { c with err := p }

/-- Whether the collector has seen the end of both streams. -/
def finished (c : Collector) : Bool := c.out.drained && c.err.drained

/-- Whether nothing more comes of the collector. -/
def isOver (c : Collector) : Bool := c.finished || c.aborted

/-- One move, with the line that it tells the operator. -/
def step (c : Collector) (m : Move) : Option (Collector × Option (Stream × String)) :=
  if c.isOver then none
  else match m with
    | .read s =>
      (c.pipe s).read?.map fun r => (c.setPipe s r.2, r.1.map fun line => (s, line))
    | .close =>
      if c.told && !c.closing then
        some ({ c with out := c.out.close, err := c.err.close, closing := true }, none)
      else none

/-- Puts a line on a stream, unless it is closed. -/
def write? (c : Collector) (s : Stream) (line : String) : Option Collector :=
  ((c.pipe s).write? line).map (c.setPipe s)

def hangUp (c : Collector) (s : Stream) : Collector :=
  c.setPipe s { c.pipe s with ended := true }

def tell (c : Collector) : Collector := { c with told := true }

/-- Ends the collector, and closes its streams with all that waits on them. -/
def abort (c : Collector) : Collector :=
  if c.isOver then c
  else { c with out := c.out.discard, err := c.err.discard, aborted := true }

/-! ## Laws -/

@[simp] theorem pipe_setPipe (c : Collector) (s : Stream) (p : Pipe) : (c.setPipe s p).pipe s = p := by
  cases s <;> rfl

theorem pipe_setPipe_of_ne {s t : Stream} (h : s ≠ t) (c : Collector) (p : Pipe) :
    (c.setPipe s p).pipe t = c.pipe t := by
  cases s <;> cases t <;> simp_all [setPipe, pipe]

theorem step_of_isOver {c : Collector} (h : c.isOver = true) (m : Move) : c.step m = none :=
  if_pos h

end Collector

end DnsWarden
