import DnsWarden.Collector
import Mathlib.Data.List.Induction
import Mathlib.Logic.Relation
import Mathlib.Tactic.SplitIfs

/-!
# Every line is told once

What happens to a collector, and what it does, in any order: lines are printed on its two streams, a
stream ends, the collector is told to close or is ended from outside, and it makes its own moves.  A
`Record` keeps beside the collector the lines that its streams took and those that it told.  What one
incident does to one stream is a `Side.Turn`; the invariants follow from its few cases.  The main
statement, `Collector.Record.run_complete`, says that a collector that finishes by itself has told
every line that was taken, in order and once, and that it takes none after it has closed.
-/

namespace DnsWarden

theorem Stream.level_inj {s t : Stream} : s.level = t.level ↔ s = t := by
  cases s <;> cases t <;> decide

namespace Collector

/-- What happens to a collector, or what it does. -/
inductive Incident where
  /-- A line is printed on a stream. -/
  | line (s : Stream) (text : String)
  /-- A stream ends. -/
  | ends (s : Stream)
  | tell
  | abort
  | move (m : Move)
deriving DecidableEq

/-- A collector with the lines that its streams took and those that it told, the oldest first. -/
structure Record where
  collector : Collector := {}
  taken : List (Stream × String) := []
  told : List (Stream × String) := []
deriving DecidableEq

/-- The lines of one stream. -/
def linesOn (s : Stream) (ls : List (Stream × String)) : List String :=
  ls.filterMap fun l => if l.1 = s then some l.2 else none

theorem linesOn_append (s : Stream) (ls ls' : List (Stream × String)) :
    linesOn s (ls ++ ls') = linesOn s ls ++ linesOn s ls' := List.filterMap_append

theorem linesOn_here (s : Stream) (line : String) : linesOn s [(s, line)] = [line] := by
  simp [linesOn]

theorem linesOn_there {s t : Stream} (h : t ≠ s) (line : String) : linesOn s [(t, line)] = [] := by
  simp [linesOn, h]

namespace Record

/-- What comes of an incident; a stream that is closed refuses a line, which changes nothing. -/
def next? (r : Record) : Incident → Option Record
  | .line s text =>
    match r.collector.write? s text with
    | none => some r
    | some c => some { r with collector := c, taken := r.taken ++ [(s, text)] }
  | .ends s => some { r with collector := r.collector.hangUp s }
  | .tell => some { r with collector := r.collector.tell }
  | .abort => some { r with collector := r.collector.abort }
  | .move m =>
    (r.collector.step m).map fun (c, line) =>
      { r with collector := c, told := r.told ++ line.toList }

/-- What comes of incidents one after the other, if the collector can make its moves. -/
def run (r : Record) : List Incident → Option Record
  | [] => some r
  | i :: is => (r.next? i).bind fun q => q.run is

/-- The lines taken on a stream. -/
def takenOn (r : Record) (s : Stream) : List String := linesOn s r.taken

/-- The lines told at a level. -/
def toldAt (r : Record) (level : Level) : List String :=
  r.told.filterMap fun l => if l.1.level = level then some l.2 else none

theorem toldAt_level (r : Record) (s : Stream) : r.toldAt s.level = linesOn s r.told := by
  unfold toldAt linesOn
  simp only [Stream.level_inj]

end Record

/-! ## One stream -/

/-- One stream of a record: its pipe, and the lines taken and told on it. -/
structure Side where
  pipe : Pipe
  taken : List String
  told : List String

/-- What an incident can do to one stream. -/
inductive Side.Turn (s : Stream) : Incident → Side → Side → Prop where
  | idle {i x} : Turn s i x x
  | take {x line} (isOpen : x.pipe.shut = false ∧ x.pipe.ended = false) :
    Turn s (.line s line) x
      { x with pipe := { x.pipe with waiting := x.pipe.waiting ++ [line] }, taken := x.taken ++ [line] }
  | ends {x} : Turn s (.ends s) x { x with pipe := { x.pipe with ended := true } }
  | tell {x line rest} (waits : x.pipe.waiting = line :: rest) :
    Turn s (.move (.read s)) x
      { x with pipe := { x.pipe with waiting := rest }, told := x.told ++ [line] }
  | drain {x} (dry : x.pipe.waiting = []) (past : x.pipe.ended = true ∨ x.pipe.shut = true) :
    Turn s (.move (.read s)) x { x with pipe := { x.pipe with drained := true } }
  | close {x} : Turn s (.move .close) x { x with pipe := x.pipe.close }
  | discard {x} : Turn s .abort x { x with pipe := x.pipe.discard }

end Collector

theorem Pipe.read?_eq_some {p q : Pipe} {line : Option String} (h : p.read? = some (line, q)) :
    p.drained = false ∧
      ((∃ text rest, p.waiting = text :: rest ∧ line = some text ∧ q = { p with waiting := rest }) ∨
        p.waiting = [] ∧ (p.ended = true ∨ p.shut = true) ∧ line = none ∧
          q = { p with drained := true }) := by
  by_cases early : p.drained = true
  · rw [read?, if_pos early] at h
    cases h
  have early : p.drained = false := eq_false_of_ne_true early
  refine ⟨early, ?_⟩
  cases waits : p.waiting with
  | cons text rest =>
    rw [read?_cons early waits] at h
    cases h
    exact .inl ⟨text, rest, rfl, rfl, rfl⟩
  | nil =>
    rw [read?_nil early waits] at h
    split_ifs at h with past
    cases h
    exact .inr ⟨rfl, by simpa using past, rfl, by rw [waits]⟩

namespace Collector

variable {c c' : Collector}

section

variable (c : Collector) (s : Stream) (p : Pipe)

@[simp] theorem told_setPipe : (c.setPipe s p).told = c.told := by
  cases s <;> rfl

@[simp] theorem closing_setPipe : (c.setPipe s p).closing = c.closing := by
  cases s <;> rfl

@[simp] theorem aborted_setPipe : (c.setPipe s p).aborted = c.aborted := by
  cases s <;> rfl

end

theorem finished_setPipe {s : Stream} {p : Pipe} (same : p.drained = (c.pipe s).drained) :
    (c.setPipe s p).finished = c.finished := by
  cases s with
  | out => exact congrArg (· && c.err.drained) same
  | err => exact congrArg (c.out.drained && ·) same

theorem finished_hangUp (c : Collector) (s : Stream) : (c.hangUp s).finished = c.finished :=
  finished_setPipe rfl

theorem told_write? {s : Stream} {line : String} (h : c.write? s line = some c') :
    c'.told = c.told ∧ c'.aborted = c.aborted := by
  obtain ⟨q, -, rfl⟩ := Option.map_eq_some_iff.1 h
  exact ⟨told_setPipe _ _ _, aborted_setPipe _ _ _⟩

theorem finished_write? {s : Stream} {line : String} (h : c.write? s line = some c') :
    c'.finished = c.finished := by
  obtain ⟨q, hq, rfl⟩ := Option.map_eq_some_iff.1 h
  obtain ⟨-, -, rfl⟩ := Pipe.write?_eq_some.1 hq
  exact finished_setPipe rfl

@[simp] theorem closing_abort (c : Collector) : c.abort.closing = c.closing := by
  unfold abort
  split <;> rfl

/-- A move gets the next line or the end of a stream, or shuts both streams, once. -/
theorem step_eq_some {m : Move} {line : Option (Stream × String)} (h : c.step m = some (c', line)) :
    c.isOver = false ∧
      ((∃ s text q, m = .read s ∧ (c.pipe s).read? = some (text, q) ∧ c' = c.setPipe s q ∧
          line = text.map (s, ·)) ∨
        m = .close ∧ c.told = true ∧ c.closing = false ∧ line = none ∧
          c' = { c with out := c.out.close, err := c.err.close, closing := true }) := by
  by_cases past : c.isOver = true
  · rw [step_of_isOver past] at h
    cases h
  unfold step at h
  rw [if_neg past] at h
  refine ⟨eq_false_of_ne_true past, ?_⟩
  cases m with
  | read s =>
    obtain ⟨⟨text, q⟩, hr, same⟩ := Option.map_eq_some_iff.1 h
    cases same
    exact .inl ⟨s, text, q, rfl, hr, rfl, rfl⟩
  | close =>
    dsimp only at h
    split_ifs at h with heeds
    cases h
    have heeds : c.told = true ∧ c.closing = false := by simpa using heeds
    exact .inr ⟨rfl, heeds.1, heeds.2, rfl, rfl⟩

theorem told_step {m : Move} {line : Option (Stream × String)} (h : c.step m = some (c', line)) :
    c'.told = c.told ∧ c'.aborted = c.aborted := by
  obtain ⟨-, ⟨s, text, q, -, -, rfl, -⟩ | ⟨-, -, -, -, rfl⟩⟩ := step_eq_some h
  · exact ⟨told_setPipe _ _ _, aborted_setPipe _ _ _⟩
  · exact ⟨rfl, rfl⟩

namespace Record

variable {r r' q : Record} {i : Incident} {is : List Incident}

def side (r : Record) (s : Stream) : Side := ⟨r.collector.pipe s, r.takenOn s, linesOn s r.told⟩

/-- An incident on one stream leaves the other alone. -/
theorem next?_turn (h : r.next? i = some r') (s : Stream) : Side.Turn s i (r.side s) (r'.side s) := by
  cases i with
  | line t text =>
    cases written : r.collector.write? t text with
    | none =>
      simp only [next?, written] at h
      cases h
      exact .idle
    | some c =>
      simp only [next?, written] at h
      cases h
      obtain ⟨p, hp, rfl⟩ := Option.map_eq_some_iff.1 written
      obtain ⟨notShut, notEnded, rfl⟩ := Pipe.write?_eq_some.1 hp
      by_cases here : t = s
      · subst here
        simp only [side, takenOn, pipe_setPipe, linesOn_append, linesOn_here]
        exact .take ⟨notShut, notEnded⟩
      · simp only [side, takenOn, pipe_setPipe_of_ne here, linesOn_append, linesOn_there here,
          List.append_nil]
        exact .idle
  | ends t =>
    cases h
    by_cases here : t = s
    · subst here
      simp only [side, hangUp, pipe_setPipe]
      exact .ends
    · simp only [side, hangUp, pipe_setPipe_of_ne here]
      exact .idle
  | tell =>
    cases h
    cases s <;> exact .idle
  | abort =>
    cases h
    by_cases past : r.collector.isOver = true
    · simp only [side, abort, if_pos past]
      exact .idle
    · simp only [side, abort, if_neg past]
      cases s <;> exact .discard
  | move m =>
    obtain ⟨⟨c, line⟩, stepped, same⟩ := Option.map_eq_some_iff.1 h
    cases same
    obtain ⟨-, ⟨t, text, p, rfl, read, rfl, rfl⟩ | ⟨rfl, -, -, rfl, rfl⟩⟩ := step_eq_some stepped
    · by_cases here : t = s
      · subst here
        obtain ⟨-, ⟨line, rest, waits, rfl, rfl⟩ | ⟨dry, past, rfl, rfl⟩⟩ := Pipe.read?_eq_some read
        · simp only [side, pipe_setPipe, linesOn_append, Option.map_some, Option.toList_some,
            linesOn_here]
          exact .tell waits
        · simp only [side, pipe_setPipe, Option.map_none, Option.toList_none, List.append_nil]
          exact .drain dry past
      · have there : linesOn s (text.map (t, ·)).toList = [] := by
          cases text with
          | none => rfl
          | some line => exact linesOn_there here line
        simp only [side, pipe_setPipe_of_ne here, linesOn_append, there, List.append_nil]
        exact .idle
    · simp only [side, Option.toList_none, List.append_nil]
      cases s <;> exact .close

theorem next?_abort (h : r.next? .abort = some r') (kept : r'.collector.aborted = false) : r' = r := by
  cases h
  by_cases past : r.collector.isOver = true
  · simp only [abort, if_pos past]
  · simp [abort, if_neg past] at kept

/-- What an incident does to the switches of a collector. -/
theorem next?_switches (h : r.next? i = some r') :
    (r'.collector.aborted = false → r.collector.aborted = false) ∧
      (r'.collector.closing = true ↔ r.collector.closing = true ∨ i = .move .close) ∧
      (i = .move .close → r.collector.closing = false) := by
  cases i with
  | line s text =>
    cases written : r.collector.write? s text with
    | none =>
      simp only [next?, written] at h
      cases h
      simp
    | some c =>
      simp only [next?, written] at h
      cases h
      obtain ⟨p, -, rfl⟩ := Option.map_eq_some_iff.1 written
      simp
  | ends s =>
    cases h
    simp [hangUp]
  | tell =>
    cases h
    simp [tell]
  | abort =>
    refine ⟨fun kept => ?_, ?_⟩
    · rwa [← next?_abort h kept]
    · cases h
      simp
  | move m =>
    obtain ⟨⟨c, line⟩, stepped, same⟩ := Option.map_eq_some_iff.1 h
    cases same
    obtain ⟨-, ⟨s, text, p, rfl, -, rfl, -⟩ | ⟨rfl, -, early, -, rfl⟩⟩ := step_eq_some stepped
    · simp
    · simp [early]

theorem run_append (r : Record) (is js : List Incident) :
    r.run (is ++ js) = (r.run is).bind fun q => q.run js := by
  induction is generalizing r with
  | nil => rfl
  | cons i is ih =>
    simp only [List.cons_append, run]
    cases r.next? i with
    | none => rfl
    | some q => exact ih q

theorem run_concat {is : List Incident} {i : Incident} (h : r.run (is ++ [i]) = some r') :
    ∃ q, r.run is = some q ∧ q.next? i = some r' := by
  rw [run_append] at h
  obtain ⟨q, hq, last⟩ := Option.bind_eq_some_iff.1 h
  obtain ⟨q', hq', same⟩ := Option.bind_eq_some_iff.1 last
  cases same
  exact ⟨q, hq, hq'⟩

end Record

/-! ## What is kept -/

/-- What holds of one stream of a collector that was not ended from outside, after some incidents. -/
structure Side.Sound (s : Stream) (is : List Incident) (x : Side) : Prop where
  /-- The lines taken are those told and those that wait. -/
  whole : x.told ++ x.pipe.waiting = x.taken
  /-- The end of a stream is seen where nothing waits and nothing can follow. -/
  drained : x.pipe.drained = true → x.pipe.waiting = [] ∧ (x.pipe.ended = true ∨ x.pipe.shut = true)
  ended : x.pipe.ended = true → .ends s ∈ is
  shut : x.pipe.shut = true → .move .close ∈ is

namespace Side.Sound

variable {s : Stream} {i : Incident} {is : List Incident} {x y : Side}

theorem later (hx : x.Sound s is) : x.Sound s (is ++ [i]) where
  whole := hx.whole
  drained := hx.drained
  ended h := List.mem_append_left _ (hx.ended h)
  shut h := List.mem_append_left _ (hx.shut h)

theorem turn (hx : x.Sound s is) (h : Side.Turn s i x y) (kept : i ≠ .abort) :
    y.Sound s (is ++ [i]) := by
  have now : i ∈ is ++ [i] := List.mem_append_right _ List.mem_cons_self
  obtain ⟨whole, drained, ended, shut⟩ := hx.later (i := i)
  cases h with
  | idle => exact ⟨whole, drained, ended, shut⟩
  | take isOpen =>
    refine ⟨?_, fun early => ?_, ended, shut⟩
    · rw [← whole]
      exact (List.append_assoc _ _ _).symm
    · obtain ⟨-, past | past⟩ := drained early
      · exact absurd past (by simp [isOpen.2])
      · exact absurd past (by simp [isOpen.1])
  | ends => exact ⟨whole, fun early => ⟨(drained early).1, .inl rfl⟩, fun _ => now, shut⟩
  | tell waits =>
    refine ⟨?_, fun early => ?_, ended, shut⟩
    · rw [← whole, waits]
      exact List.append_assoc _ _ _
    · exact absurd (drained early).1 (by simp [waits])
  | drain dry past => exact ⟨whole, fun _ => ⟨dry, past⟩, ended, shut⟩
  | close => exact ⟨whole, fun early => ⟨(drained early).1, .inr rfl⟩, ended, fun _ => now⟩
  | discard => exact absurd rfl kept

end Side.Sound

/-- The collector has heeded the word to close: no stream takes a line any more. -/
def IsClosed (c : Collector) : Prop := c.closing = true ∧ ∀ s, (c.pipe s).shut = true

theorem Side.Turn.shut {s : Stream} {i : Incident} {x y : Side} (h : Side.Turn s i x y)
    (hx : x.pipe.shut = true) : y.pipe.shut = true ∧ y.taken = x.taken := by
  cases h with
  | take isOpen => exact absurd hx (by simp [isOpen.1])
  | idle | ends | tell | drain => exact ⟨hx, rfl⟩
  | close | discard => exact ⟨rfl, rfl⟩

namespace Record

variable {r r' q : Record} {i : Incident} {is js : List Incident}

theorem run_sound (h : run {} is = some r) (kept : r.collector.aborted = false) (s : Stream) :
    (r.side s).Sound s is := by
  induction is using List.reverseRecOn generalizing r with
  | nil =>
    cases h
    cases s <;> exact ⟨rfl, nofun, nofun, nofun⟩
  | append_singleton is i ih =>
    obtain ⟨q, hq, last⟩ := run_concat h
    have sound := ih hq ((next?_switches last).1 kept)
    by_cases abort : i = .abort
    · subst abort
      rw [next?_abort last kept]
      exact sound.later
    · exact sound.turn (next?_turn last s) abort

theorem next?_close (h : r.next? (.move .close) = some r') : r'.collector.IsClosed := by
  obtain ⟨⟨c, line⟩, stepped, same⟩ := Option.map_eq_some_iff.1 h
  cases same
  obtain ⟨-, ⟨s, text, p, heeds, -⟩ | ⟨-, -, -, -, rfl⟩⟩ := step_eq_some stepped
  · cases heeds
  · refine ⟨rfl, fun s => ?_⟩
    cases s <;> rfl

/-- A collector that has closed takes no further line, and does not close again. -/
theorem run_closed (h : q.run js = some r) (closed : q.collector.IsClosed) :
    r.collector.IsClosed ∧ (∀ s, r.takenOn s = q.takenOn s) ∧ .move .close ∉ js := by
  induction js generalizing q with
  | nil =>
    cases h
    exact ⟨closed, fun _ => rfl, List.not_mem_nil⟩
  | cons i js ih =>
    obtain ⟨q', first, rest⟩ := Option.bind_eq_some_iff.1 h
    obtain ⟨-, closing, once⟩ := next?_switches first
    have shut := fun s => (next?_turn first s).shut (closed.2 s)
    obtain ⟨closed', taken, never⟩ := ih rest ⟨closing.2 (.inl closed.1), fun s => (shut s).1⟩
    refine ⟨closed', fun s => (taken s).trans (shut s).2, ?_⟩
    rw [List.mem_cons]
    rintro (now | later)
    · exact absurd closed.1 (by simp [once now.symm])
    · exact never later

theorem run_isClosed (h : run {} is = some q) (heeded : .move .close ∈ is) : q.collector.IsClosed := by
  obtain ⟨before, after, rfl⟩ := List.append_of_mem heeded
  rw [run_append] at h
  obtain ⟨p, -, rest⟩ := Option.bind_eq_some_iff.1 h
  obtain ⟨p', first, rest⟩ := Option.bind_eq_some_iff.1 rest
  exact (run_closed rest (next?_close first)).1

/--
A collector that has seen the end of both its streams, and was not ended from outside, has told the lines
taken on the one at its level and those taken on the other at its level, each in order and once.  Nothing
waits then, and each stream has ended or was closed.  Once a collector has heeded the word to close, it
takes no further line and does not turn to that word again.
-/
theorem run_complete (h : run {} is = some r) :
    (r.collector.finished = true → r.collector.aborted = false →
      r.toldAt .info = r.takenOn .out ∧ r.toldAt .warn = r.takenOn .err ∧
      ∀ s, (r.collector.pipe s).waiting = [] ∧ (.ends s ∈ is ∨ .move .close ∈ is)) ∧
    ∀ before after q, is = before ++ after → run {} before = some q → .move .close ∈ before →
      (∀ s, r.takenOn s = q.takenOn s) ∧ .move .close ∉ after := by
  refine ⟨fun finished kept => ?_, ?_⟩
  · have sound := run_sound h kept
    have drained : ∀ s, (r.collector.pipe s).drained = true := by
      intro s
      have both : r.collector.out.drained = true ∧ r.collector.err.drained = true := by
        simpa [Collector.finished] using finished
      cases s with
      | out => exact both.1
      | err => exact both.2
    have dry : ∀ s, (r.collector.pipe s).waiting = [] := fun s => ((sound s).drained (drained s)).1
    have all : ∀ s, r.toldAt s.level = r.takenOn s := by
      intro s
      have whole : linesOn s r.told ++ (r.collector.pipe s).waiting = r.takenOn s := (sound s).whole
      rwa [dry s, List.append_nil, ← toldAt_level] at whole
    refine ⟨all .out, all .err, fun s => ⟨dry s, ?_⟩⟩
    exact ((sound s).drained (drained s)).2.imp (sound s).ended (sound s).shut
  · rintro before after q rfl hq heeded
    rw [run_append, hq] at h
    exact (run_closed h (run_isClosed hq heeded)).2

/-- Lines wait on both streams when the collector is told to close; one more line comes too late, and one
stream has ended by itself. -/
def closedWhileWaiting : List Incident :=
  [.line .out "up", .line .err "slow", .line .out "ready", .move (.read .out), .ends .err, .tell,
    .move .close, .line .out "late", .move (.read .err), .move (.read .err), .move (.read .out),
    .move (.read .out)]

theorem run_complete_while_waiting :
    ∃ r, run {} closedWhileWaiting = some r ∧ r.collector.finished = true ∧
      r.toldAt .info = r.takenOn .out ∧ r.toldAt .warn = r.takenOn .err ∧
      r.takenOn .out = ["up", "ready"] ∧ r.takenOn .err = ["slow"] := by
  have ran : run {} closedWhileWaiting = some
      { collector :=
          { out := { shut := true, drained := true }
            err := { ended := true, shut := true, drained := true }
            told := true
            closing := true }
        taken := [(.out, "up"), (.err, "slow"), (.out, "ready")]
        told := [(.out, "up"), (.err, "slow"), (.out, "ready")] } := by
    rfl
  obtain ⟨info, warn, -⟩ := (run_complete ran).1 rfl rfl
  exact ⟨_, ran, rfl, info, warn, rfl, rfl⟩

end Record

end Collector

/-! ## Finishing -/

/-- How many reads a pipe still takes, if nothing is added to it. -/
def Pipe.work (p : Pipe) : Nat := p.waiting.length + (!p.drained).toNat

theorem Pipe.read?_work {p q : Pipe} {line : Option String} (h : p.read? = some (line, q)) :
    q.work + 1 = p.work := by
  obtain ⟨early, ⟨text, rest, waits, -, rfl⟩ | ⟨dry, -, -, rfl⟩⟩ := Pipe.read?_eq_some h
  · simp only [work, waits, early, List.length_cons]
    omega
  · simp only [work, dry, early]
    rfl

/-- A pipe that is shut can be read until its end is seen. -/
theorem Pipe.read?_isSome {p : Pipe} (shut : p.shut = true) (early : p.drained = false) :
    p.read?.isSome = true := by
  cases waits : p.waiting with
  | cons text rest => simp [read?_cons early waits]
  | nil => simp [read?_nil early waits, shut]

namespace Collector

variable {c c' : Collector}

/-- How many moves a collector still takes, if nothing else happens. -/
def work (c : Collector) : Nat := c.out.work + c.err.work + (!c.closing).toNat

/-- Every move brings a collector closer to its end. -/
theorem step_work {m : Move} {line : Option (Stream × String)} (h : c.step m = some (c', line)) :
    c'.work + 1 = c.work := by
  obtain ⟨-, ⟨s, text, q, -, read, rfl, -⟩ | ⟨-, -, early, -, rfl⟩⟩ := step_eq_some h
  · have less := Pipe.read?_work read
    cases s <;> simp only [work, setPipe, pipe] at less ⊢ <;> omega
  · simp only [work, early]
    rfl

/-- One move, whatever it tells. -/
def Moves (c c' : Collector) : Prop := ∃ m line, c.step m = some (c', line)

/-- A collector that was told to close can go on until it has finished. -/
theorem exists_step (honest : c.closing = true → c.IsClosed) (told : c.told = true)
    (early : c.isOver = false) : ∃ m, (c.step m).isSome = true := by
  by_cases closing : c.closing = true
  · have unseen : c.out.drained = false ∨ c.err.drained = false := by
      have unfinished : c.finished = false := by
        cases hf : c.finished
        · rfl
        · simp [isOver, hf] at early
      simpa [finished, imp_iff_not_or] using unfinished
    obtain out | err := unseen
    · refine ⟨.read .out, ?_⟩
      simpa [step, early] using Pipe.read?_isSome ((honest closing).2 .out) out
    · refine ⟨.read .err, ?_⟩
      simpa [step, early] using Pipe.read?_isSome ((honest closing).2 .err) err
  · exact ⟨.close, by simp [step, early, told, closing]⟩

namespace Record

variable {r : Record} {is : List Incident}

theorem run_honest (h : run {} is = some r) (closing : r.collector.closing = true) :
    .move .close ∈ is := by
  induction is using List.reverseRecOn generalizing r with
  | nil =>
    cases h
    cases closing
  | append_singleton is i ih =>
    obtain ⟨q, hq, last⟩ := run_concat h
    obtain before | rfl := (next?_switches last).2.1.1 closing
    · exact List.mem_append_left _ (ih hq before)
    · exact List.mem_append_right _ List.mem_cons_self

/-- Whatever has happened, a collector that was told to close finishes by moves of its own, if it is not
ended from outside first: it takes no more of them than there is work for. -/
theorem run_finishes (h : run {} is = some r) (told : r.collector.told = true)
    (kept : r.collector.aborted = false) :
    ∃ (ms : List Move) (q : Record), ms.length ≤ r.collector.work ∧
      r.run (ms.map .move) = some q ∧ q.collector.finished = true ∧ q.collector.aborted = false := by
  obtain ⟨n, hn⟩ : ∃ n, r.collector.work = n := ⟨_, rfl⟩
  induction n using Nat.strongRecOn generalizing is r with
  | ind n ih =>
    by_cases past : r.collector.isOver = true
    · have finished : r.collector.finished = true := by simpa [isOver, kept] using past
      exact ⟨[], r, Nat.zero_le _, rfl, finished, kept⟩
    · have closed := fun closing => run_isClosed h (run_honest h closing)
      obtain ⟨m, goes⟩ := exists_step closed told (eq_false_of_ne_true past)
      obtain ⟨⟨c, line⟩, stepped⟩ := Option.isSome_iff_exists.1 goes
      have next : r.next? (.move m) =
          some { r with collector := c, told := r.told ++ line.toList } := by
        simp [next?, stepped]
      have less := step_work stepped
      obtain ⟨told', kept'⟩ := told_step stepped
      have ran : run {} (is ++ [.move m]) =
          some { r with collector := c, told := r.told ++ line.toList } := by
        rw [run_append, h]
        simp [run, next]
      obtain ⟨ms, q, short, rest, finished, still⟩ :=
        ih c.work (by omega) ran (told'.trans told) (kept'.trans kept) rfl
      refine ⟨m :: ms, q, ?_, ?_, finished, still⟩
      · simp only [List.length_cons]
        exact Nat.le_trans (Nat.succ_le_succ short) (Nat.le_of_eq less)
      · simp only [List.map_cons, run, next]
        exact rest

theorem run_moves {q : Record} {ms : List Move} (h : r.run (ms.map .move) = some q) :
    Relation.ReflTransGen Moves r.collector q.collector := by
  induction ms generalizing r with
  | nil =>
    cases h
    exact .refl
  | cons m ms ih =>
    obtain ⟨r', first, rest⟩ := Option.bind_eq_some_iff.1 h
    obtain ⟨⟨c, line⟩, stepped, same⟩ := Option.map_eq_some_iff.1 first
    cases same
    exact .head ⟨m, line, stepped⟩ (ih rest)

end Record

/-- The collector can have come to this from its beginning. -/
def Reached (c : Collector) : Prop := ∃ is r, Record.run {} is = some r ∧ r.collector = c

namespace Reached

theorem new : Reached {} := ⟨[], {}, rfl, rfl⟩

theorem next (h : c.Reached) {i : Incident}
    (goes : ∀ r : Record, r.collector = c → ∃ r', r.next? i = some r' ∧ r'.collector = c') :
    c'.Reached := by
  obtain ⟨is, r, hr, same⟩ := h
  obtain ⟨r', hr', same'⟩ := goes r same
  refine ⟨is ++ [i], r', ?_, same'⟩
  rw [Record.run_append, hr]
  simp [Record.run, hr']

theorem write? (h : c.Reached) {s : Stream} {line : String} (written : c.write? s line = some c') :
    c'.Reached := by
  refine h.next (i := .line s line) fun r same => ?_
  exact ⟨{ r with collector := c', taken := r.taken ++ [(s, line)] },
    by simp [Record.next?, same, written], rfl⟩

theorem hangUp (h : c.Reached) (s : Stream) : (c.hangUp s).Reached :=
  h.next (i := .ends s) fun _ same => ⟨_, rfl, congrArg (Collector.hangUp · s) same⟩

theorem tell (h : c.Reached) : c.tell.Reached :=
  h.next (i := .tell) fun _ same => ⟨_, rfl, congrArg Collector.tell same⟩

theorem moves (h : c.Reached) (moves : c.Moves c') : c'.Reached := by
  obtain ⟨m, line, stepped⟩ := moves
  refine h.next (i := .move m) fun r same => ?_
  exact ⟨{ r with collector := c', told := r.told ++ line.toList },
    by simp [Record.next?, same, stepped], rfl⟩

/-- A collector that was told to close can finish by moves of its own. -/
theorem finishes (h : c.Reached) (told : c.told = true) (kept : c.aborted = false) :
    ∃ c', Relation.ReflTransGen Moves c c' ∧ c'.finished = true ∧ c'.aborted = false := by
  obtain ⟨is, r, hr, rfl⟩ := h
  obtain ⟨ms, q, -, goes, finished, still⟩ := Record.run_finishes hr told kept
  exact ⟨q.collector, Record.run_moves goes, finished, still⟩

end Reached

end Collector

end DnsWarden
