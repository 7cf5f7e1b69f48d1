import DnsWarden.Proofs.Stride
import Mathlib.Logic.Relation

/-!
# The surroundings of the watch

While the watch waits, others work on the same scene: callers and the refresher ask for changes of
status, store settings and tell the operator things, processes print and end, and time passes.  A
`Nudge` is one thing that they do to the watch, and a `Murmur` one that asks nothing of it.  A `Shift`
is a stride, a nudge or the end of a watch that is dropped, and what every shift keeps is kept by
every `Passage`, which is what one move does to the watch.
-/

namespace DnsWarden

/-- What a process comes to by itself, or by its collector. -/
inductive Process.Drift (p : Process) : Process → Prop where
  | exit {note} (up : p.stage = .up) : Drift p { p with stage := .down note }
  | print {stream line c} (written : p.collector.write? stream line = some c) :
    Drift p { p with collector := c }
  | hangUp {stream} : Drift p { p with collector := p.collector.hangUp stream }
  | collect {m c told} (stepped : p.collector.step m = some (c, told)) :
    Drift p { p with collector := c }

/-- Whether the first wait for a start request follows a retreat. -/
def AfterRetreat.isEarly : AfterRetreat → Bool
  | .idle => true
  | _ => false

/-- Whether the watch has not gone on from its first wait for a start request. -/
def Stand.isEarly : Stand → Bool
  | .waiting .unborn | .waiting .idle => true
  | .waiting (.retreating after) | .retreating _ after | .resuming after => after.isEarly
  | _ => false

/-- What others do to the watch while it waits. -/
inductive Nudge : Stance → Stance → Prop where
  | told {st s s' m} (told : s.Told s') : Nudge ⟨st, s, m⟩ ⟨st, s', m⟩
  | cancel {st s m} : Nudge ⟨st, s, m⟩ ⟨st, { s with cancelled := true }, m⟩
  | pass {st s m nanos} : Nudge ⟨st, s, m⟩ ⟨st, s.pass nanos, m⟩
  | drift {st s m pid p q} (found : s.processes[pid]? = some p) (drifts : p.Drift q) :
    Nudge ⟨st, s, m⟩ ⟨st, s.onProcess pid fun _ => q, m⟩
  /-- A periodic refresh of the files has failed; none begins before a resolver was up. -/
  | refreshFailed {st s m f} (late : st.isEarly = false) :
    Nudge ⟨st, s, m⟩ ⟨st, (s.setStatus .crashed).tell (.refreshFailed f), m⟩
  | replace {st s m new} : Nudge ⟨st, s, m⟩ ⟨st, s.replace new, m⟩
  /-- A periodic restart is counted. -/
  | restarted {st s m} :
    Nudge ⟨st, s, m⟩ ⟨st, s.tally fun t => { t with restarts := t.restarts + 1 }, m⟩
  | openReply {st s m} : Nudge ⟨st, s, m⟩ ⟨st, s.openReply.1, m⟩
  | forsake {st s m t} : Nudge ⟨st, s, m⟩ ⟨st, s.forsake t, m⟩
  | post {p s r} (isOpen : p ≠ .returned ∧ p ≠ .dropped) :
    Nudge ⟨.waiting p, s, none⟩ ⟨.waiting p, s.record (.sent r), some r⟩

/-- Several things that others do to the watch. -/
abbrev Nudges : Stance → Stance → Prop := Relation.ReflTransGen Nudge

/-- Others leave the watch where it stands. -/
theorem Nudge.stand {x y : Stance} (h : Nudge x y) : y.stand = x.stand := by
  cases h <;> rfl

theorem Nudges.stand {x y : Stance} (h : Nudges x y) : y.stand = x.stand := by
  induction h with
  | refl => rfl
  | tail _ last ih => exact last.stand.trans ih

/-- What one move of the world does to the watch. -/
inductive Passage : Stance → Stance → Prop where
  | tread {x y} (h : Tread x y) : Passage x y
  | nudges {x y} (h : Nudges x y) : Passage x y
  /-- The watch is dropped where it waits. -/
  | drop {w : Watch} (isOpen : w.isOpen = true) (begun : w.phase ≠ .unborn) :
    Passage w.stance w.drop.stance

/-- A step on the way of the watch: its own, of others, or its end where it is dropped. -/
inductive Shift : Stance → Stance → Prop where
  | stride {x y} (h : Stride x y) : Shift x y
  | nudge {x y} (h : Nudge x y) : Shift x y
  | drop {w : Watch} (isOpen : w.isOpen = true) (begun : w.phase ≠ .unborn) :
    Shift w.stance w.drop.stance

section

variable {J : Stance → Prop} {x y : Stance}

theorem Walk.keep (h : Walk x y) (step : ∀ x y, Stride x y → J x → J y) (hx : J x) : J y := by
  induction h with
  | wait => exact hx
  | go _ first _ ih => exact ih (step _ _ first hx)

theorem Tread.keep (h : Tread x y) (step : ∀ x y, Stride x y → J x → J y) (hx : J x) : J y := by
  obtain ⟨z, first, rest⟩ := h
  exact rest.keep step (step _ _ first hx)

/-- What every shift keeps, every move keeps. -/
theorem Passage.keep (h : Passage x y) (step : ∀ x y, Shift x y → J x → J y) (hx : J x) : J y := by
  cases h with
  | tread h => exact h.keep (fun _ _ first => step _ _ (.stride first)) hx
  | nudges h =>
    induction h with
    | refl => exact hx
    | tail _ last ih => exact step _ _ (.nudge last) ih
  | drop isOpen begun => exact step _ _ (.drop isOpen begun) hx

end

/-! ## Murmurs -/

/-- What others do to the watch without asking anything of it, or taking anything back. -/
structure Murmur (x y : Stance) : Prop where
  nudge : Nudge x y
  stand : y.stand = x.stand
  mailbox : y.mailbox = x.mailbox
  pending : y.scene.pending = x.scene.pending
  replies : y.scene.replies = x.scene.replies

/-- Several things that ask nothing of the watch. -/
abbrev Murmurs : Stance → Stance → Prop := Relation.ReflTransGen Murmur

theorem Murmurs.nudges {x y : Stance} (h : Murmurs x y) : Nudges x y :=
  Relation.ReflTransGen.mono (fun _ _ last => last.nudge) _ _ h

section

variable {st : Stand} {s s' : Scene} {m : Option Request}

theorem Scene.Told.murmurs (h : s.Told s') : Murmurs ⟨st, s, m⟩ ⟨st, s', m⟩ :=
  .single ⟨.told h, rfl, rfl, h.pending, h.replies⟩

theorem Scene.refreshFailed_murmurs (s : Scene) (f : RefreshFault) (late : st.isEarly = false) :
    Murmurs ⟨st, s, m⟩ ⟨st, (s.setStatus .crashed).tell (.refreshFailed f), m⟩ :=
  .single ⟨.refreshFailed late, rfl, rfl, by simp, by simp⟩

/-- What happens to a process by itself is a murmur. -/
theorem Scene.drift_murmurs {pid : Nat} {p : Process} {f : Process → Process}
    (found : s.processes[pid]? = some p) (drifts : p.Drift (f p)) :
    Murmurs ⟨st, s, m⟩ ⟨st, s.onProcess pid f, m⟩ := by
  have same : s.onProcess pid f = s.onProcess pid fun _ => f p := by
    have processes : s.processes.modify pid f = s.processes.modify pid fun _ => f p := by
      apply List.ext_getElem?
      intro i
      by_cases hi : pid = i
      · subst hi
        simp only [List.getElem?_modify_eq, found, Option.map_eq_map, Option.map_some]
      · simp only [List.getElem?_modify_ne _ _ hi]
    unfold onProcess
    rw [processes]
  rw [same]
  exact .single ⟨.drift found drifts, rfl, rfl, rfl, rfl⟩

theorem Scene.hangUp_murmurs (s : Scene) (pid : Nat) (stream : Stream) :
    Murmurs ⟨st, s, m⟩ ⟨st, s.hangUp pid stream, m⟩ := by
  cases found : s.processes[pid]? with
  | some p => exact drift_murmurs found .hangUp
  | none =>
    have past : s.processes.length ≤ pid := List.getElem?_eq_none_iff.1 found
    have same : s.hangUp pid stream = s := by
      unfold hangUp onProcess
      rw [List.modify_eq_self past]
    rw [same]

end

/-! ## The desk -/

namespace Desk

theorem compose_nudges (d : Desk) (make : Ticket → Request) :
    Nudges d.watch.stance (d.compose make).1.watch.stance :=
  .single .openReply

theorem decide_nudges (d : Desk) (c : Client) (desired : Status) :
    Nudges d.watch.stance (d.decide c desired).1.watch.stance := by
  unfold Desk.decide
  cases desired with
  | running =>
    dsimp only
    split_ifs
    · exact d.compose_nudges _
    · exact .refl
  | stopped =>
    dsimp only
    split_ifs
    · exact .refl
    · exact d.compose_nudges _
  | crashed => exact .refl

theorem step_nudges {d d' : Desk} {c : Client} {desired : Status} {a : Ask} {n : Ask.Next}
    (h : d.step c desired a = some (d', n)) : Nudges d.watch.stance d'.watch.stance := by
  cases a with
  | arriving =>
    cases h
    exact .refl
  | queued =>
    simp only [step] at h
    split_ifs at h
    cases h
    exact .refl
  | reading =>
    obtain rfl := congrArg Prod.fst (Option.some.inj h)
    exact d.decide_nudges c desired
  | sending r =>
    simp only [step] at h
    split_ifs at h with hc he
    · cases h
      exact .single .forsake
    · cases h
      obtain ⟨⟨s, p, m⟩, q⟩ := d
      obtain rfl : m = none := Option.isNone_iff_eq_none.1 he
      exact .single (.post (by simpa [Watch.isOpen] using hc))
  | awaiting t =>
    simp only [step] at h
    split at h <;> cases h
    · exact .refl
    · exact .refl

theorem abandon_nudges (d : Desk) (c : Client) (a : Ask) :
    Nudges d.watch.stance (d.abandon c a).watch.stance := by
  cases a with
  | sending r => exact .single .forsake
  | _ => exact .refl

end Desk

end DnsWarden
