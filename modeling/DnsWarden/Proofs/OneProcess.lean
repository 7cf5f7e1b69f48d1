import DnsWarden.Proofs.Collecting
import DnsWarden.Proofs.Turns

/-!
# One process at a time

A process is over if the engine refused it, or if it was told to stop, its end was received and its
lines were collected.  The watch has at most one process in hand that is not over: `Stand.hand` says
which one at each place, and how far the watch has come with it.  The main statement,
`World.processes_over_at_start`, says that all earlier processes are over whenever one is started.
-/

namespace DnsWarden

/-! ## How far the watch has come with a process -/

namespace Process

theorem note?_eq_some {p : Process} {note : ExitNote} :
    p.note? = some note ↔ p.stage = .down note ∧ p.heard = false := by
  unfold note?
  cases p.stage <;> cases p.heard <;> simp

/-- The engine has started the process. -/
def Begun (p : Process) : Prop := p.stage = .up ∨ ∃ note, p.stage = .down note

/-- The engine was asked for the process and has not answered. -/
def IsAsked (p : Process) : Prop :=
  p.stage = .requested ∧ p.cancelled = false ∧ p.heard = false ∧ p.collector.aborted = false

/-- The process was begun and is not to end. -/
def IsKept (p : Process) : Prop :=
  p.Begun ∧ p.cancelled = false ∧ p.heard = false ∧ p.collector.aborted = false

/-- The process was told to stop, and its end was not received. -/
def IsStopping (p : Process) : Prop :=
  p.Begun ∧ p.cancelled = true ∧ p.heard = false ∧ p.collector.aborted = false

/-- The process was told to stop, and its end was received. -/
def HasEnded (p : Process) : Prop :=
  (∃ note, p.stage = .down note) ∧ p.cancelled = true ∧ p.heard = true ∧ p.collector.aborted = false

/-- The process is in a session: its end was received only if it was told to stop. -/
def IsHeld (p : Process) : Prop := p.IsKept ∨ p.HasEnded

/-- The end of the process was received, and its collector was told to close. -/
def IsJoining (p : Process) : Prop := p.HasEnded ∧ p.collector.told = true

/-- The engine refused the process, or it ended and its lines were collected. -/
def IsOver (p : Process) : Prop := p.stage = .refused ∨ p.IsJoining ∧ p.collector.finished = true

theorem IsOver.isUp {p : Process} (h : p.IsOver) : p.isUp = false := by
  obtain h | ⟨⟨⟨⟨note, h⟩, -⟩, -⟩, -⟩ := h <;> simp [Process.isUp, h]

theorem HasEnded.isUp {p : Process} (h : p.HasEnded) : p.isUp = false := by
  obtain ⟨⟨note, h⟩, -⟩ := h
  simp [Process.isUp, h]

theorem IsKept.cancel {p : Process} (h : p.IsKept) : p.cancel.IsStopping := ⟨h.1, rfl, h.2.2⟩

theorem HasEnded.cancel {p : Process} (h : p.HasEnded) : p.cancel.HasEnded := ⟨h.1, rfl, h.2.2⟩

theorem IsHeld.cancel {p : Process} (h : p.IsHeld) : p.cancel.IsStopping ∨ p.cancel.HasEnded :=
  h.imp IsKept.cancel HasEnded.cancel

theorem IsStopping.hear {p : Process} (h : p.IsStopping) {note : ExitNote}
    (hn : p.note? = some note) : p.hear.HasEnded :=
  ⟨⟨note, (note?_eq_some.1 hn).1⟩, h.2.1, rfl, h.2.2.2⟩

theorem IsHeld.hear_cancel {p : Process} (h : p.IsHeld) {note : ExitNote}
    (hn : p.note? = some note) : p.hear.cancel.HasEnded := by
  obtain ⟨down, unheard⟩ := note?_eq_some.1 hn
  obtain h | h := h
  · exact ⟨⟨note, down⟩, rfl, rfl, h.2.2.2⟩
  · exact ⟨⟨note, down⟩, rfl, rfl, h.2.2.2⟩

/-- What a process comes to by itself does not change what holds of it. -/
def Lasts (Q : Process → Prop) : Prop := ∀ ⦃p q : Process⦄, p.Drift q → Q p → Q q

theorem Drift.same {p q : Process} (h : p.Drift q) :
    q.cancelled = p.cancelled ∧ q.heard = p.heard ∧
      q.collector.told = p.collector.told ∧ q.collector.aborted = p.collector.aborted := by
  cases h with
  | exit _ => exact ⟨rfl, rfl, rfl, rfl⟩
  | print written => exact ⟨rfl, rfl, Collector.told_write? written⟩
  | hangUp =>
    exact ⟨rfl, rfl, Collector.told_setPipe _ _ _, Collector.aborted_setPipe _ _ _⟩
  | collect stepped => exact ⟨rfl, rfl, Collector.told_step stepped⟩

theorem Drift.stage {p q : Process} (h : p.Drift q) (up : p.stage ≠ .up) : q.stage = p.stage := by
  cases h with
  | exit hu => exact absurd hu up
  | print _ => rfl
  | hangUp => rfl
  | collect _ => rfl

theorem Drift.begun {p q : Process} (h : p.Drift q) (hp : p.Begun) : q.Begun := by
  cases h with
  | exit _ => exact .inr ⟨_, rfl⟩
  | print _ => exact hp
  | hangUp => exact hp
  | collect _ => exact hp

theorem Drift.finished {p q : Process} (h : p.Drift q) (hp : p.collector.finished = true) :
    q.collector.finished = true := by
  cases h with
  | exit _ => exact hp
  | print written => exact (Collector.finished_write? written).trans hp
  | hangUp => exact (Collector.finished_hangUp _ _).trans hp
  | collect stepped =>
    have past : p.collector.isOver = true := by simp [Collector.isOver, hp]
    rw [Collector.step_of_isOver past] at stepped
    cases stepped

theorem lasts_isAsked : Lasts IsAsked := by
  intro p q h ⟨stage, rest⟩
  have up : p.stage ≠ .up := by simp [stage]
  refine ⟨(h.stage up).trans stage, ?_⟩
  simpa only [h.same] using rest

theorem lasts_isKept : Lasts IsKept := by
  intro p q h ⟨begun, rest⟩
  refine ⟨h.begun begun, ?_⟩
  simpa only [h.same] using rest

theorem lasts_isStopping : Lasts IsStopping := by
  intro p q h ⟨begun, rest⟩
  refine ⟨h.begun begun, ?_⟩
  simpa only [h.same] using rest

theorem lasts_hasEnded : Lasts HasEnded := by
  intro p q h ⟨⟨note, down⟩, rest⟩
  have up : p.stage ≠ .up := by simp [down]
  refine ⟨⟨note, (h.stage up).trans down⟩, ?_⟩
  simpa only [h.same] using rest

theorem lasts_isJoining : Lasts IsJoining := by
  intro p q h ⟨ended, told⟩
  refine ⟨lasts_hasEnded h ended, ?_⟩
  simpa only [h.same] using told

theorem lasts_isHeld : Lasts IsHeld := fun _ _ h hp =>
  hp.imp (lasts_isKept h) (lasts_hasEnded h)

theorem lasts_isOver : Lasts IsOver := by
  intro p q h hp
  obtain stage | ⟨joining, finished⟩ := hp
  · have up : p.stage ≠ .up := by simp [stage]
    exact .inl ((h.stage up).trans stage)
  · exact .inr ⟨lasts_isJoining h joining, h.finished finished⟩

end Process

/-! ## One process in hand -/

/-- Every process is over but the one with the number, if there is one, of which `Q` holds. -/
structure Scene.Sole (s : Scene) (pid? : Option Nat) (Q : Process → Prop) : Prop where
  held : ∀ pid ∈ pid?, ∃ p, s.processes[pid]? = some p ∧ Q p
  past : ∀ pid p, s.processes[pid]? = some p → pid? ≠ some pid → p.IsOver

namespace Scene.Sole

variable {s s' : Scene} {pid : Nat} {pid? : Option Nat} {Q Q' : Process → Prop}

theorem of_processes (h : s.Sole pid? Q) (same : s'.processes = s.processes) : s'.Sole pid? Q := by
  constructor
  · rw [same]
    exact h.held
  · rw [same]
    exact h.past

theorem of_premises (h : s.Sole pid? Q) (same : s'.premises = s.premises) : s'.Sole pid? Q :=
  h.of_processes (congrArg Prod.fst same)

/-- What is known of the process in hand may be said differently. -/
theorem imp (h : s.Sole pid? Q)
    (imp : ∀ pid ∈ pid?, ∀ p, s.processes[pid]? = some p → Q p → Q' p) : s.Sole pid? Q' := by
  refine ⟨fun pid hp => ?_, h.past⟩
  obtain ⟨p, found, hq⟩ := h.held pid hp
  exact ⟨p, found, imp pid hp p found hq⟩

theorem mono (h : s.Sole pid? Q) (hQ : ∀ p, Q p → Q' p) : s.Sole pid? Q' :=
  h.imp fun _ _ p _ => hQ p

/-- The process in hand changes. -/
theorem onProcess (h : s.Sole (some pid) Q) {f : Process → Process}
    (hf : ∀ p, s.processes[pid]? = some p → Q p → Q' (f p)) :
    (s.onProcess pid f).Sole (some pid) Q' := by
  refine ⟨fun i hi => ?_, fun i p found hi => ?_⟩
  · obtain rfl : pid = i := Option.some.inj hi
    obtain ⟨p, found, hq⟩ := h.held pid rfl
    refine ⟨f p, ?_, hf p found hq⟩
    simp only [Scene.onProcess, List.getElem?_modify_eq, found, Option.map_eq_map, Option.map_some]
  · have ne : pid ≠ i := fun e => hi (congrArg some e)
    simp only [Scene.onProcess, List.getElem?_modify_ne _ _ ne] at found
    exact h.past i p found hi

/-- A process that is over is in hand no more. -/
theorem letGo (h : s.Sole pid? Q)
    (ended : ∀ pid ∈ pid?, ∀ p, s.processes[pid]? = some p → Q p → p.IsOver) : s.Sole none Q' := by
  refine ⟨nofun, fun i p found _ => ?_⟩
  by_cases hi : pid? = some i
  · obtain ⟨p', found', hq⟩ := h.held i hi
    obtain rfl := Option.some.inj (found'.symm.trans found)
    exact ended i hi p' found' hq
  · exact h.past i p found hi

theorem requestProcess (h : s.Sole none Q) (detail : UInt8) :
    (s.requestProcess detail).1.Sole (some s.processes.length) Process.IsAsked := by
  refine ⟨fun i hi => ?_, fun i p found hi => ?_⟩
  · obtain rfl : s.processes.length = i := Option.some.inj hi
    exact ⟨{}, List.getElem?_concat_length, rfl, rfl, rfl, rfl⟩
  · change (s.processes ++ [({} : Process)])[i]? = some p at found
    have ne : i ≠ s.processes.length := fun e => hi (congrArg some e.symm)
    have lt : i < (s.processes ++ [({} : Process)]).length := (List.getElem?_eq_some_iff.1 found).1
    have old : i < s.processes.length := by
      rw [List.length_append, List.length_singleton] at lt
      omega
    rw [List.getElem?_append_left old] at found
    exact h.past i p found nofun

theorem drift (h : s.Sole pid? Q) (lasts : Process.Lasts Q) {p q : Process}
    (found : s.processes[pid]? = some p) (drifts : p.Drift q) :
    (s.onProcess pid fun _ => q).Sole pid? Q := by
  have here : (s.onProcess pid fun _ => q).processes[pid]? = some q := by
    simp only [Scene.onProcess, List.getElem?_modify_eq, found, Option.map_eq_map, Option.map_some]
  have there : ∀ i, i ≠ pid → (s.onProcess pid fun _ => q).processes[i]? = s.processes[i]? :=
    fun i hi => List.getElem?_modify_ne _ _ hi.symm
  refine ⟨fun i hi => ?_, fun i p' found' hi => ?_⟩
  · obtain ⟨p', found', hq⟩ := h.held i hi
    by_cases e : i = pid
    · subst e
      obtain rfl := Option.some.inj (found'.symm.trans found)
      exact ⟨q, here, lasts drifts hq⟩
    · exact ⟨p', (there i e).trans found', hq⟩
  · by_cases e : i = pid
    · subst e
      obtain rfl := Option.some.inj (here.symm.trans found')
      exact Process.lasts_isOver drifts (h.past i p found hi)
    · exact h.past i p' ((there i e).symm.trans found') hi

/-! ### Sessions -/

variable {session : Session}

theorem cancelSession (h : s.Sole session.pid? Q) (hQ : ∀ p, Q p → Q' p.cancel) :
    (s.cancelSession session).Sole session.pid? Q' := by
  obtain ⟨_ | pid⟩ := session
  · exact ⟨nofun, h.past⟩
  · exact h.onProcess fun p _ => hQ p

theorem releaseSession (h : s.Sole session.pid? Q) :
    (s.releaseSession session).Sole session.pid? fun _ => True := by
  obtain ⟨_ | pid⟩ := session
  · exact ⟨nofun, h.past⟩
  · exact h.onProcess fun p _ _ => trivial

/-- The end of the process in hand is received. -/
theorem hear (h : s.Sole session.pid? Q) {note : ExitNote} (ended : s.sessionNote? session = some note)
    (hQ : ∀ p, Q p → p.note? = some note → Q' p.hear) : (s.hear session).Sole session.pid? Q' := by
  obtain ⟨_ | pid⟩ := session
  · cases ended
  · have ended : s.note? pid = some note := ended
    refine h.onProcess fun p found hq => hQ p hq ?_
    obtain ⟨p', found', hn⟩ := Option.bind_eq_some_iff.1 ended
    obtain rfl := Option.some.inj (found'.symm.trans found)
    exact hn

theorem of_quiet (h : s.Sole session.pid? fun p => p.IsStopping ∨ p.HasEnded)
    (quiet : s.quiet session = true) : s.Sole session.pid? Process.HasEnded := by
  obtain ⟨_ | pid⟩ := session
  · exact ⟨nofun, h.past⟩
  · refine h.imp fun i hi p found hp => ?_
    obtain rfl : pid = i := Option.some.inj hi
    have heard : p.heard = true := by simpa [Scene.quiet, Scene.heard, found] using quiet
    obtain hp | hp := hp
    · exact absurd heard (by simp [hp.2.2.1])
    · exact hp

theorem of_not_quiet (h : s.Sole session.pid? fun p => p.IsStopping ∨ p.HasEnded)
    (loud : s.quiet session = false) : s.Sole session.pid? Process.IsStopping := by
  obtain ⟨_ | pid⟩ := session
  · exact ⟨nofun, h.past⟩
  · refine h.imp fun i hi p found hp => ?_
    obtain rfl : pid = i := Option.some.inj hi
    have unheard : p.heard = false := by simpa [Scene.quiet, Scene.heard, found] using loud
    obtain hp | hp := hp
    · exact hp
    · exact absurd hp.2.2.1 (by simp [unheard])

end Scene.Sole

/-! ## What the watch has in hand -/

/-- What somebody has in hand. -/
inductive Hand where
  /-- The process with the number, if there is one, of which `Q` holds. -/
  | holding (pid? : Option Nat) (Q : Process → Prop)
  /-- Nothing, after a process was perhaps let go of. -/
  | released

/-- No process. -/
def Hand.empty : Hand := .holding none fun _ => False

def Session.hand (session : Session) : Hand := .holding session.pid? Process.IsHeld

def Teardown.hand : Teardown → Hand
  | .stopping pid => .holding (some pid) Process.IsStopping
  | .joining pid => .holding (some pid) Process.IsJoining

def Attempt.hand : Attempt → Hand
  | .refreshing _ => .empty
  | .starting pid _ => .holding (some pid) Process.IsAsked
  | .pointing pid | .probing pid _ => .holding (some pid) Process.IsKept
  | .clearing _ t => t.hand

def AfterRetreat.hand : AfterRetreat → Hand
  | .halt session _ => session.hand
  | .recover session _ => .holding session.pid? Process.HasEnded
  | _ => .empty

def Phase.hand : Phase → Hand
  | .retreating after => after.hand
  | .attempting a => a.hand
  | .pausing _ (.recover session) => .holding session.pid? Process.HasEnded
  | .serving session => session.hand
  | .halting session _ => .holding session.pid? Process.IsStopping
  | .clearing t _ => t.hand
  | .dropped => .released
  | _ => .empty

/-- What the watch has in hand where it stands. -/
def Stand.hand : Stand → Hand
  | .waiting p => p.hand
  | .retreating _ after | .resuming after => after.hand
  | .clearing session _ => session.hand
  | _ => .empty

/-- What holds of the process in hand holds whatever processes come to by themselves. -/
def Hand.Lasts : Hand → Prop
  | .holding _ Q => Process.Lasts Q
  | .released => True

theorem Hand.empty_lasts : Hand.empty.Lasts := fun _ _ _ => False.elim

theorem Teardown.hand_lasts (t : Teardown) : t.hand.Lasts := by
  cases t with
  | stopping _ => exact Process.lasts_isStopping
  | joining _ => exact Process.lasts_isJoining

theorem Attempt.hand_lasts (a : Attempt) : a.hand.Lasts := by
  cases a with
  | refreshing _ => exact Hand.empty_lasts
  | starting _ _ => exact Process.lasts_isAsked
  | pointing _ | probing _ _ => exact Process.lasts_isKept
  | clearing _ t => exact t.hand_lasts

theorem AfterRetreat.hand_lasts (after : AfterRetreat) : after.hand.Lasts := by
  cases after with
  | halt _ _ => exact Process.lasts_isHeld
  | recover _ _ => exact Process.lasts_hasEnded
  | _ => exact Hand.empty_lasts

theorem Phase.hand_lasts (p : Phase) : p.hand.Lasts := by
  cases p with
  | retreating after => exact after.hand_lasts
  | attempting a => exact a.hand_lasts
  | pausing _ after =>
    cases after with
    | attempt => exact Hand.empty_lasts
    | recover _ => exact Process.lasts_hasEnded
  | serving _ => exact Process.lasts_isHeld
  | halting _ _ => exact Process.lasts_isStopping
  | clearing t _ => exact t.hand_lasts
  | dropped => exact trivial
  | _ => exact Hand.empty_lasts

theorem Stand.hand_lasts (st : Stand) : st.hand.Lasts := by
  cases st with
  | waiting p => exact p.hand_lasts
  | retreating _ after | resuming after => exact after.hand_lasts
  | clearing _ _ => exact Process.lasts_isHeld
  | _ => exact Hand.empty_lasts

/-- All processes are over but what is in hand. -/
def Scene.Shows (s : Scene) : Hand → Prop
  | .holding pid? Q => s.Sole pid? Q
  | .released => ∃ pid?, s.Sole pid? fun _ => True

namespace Scene.Shows

variable {s s' : Scene} {h : Hand}

theorem of_processes (hs : s.Shows h) (same : s'.processes = s.processes) : s'.Shows h := by
  cases h with
  | holding pid? Q => exact Sole.of_processes hs same
  | released =>
    obtain ⟨pid?, hs⟩ := hs
    exact ⟨pid?, hs.of_processes same⟩

theorem of_premises (hs : s.Shows h) (same : s'.premises = s.premises) : s'.Shows h :=
  hs.of_processes (congrArg Prod.fst same)

/-- What holds of the process in hand holds whatever the processes come to by themselves. -/
theorem drift (hs : s.Shows h) (lasts : h.Lasts) {pid : Nat} {p q : Process}
    (found : s.processes[pid]? = some p) (drifts : p.Drift q) :
    (s.onProcess pid fun _ => q).Shows h := by
  cases h with
  | holding pid? Q => exact Sole.drift hs lasts found drifts
  | released =>
    obtain ⟨pid?, hs⟩ := hs
    exact ⟨pid?, hs.drift (fun _ _ _ _ => trivial) found drifts⟩

end Scene.Shows

namespace Teardown

theorem begin_shows {s s' : Scene} {session : Session} {t : Teardown}
    (h : Teardown.begin s session = (s', some t)) (hs : s.Sole session.pid? Process.IsHeld) :
    s'.Shows t.hand := by
  obtain ⟨_ | pid⟩ := session
  · cases h
  have cancelled : (s.onProcess pid .cancel).Sole (Session.of pid).pid?
      fun p => p.IsStopping ∨ p.HasEnded :=
    hs.onProcess fun p _ => Process.IsHeld.cancel
  simp only [Teardown.begin] at h
  split_ifs at h with heard <;> cases h
  · have ended : (s.onProcess pid .cancel).Sole (some pid) Process.HasEnded := cancelled.of_quiet heard
    exact ended.onProcess fun p _ hp => ⟨hp, rfl⟩
  · exact cancelled.of_not_quiet (eq_false_of_ne_true heard)

theorem resume_shows {t t' : Teardown} {s s' : Scene} (h : t.resume s = some (s', some t'))
    (hs : s.Shows t.hand) : s'.Shows t'.hand := by
  cases t with
  | stopping pid =>
    obtain ⟨note, hn, hv⟩ := Option.map_eq_some_iff.1 h
    cases hv
    have stopping : s.Sole (Session.of pid).pid? Process.IsStopping := hs
    have heard : (s.onProcess pid .hear).Sole (some pid) Process.HasEnded :=
      stopping.hear hn fun p hp => hp.hear
    exact heard.onProcess fun p _ hp => ⟨hp, rfl⟩
  | joining pid =>
    simp only [Teardown.resume] at h
    split_ifs at h
    cases h

theorem resume_empty {t : Teardown} {s s' : Scene} (h : t.resume s = some (s', none))
    (hs : s.Shows t.hand) : s'.Shows .empty := by
  cases t with
  | stopping pid =>
    obtain ⟨note, hn, hv⟩ := Option.map_eq_some_iff.1 h
    cases hv
  | joining pid =>
    simp only [Teardown.resume] at h
    split_ifs at h with collected
    cases h
    refine Scene.Sole.letGo hs fun i hi p found hp => ?_
    obtain rfl : pid = i := Option.some.inj hi
    have past : p.collector.isOver = true := by simpa [Scene.collected, found] using collected
    have finished : p.collector.finished = true := by
      simpa [Collector.isOver, hp.1.2.2.2] using past
    exact .inr ⟨hp, finished⟩

end Teardown

/-- The watch has in hand what its place says. -/
def Stance.Tends (x : Stance) : Prop := x.scene.Shows x.stand.hand

theorem Scene.Shows.begun {s : Scene} {pid : Nat} (hs : s.Sole (some pid) Process.IsAsked) :
    (s.onProcess pid fun p => { p with stage := .up }).Sole (some pid) Process.IsKept :=
  hs.onProcess fun _ _ hp => ⟨.inl rfl, hp.2⟩

theorem Scene.Shows.refused {s : Scene} {pid : Nat} {Q : Process → Prop}
    (hs : s.Sole (some pid) Process.IsAsked) :
    (s.onProcess pid fun p => { p with stage := .refused, cancelled := true }).Sole none Q := by
  have refused : (s.onProcess pid fun p => { p with stage := .refused, cancelled := true }).Sole
      (some pid) fun p => p.stage = .refused :=
    hs.onProcess fun _ _ _ => rfl
  exact refused.letGo fun _ _ _ _ => .inl

theorem Scene.Shows.cancelled {s : Scene} {session : Session}
    (hs : s.Sole session.pid? Process.IsHeld) :
    (s.cancelSession session).Sole session.pid? fun p => p.IsStopping ∨ p.HasEnded :=
  hs.cancelSession fun _ => Process.IsHeld.cancel

theorem Scene.Shows.lost {s : Scene} {session : Session} {note : ExitNote}
    (hs : s.Sole session.pid? Process.IsHeld) (ended : s.sessionNote? session = some note) :
    ((s.hear session).cancelSession session).Sole session.pid? Process.HasEnded := by
  have heard : (s.hear session).Sole session.pid? fun p => p.cancel.HasEnded :=
    Scene.Sole.hear hs ended fun p hp => hp.hear_cancel
  exact heard.cancelSession fun p hp => hp

/-- Every stride leaves in hand what the next place says. -/
theorem Stride.tends {x y : Stance} (h : Stride x y) (hx : x.Tends) : y.Tends := by
  have moved : y.stand.hand = x.stand.hand → y.scene.premises = x.scene.premises → y.Tends := by
    intro hand same
    unfold Stance.Tends
    rw [hand]
    exact Scene.Shows.of_premises hx same
  cases h with
  | begin | settle | venture | cancelIdle | cycle | unwanted | wake | cancelServing | endFinish =>
    exact hx
  | retreat | strand | retreated | pause | pauseLost | startIdle | stopIdle | giveUp
  | giveUpAttempt | attempt | pointed | startServing | stopServing | finish | finishRequest
  | endRestart => exact moved rfl (by simp)
  | @disable s =>
    have none : s.Sole none Process.IsHeld := Scene.Sole.mono hx fun _ => False.elim
    exact none.of_premises (by simp)
  | @halt s m t session loud =>
    exact (Scene.Shows.cancelled hx).of_not_quiet loud
  | @haltQuiet s m t session quiet =>
    have ended := (Scene.Shows.cancelled hx).of_quiet quiet
    exact (ended.mono fun _ => Or.inr).of_premises (by simp)
  | @halted s m t session note ended =>
    have heard : (s.hear session).Sole session.pid? Process.IsHeld :=
      Scene.Sole.hear hx ended fun p hp hn => .inr (hp.hear hn)
    exact heard.of_premises (by simp)
  | refresh goes => exact moved rfl (Refresh.resume_told goes).premises
  | refreshFailed goes =>
    exact moved rfl (by simpa using (Refresh.resume_told goes).premises)
  | @request s s' m r a goes =>
    have none : s'.Sole none _ := Scene.Sole.of_premises hx (Refresh.resume_told goes).premises
    exact none.requestProcess _
  | refused =>
    exact (Scene.Shows.refused hx).of_premises (by simp)
  | started =>
    exact (Scene.Shows.begun hx).of_premises (by simp)
  | @probeFailed s s' m pid deadline f td ends =>
    have held : ((s.setStatus .crashed).answerPending .crashed).Sole (some pid) Process.IsHeld :=
      (Scene.Sole.of_premises hx (by simp)).mono fun _ => Or.inl
    exact Teardown.begin_shows ends held
  | @ready s m pid =>
    have held : s.Sole (some pid) Process.IsHeld := Scene.Sole.mono hx fun _ => Or.inl
    exact held.of_premises (by simp)
  | clearAttempt ends => exact Teardown.resume_shows ends hx
  | clearedAttempt ends => exact Scene.Shows.of_premises (Teardown.resume_empty ends hx) (by simp)
  | wakeLost => exact Scene.Sole.mono hx fun _ => Or.inr
  | lostCancelled ended => exact (Scene.Shows.lost hx ended).mono fun _ => Or.inr
  | lost ended => exact (Scene.Shows.lost hx ended).of_premises (by simp)
  | clear ends => exact Teardown.begin_shows ends hx
  | @clearEmpty s m session after empty =>
    refine Scene.Sole.letGo hx fun pid hp => ?_
    rw [empty] at hp
    cases hp
  | clearing ends => exact Teardown.resume_shows ends hx
  | cleared ends => exact Teardown.resume_empty ends hx

theorem Nudge.tends {x y : Stance} (h : Nudge x y) (hx : x.Tends) : y.Tends := by
  cases h with
  | told told => exact Scene.Shows.of_premises hx told.premises
  | drift found drifts => exact Scene.Shows.drift hx (Stand.hand_lasts _) found drifts
  | cancel | pass | replace | openReply => exact Scene.Shows.of_processes hx rfl
  | refreshFailed | restarted | forsake | post => exact Scene.Shows.of_premises hx (by simp)

theorem Teardown.release_shows {t : Teardown} {s : Scene} (hs : s.Shows t.hand) :
    (t.release s).Shows .released := by
  cases t with
  | stopping pid =>
    have held : s.Sole (Session.of pid).pid? Process.IsStopping := hs
    exact ⟨_, held.releaseSession⟩
  | joining pid => exact ⟨_, Scene.Sole.mono hs fun _ _ => trivial⟩

/-- Wherever the watch is dropped, at most the process in hand is let go of. -/
theorem Watch.release_shows {s : Scene} {p : Phase} (hs : s.Shows p.hand) :
    (release s p).Shows .released := by
  have none : s.Shows .empty → s.Shows .released := fun h => ⟨_, Scene.Sole.mono h fun _ _ => trivial⟩
  cases p with
  | retreating after =>
    cases after with
    | halt session t =>
      have released : (s.releaseSession session).Shows .released := ⟨_, Scene.Sole.releaseSession hs⟩
      exact released.of_premises (Scene.premises_forsake _ _)
    | recover session f => exact ⟨_, Scene.Sole.releaseSession hs⟩
    | _ => exact none hs
  | attempting a =>
    cases a with
    | refreshing r => exact none hs
    | starting pid keep => exact ⟨_, Scene.Sole.mono hs fun _ _ => trivial⟩
    | pointing pid | probing pid _ =>
      have held : s.Sole (Session.of pid).pid? Process.IsKept := hs
      exact ⟨_, held.releaseSession⟩
    | clearing f t => exact Teardown.release_shows hs
  | pausing deadline after =>
    cases after with
    | attempt => exact none hs
    | recover session => exact ⟨_, Scene.Sole.releaseSession hs⟩
  | serving session => exact ⟨_, Scene.Sole.releaseSession hs⟩
  | halting session t =>
    have released : (s.releaseSession session).Shows .released := ⟨_, Scene.Sole.releaseSession hs⟩
    exact released.of_premises (Scene.premises_forsake _ _)
  | clearing t after =>
    have released := Teardown.release_shows hs
    rcases after with _ | _ | reply
    · exact released
    · exact released
    · exact released.of_premises (Scene.premises_forsake _ _)
  | dropped => exact hs
  | _ => exact none hs

theorem Watch.drop_tends (w : Watch) (h : w.stance.Tends) : w.drop.stance.Tends :=
  (release_shows h).of_premises w.premises_drop

theorem Shift.tends (x y : Stance) (h : Shift x y) (hx : x.Tends) : y.Tends := by
  cases h with
  | stride h => exact h.tends hx
  | nudge h => exact h.tends hx
  | drop _ _ => exact Watch.drop_tends _ hx

/-! ## Processes that are kept -/

namespace Scene

/-- The process of a session was neither told to stop nor was its end received. -/
def Keeps (s : Scene) (session : Session) : Prop :=
  ∃ pid p, session.pid? = some pid ∧ s.processes[pid]? = some p ∧ p.cancelled = false ∧ p.heard = false

instance (s : Scene) (session : Session) : Decidable (s.Keeps session) :=
  decidable_of_iff
    ((session.pid?.bind fun pid => s.processes[pid]?).any fun p => !p.cancelled && !p.heard) (by
      simp only [Option.any_eq_true, Option.bind_eq_some_iff, Bool.and_eq_true, Bool.not_eq_true']
      constructor
      · rintro ⟨p, ⟨pid, held, found⟩, kept⟩
        exact ⟨pid, p, held, found, kept⟩
      · rintro ⟨pid, p, held, found, kept⟩
        exact ⟨p, ⟨pid, held, found⟩, kept⟩)

variable {s s' : Scene} {session : Session}

theorem not_keeps_empty (s : Scene) : ¬ s.Keeps .empty := by
  rintro ⟨pid, p, held, -⟩
  cases held

/-- The process of a session is not kept once a change has told it to stop, or received its end. -/
theorem not_keeps_of_onProcess {pid : Nat} {f : Process → Process}
    (hf : ∀ p, (f p).cancelled = true ∨ (f p).heard = true) :
    ¬ (s.onProcess pid f).Keeps (.of pid) := by
  rintro ⟨i, q, held, found, kept, unheard⟩
  obtain rfl : pid = i := Option.some.inj held
  simp only [onProcess, List.getElem?_modify_eq] at found
  obtain ⟨p, -, rfl⟩ := Option.map_eq_some_iff.1 found
  obtain h | h := hf p
  · rw [h] at kept
    cases kept
  · rw [h] at unheard
    cases unheard

theorem not_keeps_cancelSession : ¬ (s.cancelSession session).Keeps session := by
  obtain ⟨_ | pid⟩ := session
  · exact not_keeps_empty _
  · exact not_keeps_of_onProcess fun _ => .inl rfl

theorem not_keeps_hear : ¬ (s.hear session).Keeps session := by
  obtain ⟨_ | pid⟩ := session
  · exact not_keeps_empty _
  · exact not_keeps_of_onProcess fun _ => .inr rfl

theorem Sole.keeps {pid : Nat} (h : s.Sole (some pid) Process.IsKept) : s.Keeps (.of pid) := by
  obtain ⟨p, found, kept⟩ := h.held pid rfl
  exact ⟨pid, p, rfl, found, kept.2.1, kept.2.2.1⟩

theorem Keeps.of_processes (h : s.Keeps session) (same : s'.processes = s.processes) :
    s'.Keeps session := by
  obtain ⟨pid, p, held, found, kept⟩ := h
  exact ⟨pid, p, held, same ▸ found, kept⟩

theorem Keeps.of_premises (h : s.Keeps session) (same : s'.premises = s.premises) :
    s'.Keeps session :=
  h.of_processes (congrArg Prod.fst same)

theorem keeps_congr (same : s'.premises = s.premises) (session : Session) :
    s'.Keeps session ↔ s.Keeps session :=
  ⟨fun kept => kept.of_premises same.symm, fun kept => kept.of_premises same⟩

/-- A session whose process is not kept stays so where a stop request is answered. -/
theorem not_keeps_answered (left : ¬ s.Keeps session) (t : Ticket) :
    ¬ ((s.setStatus .stopped).answer t .stopped).Keeps session :=
  fun kept => left (kept.of_premises (by simp))

theorem keeps_drift {pid : Nat} {p q : Process} (found : s.processes[pid]? = some p)
    (drifts : p.Drift q) (session : Session) :
    (s.onProcess pid fun _ => q).Keeps session ↔ s.Keeps session := by
  have here : (s.onProcess pid fun _ => q).processes[pid]? = some q := by
    simp only [onProcess, List.getElem?_modify_eq, found, Option.map_eq_map, Option.map_some]
  have there : ∀ i, i ≠ pid → (s.onProcess pid fun _ => q).processes[i]? = s.processes[i]? :=
    fun i hi => List.getElem?_modify_ne _ _ hi.symm
  obtain ⟨cancelled, heard, -⟩ := drifts.same
  constructor
  · rintro ⟨i, p', held, found', kept, unheard⟩
    by_cases hi : i = pid
    · subst hi
      obtain rfl := Option.some.inj (here.symm.trans found')
      exact ⟨i, p, held, found, cancelled ▸ kept, heard ▸ unheard⟩
    · exact ⟨i, p', held, (there i hi).symm.trans found', kept, unheard⟩
  · rintro ⟨i, p', held, found', kept, unheard⟩
    by_cases hi : i = pid
    · subst hi
      obtain rfl := Option.some.inj (found.symm.trans found')
      exact ⟨i, q, held, here, cancelled.trans kept, heard.trans unheard⟩
    · exact ⟨i, p', held, (there i hi).trans found', kept, unheard⟩

/-- A process whose end is waited for after it was told to stop was kept before. -/
theorem Sole.keeps_of_loud {s : Scene} {session : Session}
    (h : s.Sole session.pid? Process.IsHeld)
    (loud : (s.cancelSession session).quiet session = false) : s.Keeps session := by
  obtain ⟨_ | pid⟩ := session
  · cases loud
  obtain ⟨p, found, hp⟩ := h.held pid rfl
  have unheard : p.heard = false := by
    simpa [Scene.quiet, Scene.cancelSession, Scene.heard, Scene.onProcess, found,
      Process.cancel] using loud
  obtain kept | ended := hp
  · exact ⟨pid, p, rfl, found, kept.2.1, kept.2.2.1⟩
  · rw [ended.2.2.1] at unheard
    cases unheard

end Scene

/-! ## Starts -/

theorem Walk.calm {x y : Stance} (h : Walk x y) : x.scene.Calm y.scene := by
  induction h with
  | wait => exact .refl _
  | @go x y z onWay first _ ih =>
    obtain even | ⟨⟨r, waits⟩, -⟩ := first.even
    · exact even.toCalm.trans ih
    · rw [waits] at onWay
      cases onWay

theorem Nudge.calm {x y : Stance} (h : Nudge x y) : x.scene.Calm y.scene := by
  cases h with
  | told told => exact (Scene.Even.of_told told).toCalm
  | drift _ _ => exact (Scene.Even.of_handled (Scene.onProcess_handled _ _ _)).toCalm
  | cancel | pass | replace | openReply => exact ⟨rfl, rfl⟩
  | refreshFailed | restarted | forsake => exact (Scene.Even.of_same (by simp) (by simp)).toCalm
  | @post p s r isOpen => cases r <;> exact ⟨rfl, rfl⟩

/-- Every move asks for no process, but that from the end of a refresh asks for one. -/
theorem Passage.calm {x y : Stance} (h : Passage x y) :
    x.scene.Calm y.scene ∨
      (∃ r, x.stand = .waiting (.attempting (.refreshing r))) ∧
        y.scene.processes.length = x.scene.processes.length + 1 ∧
        y.scene.marks.starts = x.scene.marks.starts + 1 := by
  cases h with
  | @tread x y h =>
    obtain ⟨⟨st, s, m⟩, first, rest⟩ := h
    have rest := rest.calm
    obtain even | ⟨refreshing, s', detail, even, rfl⟩ := first.even
    · exact .inl (even.toCalm.trans rest)
    · refine .inr ⟨refreshing, ?_, ?_⟩
      · rw [rest.processes, ← even.processes]
        exact List.length_append
      · rw [rest.starts, ← even.starts]
        exact congrArg Marks.starts (Scene.marks_requestProcess _ _)
  | nudges h =>
    left
    induction h with
    | refl => exact .refl _
    | tail _ last ih => exact ih.trans last.calm
  | @drop w _ _ => exact .inl w.drop_even.toCalm

/-! ## Runs -/

theorem countP_le_one {α : Type} {f : α → Bool} {l : List α} {k : Nat}
    (h : ∀ i a, l[i]? = some a → i ≠ k → f a = false) : l.countP f ≤ 1 := by
  induction l generalizing k with
  | nil => exact Nat.zero_le 1
  | cons a l ih =>
    cases k with
    | zero =>
      have rest : l.countP f = 0 := by
        rw [List.countP_eq_zero]
        intro b hb
        obtain ⟨i, found⟩ := List.getElem?_of_mem hb
        simp [h (i + 1) b found (Nat.succ_ne_zero i)]
      rw [List.countP_cons, rest]
      split <;> omega
    | succ k =>
      have first : f a = false := h 0 a rfl (Nat.succ_ne_zero k).symm
      rw [List.countP_cons_of_neg (by simp [first])]
      exact ih fun i b found hi => h (i + 1) b found fun e => hi (Nat.succ.inj e)

theorem Scene.Sole.live_le_one {s : Scene} {pid? : Option Nat} {Q : Process → Prop}
    (h : s.Sole pid? Q) : s.live ≤ 1 := by
  have past : ∀ pid p, s.processes[pid]? = some p → pid ≠ pid?.getD 0 → p.isUp = false := by
    intro pid p found ne
    refine (h.past pid p found fun e => ne ?_).isUp
    rw [e, Option.getD_some]
  exact countP_le_one past

theorem Scene.Shows.live_le_one {s : Scene} {h : Hand} (hs : s.Shows h) : s.live ≤ 1 := by
  cases h with
  | holding pid? Q => exact Sole.live_le_one hs
  | released =>
    obtain ⟨pid?, hs⟩ := hs
    exact hs.live_le_one

namespace World

variable {policy : Policy} {settings : Settings} {draws : Nat → Nat} {ms : List Move} {w : World}

theorem run_tends (h : (World.initial policy settings draws).run ms = some w) : w.stance.Tends := by
  have none : (Scene.initial policy settings draws).Sole none fun _ => False := by
    constructor
    · intro pid hp
      cases hp
    · intro pid p found
      cases found
  exact run_keep Shift.tends h none

theorem Sound.run_starts {u : World} (sound : u.Sound) (h : u.run ms = some w)
    (hu : u.scene.processes.length = u.scene.marks.starts) :
    w.scene.processes.length = w.scene.marks.starts := by
  induction ms generalizing u with
  | nil =>
    cases h
    exact hu
  | cons m ms ih =>
    obtain ⟨v, hv, hw⟩ := Option.bind_eq_some_iff.1 h
    refine ih (sound.step hv) hw ?_
    obtain ⟨processes, starts⟩ | ⟨-, processes, starts⟩ := (sound.passage hv).calm
    · exact processes.trans (hu.trans starts.symm)
    · exact processes.trans ((congrArg (· + 1) hu).trans starts.symm)

/--
Whenever the engine is asked for a process, every process that it started before was told to stop,
its end was received, and its collector was told to close and has finished.  So at most one process
runs at any time.
-/
theorem processes_over_at_start (h : (World.initial policy settings draws).run ms = some w) :
    w.scene.processes.length = w.scene.journal.count Event.isStart ∧
    (∀ m v, w.step m = some v →
      w.scene.journal.count Event.isStart < v.scene.journal.count Event.isStart →
      ∀ p ∈ w.scene.processes, p.stage = .refused ∨
        p.isUp = false ∧ p.cancelled = true ∧ p.heard = true ∧
          p.collector.told = true ∧ p.collector.finished = true) ∧
    w.scene.live ≤ 1 := by
  have tends := run_tends h
  refine ⟨(initial_sound _ _ _).run_starts h rfl, fun m v hv started p hp => ?_,
    Scene.Shows.live_le_one tends⟩
  obtain calm | ⟨⟨r, refreshing⟩, -⟩ := ((run_sound h).passage hv).calm
  · exact absurd calm.starts.symm (Nat.ne_of_lt started)
  · have none : w.scene.Sole none fun _ => False := by
      have shown : w.stance.scene.Shows w.stance.stand.hand := tends
      rwa [refreshing] at shown
    obtain ⟨pid, found⟩ := List.getElem?_of_mem hp
    obtain refused | ⟨⟨ended, told⟩, finished⟩ := none.past pid p found nofun
    · exact .inl refused
    · exact .inr ⟨ended.isUp, ended.2.1, ended.2.2.1, told, finished⟩

/-- A warden before anything has happened, whose settings want a resolver. -/
def wanted : World := .initial {} { enabled := true, plaintextAddress := some .loopback } fun _ => 0

/-- The moves of a first start request, from the beginning to a resolver that is up. -/
def firstSession : List Move :=
  [.run, .watch (.answer (.systemPointed none)),
    .arrive (.setStatus .running), .caller 0, .caller 0, .caller 0, .caller 0, .watch .request,
    .watch (.answer (.systemPointed none)), .watch (.answer (.filesSetUp none)),
    .watch (.answer (.listsBuilt {})), .watch (.answer (.configWritten none)),
    .watch (.answer (.started none)), .watch (.answer (.systemPointed none)),
    .watch (.answer (.probed none))]

/-- The moves from the end of the first resolver to the files of a second one. -/
def recovery : List Move :=
  [.exit 0 .clean, .watch .ended, .watch (.answer (.systemPointed none)),
    .pass 10000000000, .watch .elapsed, .hangUp 0 .out, .hangUp 0 .err, .collect 0 (.read .out),
    .collect 0 (.read .err), .watch .ended, .watch (.answer (.systemPointed none)),
    .watch (.answer (.filesSetUp none)), .watch (.answer (.listsBuilt {}))]

theorem processes_over_at_second_start :
    ∃ w v, wanted.run (firstSession ++ recovery) = some w ∧
      w.step (.watch (.answer (.configWritten none))) = some v ∧
      w.scene.journal.count Event.isStart = 1 ∧ v.scene.journal.count Event.isStart = 2 ∧
      (∀ p ∈ w.scene.processes, p.stage = .refused ∨
        p.isUp = false ∧ p.cancelled = true ∧ p.heard = true ∧
          p.collector.told = true ∧ p.collector.finished = true) ∧
      w.scene.live ≤ 1 := by
  have ran : ((wanted.run (firstSession ++ recovery)).any fun w =>
      (w.step (.watch (.answer (.configWritten none)))).any fun v =>
        decide (w.scene.journal.count Event.isStart = 1 ∧
          v.scene.journal.count Event.isStart = 2)) = true := by
    decide
  obtain ⟨w, hw, ran⟩ := (Option.any_eq_true _ _).1 ran
  obtain ⟨v, hv, counts⟩ := (Option.any_eq_true _ _).1 ran
  obtain ⟨one, two⟩ := of_decide_eq_true counts
  obtain ⟨-, past, live⟩ := processes_over_at_start hw
  exact ⟨w, v, hw, hv, one, two, past _ v hv (by omega), live⟩

end World

end DnsWarden
