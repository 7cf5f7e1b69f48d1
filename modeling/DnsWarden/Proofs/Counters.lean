import DnsWarden.Proofs.Cancellation
import DnsWarden.Proofs.Streaks

/-!
# The counters

An attempt is counted where it begins, a resolver where it is up, a retreat where it begins and the end
of a resolver where the watch receives it, so that in between the counters disagree by what is still due:
an attempt that has not ended, a process that was not asked for, a retreat or a pause that has not begun.
`Reckoning.Adds` says how they agree once that is added, and every stride keeps it.  The main statement is
`World.counters_add_up`: where the watch is parked or has returned, nothing is due.
-/

namespace DnsWarden

/-! ## Failures by their kind -/

namespace SessionFault

def isRefresh : SessionFault → Bool
  | .refresh _ => true
  | _ => false

def isStart : SessionFault → Bool
  | .start _ => true
  | _ => false

def isProbe : SessionFault → Bool
  | .probe _ => true
  | _ => false

end SessionFault

/-- Whether an attempt ended there in a failure of some kind. -/
def Milestone.isFailure (kind : SessionFault → Bool) : Milestone → Bool
  | .ended (some f) => kind f
  | _ => false

/-- How many attempts ended in a failure of some kind. -/
def Journal.failures (kind : SessionFault → Bool) (j : Journal) : Nat :=
  j.milestones.countP (Milestone.isFailure kind)

/-! ## The reckoning of a scene -/

/-- The counters of attempts and what the journal says of them. -/
structure Reckoning where
  attempts : Nat
  sessions : Nat
  fallbacks : Nat
  exits : Nat
  milestones : List Milestone
  /-- How many processes the engine was asked for. -/
  starts : Nat

namespace Reckoning

def failures (kind : SessionFault → Bool) (r : Reckoning) : Nat :=
  r.milestones.countP (Milestone.isFailure kind)

def pauses (r : Reckoning) : Nat := r.milestones.countP Milestone.isPause

/-- The reckoning after one more milestone. -/
def mark (r : Reckoning) (m : Milestone) : Reckoning := { r with milestones := m :: r.milestones }

end Reckoning

namespace Scene

def reckoning (s : Scene) : Reckoning where
  attempts := s.tallies.attempts
  sessions := s.tallies.sessions
  fallbacks := s.tallies.fallbacks
  exits := s.tallies.unexpectedExits
  milestones := s.journal.milestones
  starts := s.marks.starts

section

variable (s : Scene)

@[simp] theorem reckoning_sent (r : Request) : (s.record (.sent r)).reckoning = s.reckoning := by
  cases r <;> rfl

@[simp] theorem reckoning_received (r : Request) :
    (s.record (.received r)).reckoning = s.reckoning := rfl

@[simp] theorem reckoning_attemptEnded (f : Option SessionFault) :
    (s.record (.attemptEnded f)).reckoning = s.reckoning.mark (.ended f) := rfl

@[simp] theorem reckoning_tell (n : Notice) : (s.tell n).reckoning = s.reckoning := rfl

@[simp] theorem reckoning_ready : s.ready.reckoning = s.reckoning := rfl

@[simp] theorem reckoning_probe : (s.call .probe).reckoning = s.reckoning := rfl

@[simp] theorem reckoning_session :
    (s.tally fun t => { t with sessions := t.sessions + 1 }).reckoning =
      { s.reckoning with sessions := s.reckoning.sessions + 1 } := rfl

@[simp] theorem reckoning_unexpectedExit :
    (s.tally fun t => { t with unexpectedExits := t.unexpectedExits + 1 }).reckoning =
      { s.reckoning with exits := s.reckoning.exits + 1 } := rfl

@[simp] theorem reckoning_tallyRetreat (failed : Bool) :
    (s.tallyRetreat failed).reckoning =
      { s.reckoning with fallbacks := s.reckoning.fallbacks + failed.toNat } := by
  cases failed <;> rfl

@[simp] theorem reckoning_setStatus (x : Status) : (s.setStatus x).reckoning = s.reckoning := by
  unfold setStatus
  split <;> rfl

@[simp] theorem reckoning_answer (t : Ticket) (x : Status) :
    (s.answer t x).reckoning = s.reckoning := rfl

@[simp] theorem reckoning_forsake (t : Ticket) : (s.forsake t).reckoning = s.reckoning := by
  unfold forsake
  split <;> rfl

@[simp] theorem reckoning_answerPending (x : Status) :
    (s.answerPending x).reckoning = s.reckoning := by
  unfold answerPending
  split <;> rfl

@[simp] theorem reckoning_hold (t : Option Ticket) : (s.hold t).reckoning = s.reckoning := by
  unfold hold
  split
  · rfl
  · exact s.reckoning_forsake _

@[simp] theorem reckoning_pointAt (ip : IpAddress) (route : Route) (keep : Bool) :
    (s.pointAt ip route keep).reckoning = s.reckoning := rfl

@[simp] theorem reckoning_systemPointed (failure : Option NameserverFault) :
    (s.systemPointed failure).reckoning = s.reckoning := by
  cases failure <;> rfl

theorem reckoning_requestProcess (detail : UInt8) : (s.requestProcess detail).1.reckoning =
    { s.reckoning with starts := s.reckoning.starts + 1 } := by
  have counted : (s.requestProcess detail).1.marks.starts = s.marks.starts + 1 :=
    congrArg Marks.starts (s.marks_requestProcess detail)
  exact congrArg (fun n => { s.reckoning with starts := n }) counted

end

theorem Told.reckoning {s s' : Scene} (h : s.Told s') : s'.reckoning = s.reckoning := by
  have marks := h.marks
  have cadence := h.cadence
  obtain ⟨new, -, rfl⟩ := h
  exact congrArg₂ (fun c m =>
    { s.reckoning with milestones := Cadence.milestones c, starts := Marks.starts m }) cadence marks

theorem Handled.reckoning {s s' : Scene} (h : s.Handled s') : s'.reckoning = s.reckoning := by
  obtain ⟨ps, -, rfl⟩ := h
  rfl

end Scene

/-! ## What is due -/

/-- What the counters have still to be told of. -/
structure Dues where
  /-- Attempts that have not ended. -/
  attempts : Nat := 0
  /-- Processes that an attempt has still to ask for. -/
  starts : Nat := 0
  /-- Retreats because of a failure that have not begun. -/
  fallbacks : Nat := 0
  /-- Pauses that have not begun. -/
  pauses : Nat := 0
  /-- Resolvers that may still end by themselves. -/
  sessions : Nat := 0

def Session.dues (session : Session) : Dues := { sessions := session.pid?.isSome.toNat }

def AfterRetreat.dues : AfterRetreat → Dues
  | .pause _ | .recover _ _ => { pauses := 1 }
  | .halt session _ => session.dues
  | _ => {}

def Phase.dues : Phase → Dues
  | .retreating after => after.dues
  | .attempting (.refreshing _) => { attempts := 1, starts := 1 }
  | .attempting _ => { attempts := 1 }
  | .serving session | .halting session _ => session.dues
  | _ => {}

def Stand.dues : Stand → Dues
  | .waiting p => p.dues
  | .retreating failed after => { after.dues with fallbacks := failed.toNat }
  | .resuming after => after.dues
  | _ => {}

/-! ## How the counters agree -/

/-- The counters agree once what is due is added. -/
structure Reckoning.Adds (d : Dues) (r : Reckoning) : Prop where
  begun : r.attempts = r.milestones.count .began
  attempts : r.attempts = r.sessions + r.failures SessionFault.isRefresh +
    r.failures SessionFault.isStart + r.failures SessionFault.isProbe + d.attempts
  starts : r.starts + r.failures SessionFault.isRefresh + d.starts = r.attempts
  fallbacks : r.fallbacks + d.fallbacks =
    r.failures SessionFault.isStart + r.failures SessionFault.isProbe + r.exits
  pauses : r.pauses + d.pauses = r.failures SessionFault.isRefresh +
    r.failures SessionFault.isStart + r.failures SessionFault.isProbe + r.exits
  exits : r.exits + d.sessions ≤ r.sessions

namespace Reckoning

variable {d : Dues} {r : Reckoning}

theorem failures_mark (r : Reckoning) (kind : SessionFault → Bool) (m : Milestone) :
    (r.mark m).failures kind = r.failures kind + (m.isFailure kind).toNat := by
  unfold failures mark
  rw [List.countP_cons]
  cases m.isFailure kind <;> rfl

theorem pauses_mark (r : Reckoning) (m : Milestone) :
    (r.mark m).pauses = r.pauses + m.isPause.toNat := by
  unfold pauses mark
  rw [List.countP_cons]
  cases m.isPause <;> rfl

namespace Adds

/-- What happens to a session that is let go is not due any more. -/
theorem letGo (h : r.Adds d) : r.Adds { d with sessions := 0 } :=
  ⟨h.begun, h.attempts, h.starts, h.fallbacks, h.pauses, Nat.le_trans (Nat.le_add_right _ _) h.exits⟩

theorem retreat {failed : Bool} (h : r.Adds { d with fallbacks := failed.toNat })
    (none : d.fallbacks = 0) : Reckoning.Adds d { r with fallbacks := r.fallbacks + failed.toNat } := by
  refine ⟨h.begun, h.attempts, h.starts, ?_, h.pauses, h.exits⟩
  rw [none]
  exact h.fallbacks

theorem began (h : r.Adds {}) :
    Reckoning.Adds { attempts := 1, starts := 1 }
      { r.mark .began with attempts := r.attempts + 1 } := by
  obtain ⟨begun, attempts, starts, fallbacks, pauses, exits⟩ := h
  refine ⟨?_, congrArg (· + 1) attempts, congrArg (· + 1) starts, fallbacks, pauses, exits⟩
  rw [begun]
  exact List.count_cons_self.symm

theorem requested (h : r.Adds { attempts := 1, starts := 1 }) :
    Reckoning.Adds { attempts := 1 } { r with starts := r.starts + 1 } := by
  obtain ⟨begun, attempts, starts, fallbacks, pauses, exits⟩ := h
  refine ⟨begun, attempts, ?_, fallbacks, pauses, exits⟩
  show r.starts + 1 + r.failures _ + 0 = r.attempts
  have starts : r.starts + r.failures _ + 1 = r.attempts := starts
  omega

/-- An attempt ends in a failure, which calls for a retreat unless the files could not be refreshed. -/
theorem failed {f : SessionFault} (kind : f.isRefresh || f.isStart || f.isProbe)
    (h : r.Adds { attempts := 1, starts := f.isRefresh.toNat }) :
    (r.mark (.ended (some f))).Adds { fallbacks := f.callsForPlaintext.toNat, pauses := 1 } := by
  obtain ⟨begun, attempts, starts, fallbacks, pauses, exits⟩ := h
  dsimp only at attempts starts fallbacks pauses exits
  have same : (r.mark (.ended (some f))).pauses = r.pauses := r.pauses_mark _
  refine ⟨begun.trans (List.count_cons_of_ne (by simp)).symm, ?_, ?_, ?_, ?_, exits⟩ <;>
    simp only [same, failures_mark, Milestone.isFailure] <;>
    cases f <;> simp [SessionFault.isRefresh, SessionFault.isStart, SessionFault.isProbe,
      SessionFault.callsForPlaintext, mark] at kind starts fallbacks ⊢ <;> omega

/-- An attempt ends with a resolver that is up. -/
theorem ready (h : r.Adds { attempts := 1 }) :
    Reckoning.Adds { sessions := 1 } ({ r with sessions := r.sessions + 1 }.mark (.ended none)) := by
  obtain ⟨begun, attempts, starts, fallbacks, pauses, exits⟩ := h
  refine ⟨begun.trans (List.count_cons_of_ne (by simp)).symm, ?_, starts, fallbacks, pauses,
    Nat.succ_le_succ exits⟩
  show r.attempts = r.sessions + 1 + r.failures _ + r.failures _ + r.failures _ + 0
  have attempts : r.attempts = r.sessions + r.failures _ + r.failures _ + r.failures _ + 1 := attempts
  omega

theorem paused (h : r.Adds { pauses := 1 }) (now : Nat) (delay : Duration) :
    (r.mark (.paused now delay)).Adds {} :=
  ⟨h.begun.trans (List.count_cons_of_ne (by simp)).symm, h.attempts, h.starts, h.fallbacks,
    (r.pauses_mark (.paused now delay)).trans h.pauses, h.exits⟩

/-- A resolver ends by itself. -/
theorem lost (h : r.Adds { sessions := 1 }) :
    Reckoning.Adds { fallbacks := 1, pauses := 1 } { r with exits := r.exits + 1 } :=
  ⟨h.begun, h.attempts, h.starts, congrArg (· + 1) h.fallbacks, congrArg (· + 1) h.pauses, h.exits⟩

end Adds

end Reckoning

/-! ## Strides -/

/-- The counters agree where the watch stands, unless it was dropped in the middle. -/
def Stance.Adds (x : Stance) : Prop :=
  x.stand ≠ .waiting .dropped → x.scene.reckoning.Adds x.stand.dues

section

variable {x y : Stance}

theorem Reckoning.Adds.of_same (h : x.scene.reckoning.Adds x.stand.dues)
    (scene : y.scene.reckoning = x.scene.reckoning) (stand : y.stand.dues = x.stand.dues) :
    y.scene.reckoning.Adds y.stand.dues := by
  rw [scene, stand]
  exact h

theorem AfterRetreat.dues_fallbacks (after : AfterRetreat) : after.dues.fallbacks = 0 := by
  cases after <;> rfl

theorem Stride.adds (h : Stride x y) (hx : x.scene.reckoning.Adds x.stand.dues) :
    y.scene.reckoning.Adds y.stand.dues := by
  cases h with
  | @retreat s m failed after ip target =>
    simp only [Scene.reckoning_pointAt, Scene.reckoning_tell, Scene.reckoning_tallyRetreat]
    exact Reckoning.Adds.retreat hx after.dues_fallbacks
  | @strand s m failed after target =>
    simp only [Scene.reckoning_tell, Scene.reckoning_tallyRetreat]
    exact Reckoning.Adds.retreat hx after.dues_fallbacks
  | pause | pauseLost => exact hx.paused _ _
  | attempt => exact hx.began
  | @refreshFailed s s' m r a f goes =>
    have told := (Refresh.resume_told goes).reckoning
    rw [Scene.reckoning_attemptEnded, Scene.reckoning_setStatus, told]
    exact Reckoning.Adds.failed (f := .refresh f) rfl hx
  | @request s s' m r a goes =>
    rw [Scene.reckoning_requestProcess, (Refresh.resume_told goes).reckoning]
    exact hx.requested
  | @refused s m pid keep f =>
    have handled := s.onProcess_handled pid fun p => { p with stage := .refused, cancelled := true }
    rw [Scene.reckoning_attemptEnded, Scene.reckoning_answerPending, Scene.reckoning_setStatus,
      handled.reckoning]
    exact Reckoning.Adds.failed (f := .start f) rfl hx
  | @clearedAttempt s s' m f td ends =>
    rw [Scene.reckoning_attemptEnded, (Teardown.resume_handled ends).reckoning]
    exact Reckoning.Adds.failed (f := .probe f) rfl hx
  | @ready s m pid deadline =>
    simp only [Scene.reckoning_attemptEnded, Scene.reckoning_session, Scene.reckoning_answerPending,
      Scene.reckoning_setStatus, Scene.reckoning_ready]
    exact hx.ready
  | cancelServing | startServing => exact hx.letGo
  | @lostCancelled s m session note ended cancelled =>
    have handled := (s.hear_handled session).trans (Scene.cancelSession_handled _ session)
    rw [handled.reckoning]
    exact hx.letGo
  | @lost s m session note ended cancelled =>
    have handled := (s.hear_handled session).trans (Scene.cancelSession_handled _ session)
    rw [Scene.reckoning_setStatus, Scene.reckoning_unexpectedExit, handled.reckoning]
    -- Only a session with a process receives the notice of an end.
    obtain ⟨pid, held, -⟩ := Option.bind_eq_some_iff.1 ended
    obtain rfl : session = ⟨some pid⟩ := by cases session; cases held; rfl
    exact Reckoning.Adds.lost hx
  | refresh goes => exact hx.of_same (Refresh.resume_told goes).reckoning rfl
  | @halt s m t session => exact hx.of_same (s.cancelSession_handled session).reckoning rfl
  | @haltQuiet s m t session =>
    exact hx.of_same (by simp [(s.cancelSession_handled session).reckoning]) rfl
  | @halted s m t session => exact hx.of_same (by simp [(s.hear_handled session).reckoning]) rfl
  | @started s m pid keep =>
    have handled := s.onProcess_handled pid fun p => { p with stage := .up }
    exact hx.of_same (by simp [handled.reckoning]) rfl
  | probeFailed ends => exact hx.of_same (by simp [(Teardown.begin_handled ends).reckoning]) rfl
  | clear ends => exact hx.of_same (Teardown.begin_handled ends).reckoning rfl
  | clearAttempt ends | clearing ends | cleared ends =>
    exact hx.of_same (Teardown.resume_handled ends).reckoning rfl
  | _ => exact hx.of_same (by simp) rfl

theorem Nudge.reckoning (h : Nudge x y) : y.scene.reckoning = x.scene.reckoning := by
  cases h with
  | told told => exact told.reckoning
  | refreshFailed _ | forsake | post _ => simp
  | _ => rfl

theorem Stance.Adds.shift (x y : Stance) (h : Shift x y) (hx : x.Adds) : y.Adds := by
  cases h with
  | stride h =>
    intro _
    refine h.adds (hx fun dropped => ?_)
    obtain ⟨st, s, m⟩ := x
    cases dropped
    cases h
  | nudge h =>
    intro driven
    rw [h.reckoning, h.stand]
    rw [h.stand] at driven
    exact hx driven
  | drop _ _ => exact fun driven => absurd rfl driven

end

/-! ## Runs -/

namespace World

variable {policy : Policy} {settings : Settings} {draws : Nat → Nat} {ms : List Move} {w : World}

theorem run_adds (h : (World.initial policy settings draws).run ms = some w) : w.stance.Adds :=
  run_keep Stance.Adds.shift h fun _ => ⟨rfl, rfl, rfl, rfl, rfl, Nat.le_refl _⟩

/--
Wherever the watch is parked, and once it has returned: every attempt that began has ended, with a
resolver that was up or with one of three failures.  The engine was asked for a process by every attempt
but those that failed to refresh the files.  DNS fell back on plaintext, because of a failure, after every
failed start, every failed probe and every unexpected end of a resolver.  A pause began after each of these
and after every failed refresh.  And no more resolvers ended by themselves than were up.
-/
theorem counters_add_up (h : (World.initial policy settings draws).run ms = some w)
    (place : w.watch.phase.isParked = true ∨ w.watch.phase = .returned) :
    let t := w.scene.tallies
    let j := w.scene.journal
    let refreshes := j.failures SessionFault.isRefresh
    let starts := j.failures SessionFault.isStart
    let probes := j.failures SessionFault.isProbe
    t.attempts = j.attempts ∧
      t.attempts = t.sessions + refreshes + starts + probes ∧
      j.count Event.isStart + refreshes = t.attempts ∧
      t.fallbacks = starts + probes + t.unexpectedExits ∧
      j.pauses = refreshes + starts + probes + t.unexpectedExits ∧
      t.unexpectedExits ≤ t.sessions := by
  have settled : w.stance.stand ≠ .waiting .dropped ∧ ∃ sessions, w.stance.stand.dues = { sessions } := by
    unfold stance Watch.stance
    cases phase : w.watch.phase with
    | idle | pausing _ _ | serving _ | returned => exact ⟨nofun, _, rfl⟩
    | _ =>
      rw [phase] at place
      obtain parked | returned := place
      · cases parked
      · cases returned
  obtain ⟨driven, sessions, dues⟩ := settled
  have adds := run_adds h driven
  rw [dues] at adds
  exact ⟨adds.begun, adds.attempts, adds.starts, adds.fallbacks, adds.pauses,
    Nat.le_trans (Nat.le_add_right _ _) adds.exits⟩

/-- The moves of the rest of an attempt, up to the engine's answer. -/
def refreshes : List Move :=
  [.watch (.answer (.filesSetUp none)), .watch (.answer (.listsBuilt {})),
    .watch (.answer (.configWritten none))]

/-- The moves of one attempt for each way to fail, and of one that brings up a resolver, which then ends
by itself. -/
def eachFailure : List Move :=
  firstSession.take 9 ++
  [.watch (.answer (.filesSetUp (some (.other (.root "unreachable"))))), .pass 10000000000,
    .watch .elapsed] ++
  refreshes ++ [.watch (.answer (.started (some (.other (.root "missing"))))),
    .watch (.answer (.systemPointed none)), .pass 20000000000, .watch .elapsed] ++
  refreshes ++ [.watch (.answer (.started none)), .watch (.answer (.systemPointed none)),
    .watch (.answer (.probed (some .cancelled))), .exit 1 .clean, .watch .ended, .hangUp 1 .out,
    .hangUp 1 .err, .collect 1 (.read .out), .collect 1 (.read .err), .watch .ended,
    .watch (.answer (.systemPointed none)), .pass 40000000000, .watch .elapsed] ++
  refreshes ++ [.watch (.answer (.started none)), .watch (.answer (.systemPointed none)),
    .watch (.answer (.probed none)), .exit 2 .dropped, .watch .ended,
    .watch (.answer (.systemPointed none))]

theorem counters_add_up_after_each_failure :
    ∃ w, wanted.run eachFailure = some w ∧ w.watch.phase.isParked = true ∧
      w.scene.journal.failures SessionFault.isRefresh = 1 ∧
      w.scene.journal.failures SessionFault.isStart = 1 ∧
      w.scene.journal.failures SessionFault.isProbe = 1 ∧
      w.scene.tallies.attempts = 4 ∧ w.scene.journal.count Event.isStart = 3 ∧
      w.scene.tallies.fallbacks = 3 ∧ w.scene.journal.pauses = 4 ∧
      w.scene.tallies.unexpectedExits ≤ w.scene.tallies.sessions := by
  have ran : ((wanted.run eachFailure).any fun w => decide
      (w.watch.phase.isParked = true ∧ w.scene.tallies.sessions = 1 ∧
        w.scene.tallies.unexpectedExits = 1 ∧ w.scene.journal.failures SessionFault.isRefresh = 1 ∧
        w.scene.journal.failures SessionFault.isStart = 1 ∧
        w.scene.journal.failures SessionFault.isProbe = 1)) = true := by
    decide
  obtain ⟨w, hw, ran⟩ := (Option.any_eq_true _ _).1 ran
  obtain ⟨parked, sessions, exits, refreshes, starts, probes⟩ := of_decide_eq_true ran
  obtain ⟨-, attempts, asked, fallbacks, pauses, fewer⟩ := counters_add_up hw (.inl parked)
  exact ⟨w, hw, parked, refreshes, starts, probes, by omega, by omega, by omega, by omega, fewer⟩

end World

end DnsWarden
