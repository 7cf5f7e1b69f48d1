import DnsWarden.Proofs.Rest

/-!
# Requests under way

A request is under way from where it is put into the mailbox to where it is answered or lost:
meanwhile it is in the mailbox, with the watch where it stands, or held until an attempt ends.
`Stance.owed` lists the requests under way, and `Stride.fate` says what a stride does to the only one.
-/

namespace DnsWarden

/-- The status that a request asks for. -/
def Request.desired : Request → Status
  | .start _ => .running
  | .stop _ => .stopped

def AfterRetreat.owed : AfterRetreat → List Request
  | .halt _ reply => [.stop reply]
  | _ => []

def AfterSession.owed : AfterSession → List Request
  | .restart (some reply) => [.start reply]
  | _ => []

def Phase.owed : Phase → List Request
  | .retreating after => after.owed
  | .halting _ reply => [.stop reply]
  | .clearing _ after => after.owed
  | _ => []

def Stand.owed : Stand → List Request
  | .waiting p => p.owed
  | .retreating _ after | .resuming after => after.owed
  | .clearing _ after | .ending after => after.owed
  | _ => []

/-- The requests that the watch has taken or can take, and has not answered. -/
def Stance.owed (x : Stance) : List Request :=
  x.mailbox.toList ++ x.scene.pending.toList.map Request.start ++ x.stand.owed

/-- At most one request is under way. -/
def Stance.Lone (x : Stance) : Prop := x.owed.length ≤ 1

namespace Stance.Lone

variable {x : Stance}

theorem of_mailbox (h : x.Lone) {r : Request} (sent : x.mailbox = some r) :
    x.scene.pending = none ∧ x.stand.owed = [] ∧ x.owed = [r] := by
  unfold Stance.Lone Stance.owed at h
  unfold Stance.owed
  rw [sent] at h ⊢
  cases pending : x.scene.pending with
  | some t =>
    rw [pending] at h
    simp at h
  | none =>
    rw [pending] at h
    have none : x.stand.owed = [] := by simpa using h
    simp [none]

theorem of_pending (h : x.Lone) {t : Ticket} (held : x.scene.pending = some t) :
    x.mailbox = none ∧ x.stand.owed = [] ∧ x.owed = [.start t] := by
  unfold Stance.Lone Stance.owed at h
  unfold Stance.owed
  rw [held] at h ⊢
  cases mailbox : x.mailbox with
  | some r =>
    rw [mailbox] at h
    simp at h
  | none =>
    rw [mailbox] at h
    have none : x.stand.owed = [] := by simpa using h
    simp [none]

theorem of_stand (h : x.Lone) {r : Request} (taken : x.stand.owed = [r]) :
    x.mailbox = none ∧ x.scene.pending = none ∧ x.owed = [r] := by
  unfold Stance.Lone Stance.owed at h
  unfold Stance.owed
  rw [taken] at h ⊢
  cases mailbox : x.mailbox with
  | some r =>
    rw [mailbox] at h
    simp at h
  | none =>
    cases pending : x.scene.pending with
    | some t =>
      rw [pending] at h
      simp at h
    | none => simp

end Stance.Lone

namespace Scene

theorem replies_answerPending (s : Scene) (x : Status) :
    (s.answerPending x).replies =
      s.pending.elim s.replies fun t => s.replies.set t (.given x) := by
  cases h : s.pending <;> simp [answerPending, h, answer]

theorem replies_hold (s : Scene) (t : Option Ticket) :
    (s.hold t).replies = s.pending.elim s.replies fun old => (s.forsake old).replies := by
  cases h : s.pending <;> simp [hold, h]

theorem forsake_congr {s s' : Scene} (same : s'.replies = s.replies) (t : Ticket) :
    (s'.forsake t).replies = (s.forsake t).replies := by
  unfold forsake
  rw [same]
  split
  · rfl
  · exact same

end Scene

/-- What becomes of the only request under way: it stays so, it is answered, or it is lost. -/
inductive Fate (x y : Stance) : Prop where
  | kept (owed : y.owed = x.owed) (replies : y.scene.replies = x.scene.replies)
  | given {r : Request} {status : Status} (was : x.owed = [r]) (none : y.owed = [])
    (replies : y.scene.replies = x.scene.replies.set r.ticket (.given status))
    (rests : ∀ t, r = .stop t → y.Tends → y.scene.Bears y.stand.bearing → y.Rests)
  | lost {r : Request} (was : x.owed = [r]) (none : y.owed = [])
    (replies : y.scene.replies = (x.scene.forsake r.ticket).replies)

namespace Fate

variable {x y : Stance}

theorem of_same (stand : y.stand.owed = x.stand.owed) (mailbox : y.mailbox = x.mailbox)
    (pending : y.scene.pending = x.scene.pending) (replies : y.scene.replies = x.scene.replies) :
    Fate x y := by
  refine .kept ?_ replies
  unfold Stance.owed
  rw [stand, mailbox, pending]

/-- A stride that answers the stop request that the watch has taken. -/
theorem of_answer (t : Ticket) (lone : x.Lone) (stand : x.stand.owed = [.stop t])
    (stand' : y.stand.owed = []) (mailbox : y.mailbox = x.mailbox)
    (pending : y.scene.pending = x.scene.pending)
    (replies : y.scene.replies = x.scene.replies.set t (.given .stopped))
    (rests : y.Tends → y.scene.Bears y.stand.bearing → y.Rests) : Fate x y := by
  obtain ⟨empty, held, was⟩ := lone.of_stand stand
  refine .given was ?_ replies fun _ _ => rests
  unfold Stance.owed
  rw [mailbox, empty, pending, held, stand']
  rfl

/-- A stride that answers the start request that is held. -/
theorem of_answerPending (status : Status) (lone : x.Lone) (stand : x.stand.owed = [])
    (stand' : y.stand.owed = [])
    (mailbox : y.mailbox = x.mailbox) (pending : y.scene.pending = none)
    (replies : y.scene.replies =
      x.scene.pending.elim x.scene.replies fun t => x.scene.replies.set t (.given status)) :
    Fate x y := by
  cases held : x.scene.pending with
  | none =>
    rw [held] at replies
    exact of_same (stand'.trans stand.symm) mailbox (pending.trans held.symm) replies
  | some t =>
    rw [held] at replies
    obtain ⟨empty, -, was⟩ := lone.of_pending held
    refine .given was ?_ replies nofun
    unfold Stance.owed
    rw [mailbox, empty, pending, stand']
    rfl

/-- A stride that lets go of the start request that is held. -/
theorem of_hold (lone : x.Lone) (stand : x.stand.owed = []) (stand' : y.stand.owed = [])
    (mailbox : y.mailbox = x.mailbox) (pending : y.scene.pending = none)
    (replies : y.scene.replies =
      x.scene.pending.elim x.scene.replies fun t => (x.scene.forsake t).replies) : Fate x y := by
  cases held : x.scene.pending with
  | none =>
    rw [held] at replies
    exact of_same (stand'.trans stand.symm) mailbox (pending.trans held.symm) replies
  | some t =>
    rw [held] at replies
    obtain ⟨empty, -, was⟩ := lone.of_pending held
    refine .lost was ?_ replies
    unfold Stance.owed
    rw [mailbox, empty, pending, stand']
    rfl

end Fate

/-- Every stride keeps, answers or loses the only request under way. -/
theorem Stride.fate {x y : Stance} (h : Stride x y) (lone : x.Lone) : Fate x y := by
  cases h with
  | begin | retreat | strand | retreated | settle | venture | pause | pauseLost | cancelIdle | cycle
  | attempt | unwanted | pointed | wake | wakeLost | cancelServing | clearEmpty | endFinish =>
    exact .of_same rfl rfl (by simp) (by simp)
  | @halt s m t session _ =>
    have handled := s.cancelSession_handled session
    exact .of_same rfl rfl handled.pending handled.replies
  | @lostCancelled s m session =>
    have handled := (s.hear_handled session).trans (Scene.cancelSession_handled _ session)
    exact .of_same rfl rfl handled.pending handled.replies
  | @lost s m session =>
    have handled := (s.hear_handled session).trans (Scene.cancelSession_handled _ session)
    exact .of_same rfl rfl (by simpa using handled.pending) (by simpa using handled.replies)
  | started => exact .of_same rfl rfl rfl rfl
  | refresh goes | request goes =>
    have told := Refresh.resume_told goes
    exact .of_same rfl rfl told.pending told.replies
  | refreshFailed goes =>
    have told := Refresh.resume_told goes
    exact .of_same rfl rfl (by simpa using told.pending) (by simpa using told.replies)
  | clear ends =>
    have handled := Teardown.begin_handled ends
    exact .of_same rfl rfl handled.pending handled.replies
  | clearAttempt ends | clearing ends | cleared ends | clearedAttempt ends =>
    have handled := Teardown.resume_handled ends
    exact .of_same rfl rfl (by simpa using handled.pending) (by simpa using handled.replies)
  -- The start request that is held is answered
  | disable =>
    exact .of_answerPending .stopped lone rfl rfl rfl (by simp) (by simp [Scene.replies_answerPending])
  | giveUp | giveUpAttempt =>
    exact .of_answerPending .stopped lone rfl rfl rfl (by simp) (Scene.replies_answerPending _ _)
  | @refused s m pid keep f =>
    have handled := s.onProcess_handled pid fun p => { p with stage := .refused, cancelled := true }
    exact .of_answerPending .crashed lone rfl rfl rfl (by simp)
      (by simp [Scene.replies_answerPending, handled.pending, handled.replies])
  | probeFailed ends =>
    have handled := Teardown.begin_handled ends
    exact .of_answerPending .crashed lone rfl rfl rfl (by simpa using handled.pending)
      (by simpa [Scene.replies_answerPending] using handled.replies)
  | ready =>
    exact .of_answerPending .running lone rfl rfl rfl (by simp) (by simp [Scene.replies_answerPending])
  -- The request in the mailbox is taken
  | @startIdle s t =>
    obtain ⟨pending, -, was⟩ := lone.of_mailbox rfl
    have pending : s.pending = none := pending
    refine .kept ?_ (by simp [Scene.replies_hold, pending])
    rw [was]
    simp [Stance.owed, Stand.owed]
  | @startServing s t session =>
    obtain ⟨pending, -, was⟩ := lone.of_mailbox rfl
    have pending : s.pending = none := pending
    refine .kept ?_ (by simp)
    rw [was]
    simp [Stance.owed, Stand.owed, AfterSession.owed, pending]
  | @stopServing s t session =>
    obtain ⟨pending, -, was⟩ := lone.of_mailbox rfl
    have pending : s.pending = none := pending
    refine .kept ?_ (by simp)
    rw [was]
    simp [Stance.owed, Stand.owed, AfterRetreat.owed, pending]
  | @stopIdle s t =>
    obtain ⟨pending, -, was⟩ := lone.of_mailbox rfl
    have pending : s.pending = none := pending
    refine .given was ?_ rfl fun _ _ => Stance.rests_of_idle
    simp [Stance.owed, Stand.owed, Phase.owed, pending]
  -- A stop request is answered
  | @haltQuiet s m t session _ =>
    have handled := s.cancelSession_handled session
    exact .of_answer t lone rfl rfl rfl (by simpa using handled.pending)
      (by simp [Scene.answer, handled.replies])
      (Stance.rests_of_left (Scene.not_keeps_answered Scene.not_keeps_cancelSession t))
  | @halted s m t session note _ =>
    have handled := s.hear_handled session
    exact .of_answer t lone rfl rfl rfl (by simpa using handled.pending)
      (by simp [Scene.answer, handled.replies])
      (Stance.rests_of_left (Scene.not_keeps_answered Scene.not_keeps_hear t))
  -- The start request is held, or let go of
  | @endRestart s m reply =>
    cases reply with
    | none => exact .of_hold lone rfl rfl rfl (by simp) (Scene.replies_hold _ _)
    | some t =>
      obtain ⟨mailbox, pending, was⟩ := lone.of_stand (r := .start t) rfl
      have pending : s.pending = none := pending
      have mailbox : m = none := mailbox
      refine .kept ?_ (by simp [Scene.replies_hold, pending])
      rw [was]
      simp [Stance.owed, Stand.owed, mailbox]
  | finish => exact .of_hold lone rfl rfl rfl (by simp) (by simp [Scene.replies_hold])
  | @finishRequest s r =>
    obtain ⟨pending, -, was⟩ := lone.of_mailbox rfl
    have pending : s.pending = none := pending
    have held : (s.hold none).replies = s.replies := by simp [Scene.replies_hold, pending]
    refine .lost was ?_ (Scene.forsake_congr held r.ticket)
    simp [Stance.owed, Stand.owed, Phase.owed]

/-- The mailbox is only ever emptied by a stride. -/
theorem Stride.mailbox {x y : Stance} (h : Stride x y) : y.mailbox = x.mailbox ∨ y.mailbox = none := by
  cases h <;> first | exact .inl rfl | exact .inr rfl

/-! ## A watch that owes nothing -/

theorem AfterRetreat.rests_of_stopped {s : Scene} {after : AfterRetreat} (agrees : after.Agrees s)
    (stopped : s.status = .stopped) (pending : s.pending = none) (owed : after.owed = []) :
    after.Rests s := by
  cases after with
  | idle => trivial
  | attempt | disable => exact absurd stopped (agrees pending)
  | pause f | recover session f => exact absurd stopped (Status.ne_stopped_of_crashed agrees)
  | halt session reply => cases owed

theorem Phase.rests_of_stopped {s : Scene} {p : Phase} (agrees : p.Agrees s)
    (stopped : s.status = .stopped) (pending : s.pending = none) (owed : p.owed = []) : p.Rests s := by
  cases p with
  | unborn | idle | returned | dropped => trivial
  | retreating after => exact AfterRetreat.rests_of_stopped agrees stopped pending owed
  | attempting a =>
    cases a with
    | clearing f t => exact absurd stopped (Status.ne_stopped_of_crashed agrees)
    | _ => exact absurd stopped (agrees pending)
  | pausing deadline after => exact absurd stopped (Status.ne_stopped_of_crashed agrees)
  | serving session => exact fun kept => agrees.1 kept stopped
  | halting session reply => cases owed
  | clearing t after =>
    rcases after with _ | _ | reply
    · cases t with
      | stopping pid => exact absurd stopped agrees.2
      | joining pid => trivial
    · exact absurd stopped (Status.ne_stopped_of_crashed agrees.1)
    · cases owed

/-- A watch whose status is stopped rests if no request is under way. -/
theorem Stance.Agrees.rests {p : Phase} {s : Scene} {m : Option Request}
    (agrees : Stance.Agrees ⟨.waiting p, s, m⟩)
    (plain : Stance.PlainWhenStopped ⟨.waiting p, s, m⟩) (driven : p ≠ .dropped)
    (stopped : s.status = .stopped) (owed : Stance.owed ⟨.waiting p, s, m⟩ = []) :
    Stance.Rests ⟨.waiting p, s, m⟩ := by
  obtain ⟨taken, here⟩ := List.append_eq_nil_iff.1 owed
  have pending : s.pending = none := by simpa using (List.append_eq_nil_iff.1 taken).2
  have place : p.Rests s := Phase.rests_of_stopped agrees.status stopped pending here
  refine ⟨place, agrees.tends.still place fun dropped => driven (Stand.waiting.inj dropped),
    plain (fun probing => ?_) stopped⟩
  cases p with
  | attempting a => exact place
  | _ => cases probing

end DnsWarden
