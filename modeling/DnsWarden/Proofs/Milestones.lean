import DnsWarden.Proofs.Surroundings

/-!
# The course of the attempts

The journal marks where an attempt began or ended and where a pause began.  The `Cadence` of a scene is
these milestones together with the delays.  Almost everything leaves it alone: `Stride.beat` says which
strides do not, with what they find and where they lead, and others never touch it.
-/

namespace DnsWarden

/-! ## Milestones -/

/-- What marks the course of the attempts. -/
inductive Milestone where
  | began
  | ended (failure : Option SessionFault)
  | paused (instant : Nat) (delay : Duration)
deriving DecidableEq

/-- The milestone that an entry of the journal is, if it is one. -/
def Entry.milestone? (e : Entry) : Option Milestone :=
  match e.event with
  | .attemptBegan => some .began
  | .attemptEnded failure => some (.ended failure)
  | .pauseBegan delay => some (.paused e.instant delay)
  | _ => none

theorem Entry.milestone?_of_isAside {e : Entry} (h : e.event.isAside = true) : e.milestone? = none := by
  obtain ⟨t, e⟩ := e
  cases e with
  | attemptBegan | attemptEnded _ | pauseBegan _ => cases h
  | _ => rfl

namespace Journal

/-- The milestones so far, the newest first. -/
def milestones (j : Journal) : List Milestone := j.filterMap Entry.milestone?

/-- How many attempts began. -/
def attempts (j : Journal) : Nat := j.milestones.count .began

theorem milestones_append (new old : Journal) :
    milestones (new ++ old) = new.milestones ++ old.milestones :=
  List.filterMap_append

theorem milestones_aside {new : Journal} (h : ∀ e ∈ new, e.event.isAside = true) (j : Journal) :
    milestones (new ++ j) = j.milestones := by
  have none : new.milestones = [] :=
    List.filterMap_eq_nil_iff.2 fun e he => Entry.milestone?_of_isAside (h e he)
  rw [milestones_append, none, List.nil_append]

end Journal

/-! ## The cadence of a scene -/

/-- The delays and the milestones so far. -/
structure Cadence where
  backoff : Backoff
  milestones : List Milestone

namespace Cadence

/-- The cadence after one more milestone that leaves the delays alone. -/
def mark (c : Cadence) (m : Milestone) : Cadence := { c with milestones := m :: c.milestones }

/-- The cadence once a resolver is up. -/
def ready (c : Cadence) : Cadence := ⟨c.backoff.reset, .ended none :: c.milestones⟩

/-- The cadence once a pause has begun. -/
def pause (c : Cadence) (now : Nat) : Cadence :=
  ⟨c.backoff.advance, .paused now c.backoff.current :: c.milestones⟩

end Cadence

namespace Scene

def cadence (s : Scene) : Cadence := ⟨s.backoff, s.journal.milestones⟩

section

variable (s : Scene)

@[simp] theorem cadence_received (r : Request) : (s.record (.received r)).cadence = s.cadence := rfl

@[simp] theorem cadence_attemptEnded (f : Option SessionFault) :
    (s.record (.attemptEnded f)).cadence = s.cadence.mark (.ended f) := rfl

@[simp] theorem cadence_tell (n : Notice) : (s.tell n).cadence = s.cadence := rfl

theorem cadence_ready : s.ready.cadence = { s.cadence with backoff := s.backoff.reset } := rfl

@[simp] theorem cadence_call (c : Call) : (s.call c).cadence = s.cadence := rfl

@[simp] theorem cadence_tally (f : Tallies → Tallies) : (s.tally f).cadence = s.cadence := rfl

@[simp] theorem cadence_setStatus (x : Status) : (s.setStatus x).cadence = s.cadence := by
  unfold setStatus
  split <;> rfl

@[simp] theorem cadence_answer (t : Ticket) (x : Status) : (s.answer t x).cadence = s.cadence := rfl

@[simp] theorem cadence_forsake (t : Ticket) : (s.forsake t).cadence = s.cadence := by
  unfold forsake
  split <;> rfl

@[simp] theorem cadence_answerPending (x : Status) : (s.answerPending x).cadence = s.cadence := by
  unfold answerPending
  split <;> rfl

@[simp] theorem cadence_hold (t : Option Ticket) : (s.hold t).cadence = s.cadence := by
  unfold hold
  split
  · rfl
  · exact s.cadence_forsake _

@[simp] theorem cadence_pointAt (ip : IpAddress) (route : Route) (keep : Bool) :
    (s.pointAt ip route keep).cadence = s.cadence := rfl

@[simp] theorem cadence_tallyRetreat (failed : Bool) : (s.tallyRetreat failed).cadence = s.cadence :=
  rfl

@[simp] theorem cadence_pause (f : SessionFault) :
    (s.pause (some f)).1.cadence = s.cadence.pause s.now := rfl

@[simp] theorem cadence_attempt : (Attempt.begin s).1.cadence = s.cadence.mark .began := rfl

@[simp] theorem cadence_systemPointed (failure : Option NameserverFault) :
    (s.systemPointed failure).cadence = s.cadence := by
  cases failure <;> rfl

@[simp] theorem cadence_requestProcess (detail : UInt8) :
    (s.requestProcess detail).1.cadence = s.cadence := rfl

end

theorem Told.cadence {s s' : Scene} (h : s.Told s') : s'.cadence = s.cadence := by
  obtain ⟨new, hn, rfl⟩ := h
  exact congrArg (Cadence.mk s.backoff) (Journal.milestones_aside hn s.journal)

theorem Handled.cadence {s s' : Scene} (h : s.Handled s') : s'.cadence = s.cadence := by
  obtain ⟨ps, -, rfl⟩ := h
  rfl

end Scene

/-! ## Strides -/

/-- What a stride does to the cadence, with what it finds and where it leads. -/
inductive Beat (x y : Stance) : Prop where
  | rest (same : y.scene.cadence = x.scene.cadence)
  | began (was : x.stand = .attempting) (enabled : x.scene.settings.enabled = true)
    (driven : x.scene.cancelled = false) (waits : y.stand.waits = true)
    (marked : y.scene.cadence = x.scene.cadence.mark .began)
  | failed (f : SessionFault) (marked : y.scene.cadence = x.scene.cadence.mark (.ended (some f)))
  | ready {pid deadline : Nat} (was : x.stand = .waiting (.attempting (.probing pid deadline)))
    (leads : y.stand = .waiting (.serving (.of pid))) (status : y.scene.status = .running)
    (marked : y.scene.cadence = x.scene.cadence.ready)
  | paused {after : AfterPause}
    (leads : y.stand =
      .waiting (.pausing (Clock.endOfWait x.scene.now x.scene.backoff.pause) after))
    (marked : y.scene.cadence = x.scene.cadence.pause x.scene.now)

section

variable {x y : Stance}

theorem Stride.beat (h : Stride x y) : Beat x y := by
  cases h with
  | attempt enabled driven => exact .began rfl enabled driven rfl (by simp)
  | @refreshFailed s s' m r a f goes =>
    exact .failed (.refresh f) (by simp [(Refresh.resume_told goes).cadence])
  | @refused s m pid keep f =>
    have handled := s.onProcess_handled pid fun p => { p with stage := .refused, cancelled := true }
    exact .failed (.start f) (by simp [handled.cadence])
  | @clearedAttempt s s' m f td ends =>
    exact .failed (.probe f) (by simp [(Teardown.resume_handled ends).cadence])
  | ready =>
    refine .ready rfl rfl (by simp) ?_
    simp only [Scene.cadence_attemptEnded, Scene.cadence_tally, Scene.cadence_answerPending,
      Scene.cadence_setStatus, Scene.cadence_ready]
    rfl
  | pause | pauseLost => exact .paused rfl (by simp)
  | refresh goes | request goes => exact .rest (by simp [(Refresh.resume_told goes).cadence])
  | @halt s m t session => exact .rest (s.cancelSession_handled session).cadence
  | @haltQuiet s m t session =>
    exact .rest (by simp [(s.cancelSession_handled session).cadence])
  | @halted s m t session => exact .rest (by simp [(s.hear_handled session).cadence])
  | @started s m pid keep =>
    have handled := s.onProcess_handled pid fun p => { p with stage := .up }
    exact .rest (by simp [handled.cadence])
  | probeFailed ends => exact .rest (by simp [(Teardown.begin_handled ends).cadence])
  | @lostCancelled s m session =>
    have handled := (s.hear_handled session).trans (Scene.cancelSession_handled _ session)
    exact .rest handled.cadence
  | @lost s m session =>
    have handled := (s.hear_handled session).trans (Scene.cancelSession_handled _ session)
    exact .rest (by simp [handled.cadence])
  | clear ends => exact .rest (Teardown.begin_handled ends).cadence
  | clearAttempt ends | clearing ends | cleared ends => exact .rest (Teardown.resume_handled ends).cadence
  | _ => exact .rest (by simp)

/-- A stride that leads to a pause begins it. -/
theorem Stride.pausing (h : Stride x y) {deadline : Nat} {after : AfterPause}
    (leads : y.stand = .waiting (.pausing deadline after)) :
    deadline = Clock.endOfWait x.scene.now x.scene.backoff.pause ∧
      y.scene.cadence = x.scene.cadence.pause x.scene.now := by
  cases h with
  | pause | pauseLost =>
    cases leads
    exact ⟨rfl, rfl⟩
  | _ => cases leads

/-- Others leave the cadence alone. -/
theorem Nudge.cadence (h : Nudge x y) : y.scene.cadence = x.scene.cadence := by
  cases h with
  | told told => exact told.cadence
  | refreshFailed _ => simp
  | forsake => exact Scene.cadence_forsake _ _
  | _ => rfl

theorem Watch.cadence_drop (w : Watch) : w.drop.scene.cadence = w.scene.cadence := by
  have released : (release w.scene w.phase).cadence = w.scene.cadence := by
    obtain ⟨s, handled, h | ⟨t, h⟩⟩ := release_handled w.scene w.phase
    · rw [h, handled.cadence]
    · rw [h, Scene.cadence_forsake, handled.cadence]
  have held := (Scene.cadence_hold (release w.scene w.phase) none).trans released
  unfold drop close
  dsimp only
  cases w.mailbox with
  | none => exact held
  | some r => exact (Scene.cadence_forsake _ _).trans held

end

end DnsWarden
