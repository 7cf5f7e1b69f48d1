import DnsWarden.Proofs.OneProcess

/-!
# The status by place

The status is stored by the watch and, whenever a periodic refresh fails, by the refresher.
`Stand.Agrees` says which status can be stored at each place of the watch, and every shift keeps it.
A session without a process that is kept has the status stopped, unless a refresh failed after the
status was stored last.
-/

namespace DnsWarden

namespace Event

/-- Whether an event says something about the status. -/
def isVerdict : Event → Bool
  | .notice (.statusChanged _ _) | .notice (.refreshFailed _) => true
  | _ => false

/-- Whether a periodic refresh failed. -/
def isRefreshFailure : Event → Bool
  | .notice (.refreshFailed _) => true
  | _ => false

theorem isVerdict_of_isAside {e : Event} (h : e.isAside = true) : e.isVerdict = false := by
  cases e with
  | notice n => cases n <;> first | rfl | cases h
  | _ => rfl

end Event

/-- Whether the last word on the status was that a periodic refresh failed. -/
def Journal.refreshFailedLast (j : Journal) : Bool :=
  (j.find? fun e => e.event.isVerdict).any fun e => e.event.isRefreshFailure

namespace Scene

/-- Whether the last word on the status was that a periodic refresh failed. -/
def refreshFailedLast (s : Scene) : Bool := s.journal.refreshFailedLast

theorem refreshFailedLast_record (s : Scene) {e : Event} (h : e.isVerdict = false) :
    (s.record e).refreshFailedLast = s.refreshFailedLast := by
  have passed : (fun e : Entry => e.event.isVerdict) ⟨s.now, e⟩ = false := h
  show Option.any _ (List.find? _ (⟨s.now, e⟩ :: s.journal)) = _
  rw [List.find?_cons_of_neg (by simp [passed])]
  rfl

theorem refreshFailedLast_refreshFailed (s : Scene) (f : RefreshFault) :
    (s.tell (.refreshFailed f)).refreshFailedLast = true := rfl

theorem refreshFailedLast_forsake (s : Scene) (t : Ticket) :
    (s.forsake t).refreshFailedLast = s.refreshFailedLast := by
  unfold forsake
  split <;> rfl

theorem refreshFailedLast_systemPointed (s : Scene) (failure : Option NameserverFault) :
    (s.systemPointed failure).refreshFailedLast = s.refreshFailedLast := by
  cases failure with
  | none => rfl
  | some f => exact s.refreshFailedLast_record rfl

theorem Told.refreshFailedLast {s s' : Scene} (h : s.Told s') :
    s'.refreshFailedLast = s.refreshFailedLast := by
  obtain ⟨new, hn, rfl⟩ := h
  induction new with
  | nil => rfl
  | cons e new ih =>
    have rest := ih fun e' he => hn e' (List.mem_cons_of_mem e he)
    have first := refreshFailedLast_record { s with journal := new ++ s.journal, now := e.instant }
      (Event.isVerdict_of_isAside (hn e List.mem_cons_self))
    exact first.trans rest

/-- The status is stopped, or was overwritten by a failed refresh. -/
def Idles (s : Scene) : Prop :=
  s.status = .stopped ∨ s.status = .crashed ∧ s.refreshFailedLast = true

/-- The status of a watch that has a session: stopped exactly if its process is not kept, unless a
refresh failed after that. -/
def Serves (s : Scene) (session : Session) : Prop :=
  (s.Keeps session → s.status ≠ .stopped) ∧ (¬ s.Keeps session → s.Idles)

end Scene

/-! ## Agreement -/

def AfterRetreat.Agrees (s : Scene) : AfterRetreat → Prop
  | .idle => s.status = .stopped
  | .attempt | .disable => s.pending = none → s.status ≠ .stopped
  | .pause _ | .recover _ _ => s.status = .crashed
  | .halt session _ => s.Serves session

def AfterSession.Agrees (s : Scene) : AfterSession → Prop
  | .finish => s.cancelled = true
  | .restart none => s.status = .crashed
  | .restart (some _) => True

/-- Before the end of a process was received, the status is not stopped. -/
def Teardown.Agrees (s : Scene) : Teardown → Prop
  | .stopping _ => s.status ≠ .stopped
  | .joining _ => True

def Phase.Agrees (s : Scene) : Phase → Prop
  | .unborn | .idle => s.status = .stopped
  | .retreating after => after.Agrees s
  | .attempting (.clearing _ _) => s.status = .crashed
  | .attempting _ => s.pending = none → s.status ≠ .stopped
  | .pausing _ _ => s.status = .crashed
  | .serving session => s.Serves session
  | .halting _ _ => s.status ≠ .stopped
  | .clearing t after => after.Agrees s ∧ t.Agrees s
  | .returned | .dropped => True

/-- The status is one that can be stored at a place of the watch. -/
def Stand.Agrees (s : Scene) : Stand → Prop
  | .waiting p => p.Agrees s
  | .cycling | .attempting => s.pending = none → s.status ≠ .stopped
  | .retreating _ after | .resuming after => after.Agrees s
  | .clearing session after => after.Agrees s ∧ (s.Keeps session → s.status ≠ .stopped)
  | .ending after => after.Agrees s
  | .finishing => True

/-- What agreement depends on is the same in two scenes. -/
structure Scene.Alike (s s' : Scene) : Prop where
  status : s'.status = s.status
  pending : s'.pending = s.pending
  last : s'.refreshFailedLast = s.refreshFailedLast
  cancelled : s.cancelled = true → s'.cancelled = true
  keeps : ∀ session, s'.Keeps session ↔ s.Keeps session

namespace Scene.Alike

variable {s s' : Scene}

theorem of_premises (premises : s'.premises = s.premises) (status : s'.status = s.status)
    (pending : s'.pending = s.pending) (last : s'.refreshFailedLast = s.refreshFailedLast) :
    s.Alike s' where
  status := status
  pending := pending
  last := last
  cancelled h := (congrArg (fun p => p.2.2.2) premises).trans h
  keeps := keeps_congr premises

theorem of_told (h : s.Told s') : s.Alike s' :=
  of_premises h.premises h.status h.pending h.refreshFailedLast

theorem heads (h : s.Alike s') (hs : s.pending = none → s.status ≠ .stopped) :
    s'.pending = none → s'.status ≠ .stopped := by
  rw [h.pending, h.status]
  exact hs

theorem serves (h : s.Alike s') {session : Session} (hs : s.Serves session) : s'.Serves session := by
  unfold Serves Idles
  rw [h.keeps, h.status, h.last]
  exact hs

theorem afterRetreat (h : s.Alike s') {after : AfterRetreat} (hs : after.Agrees s) :
    after.Agrees s' := by
  cases after with
  | idle => exact h.status.trans hs
  | attempt | disable => exact h.heads hs
  | pause f | recover session f => exact h.status.trans hs
  | halt session reply => exact h.serves hs

theorem afterSession (h : s.Alike s') {after : AfterSession} (hs : after.Agrees s) :
    after.Agrees s' := by
  rcases after with _ | _ | reply
  · exact h.cancelled hs
  · exact h.status.trans hs
  · trivial

theorem phase (h : s.Alike s') {p : Phase} (hs : p.Agrees s) : p.Agrees s' := by
  cases p with
  | unborn | idle | pausing _ _ => exact h.status.trans hs
  | retreating after => exact h.afterRetreat hs
  | attempting a =>
    cases a with
    | clearing f t => exact h.status.trans hs
    | _ => exact h.heads hs
  | serving session => exact h.serves hs
  | halting session reply => exact fun stopped => hs (h.status ▸ stopped)
  | clearing t after =>
    refine ⟨h.afterSession hs.1, ?_⟩
    cases t with
    | stopping pid => exact fun stopped => hs.2 (h.status ▸ stopped)
    | joining pid => trivial
  | returned | dropped => trivial

theorem stand (h : s.Alike s') {st : Stand} (hs : st.Agrees s) : st.Agrees s' := by
  cases st with
  | waiting p => exact h.phase hs
  | cycling | attempting => exact h.heads hs
  | retreating failed after | resuming after => exact h.afterRetreat hs
  | clearing session after =>
    exact ⟨h.afterSession hs.1, fun kept stopped => hs.2 ((h.keeps _).1 kept) (h.status ▸ stopped)⟩
  | ending after => exact h.afterSession hs
  | finishing => trivial

end Scene.Alike

/-! ## Strides -/

theorem Teardown.begin_agrees {s s' : Scene} {session : Session} {t : Teardown}
    (h : Teardown.begin s session = (s', some t)) (held : s.Sole session.pid? Process.IsHeld)
    (hs : s.Keeps session → s.status ≠ .stopped) : t.Agrees s' := by
  have status := (Teardown.begin_handled h).status
  obtain ⟨_ | pid⟩ := session
  · cases h
  obtain ⟨p, found, hp⟩ := held.held pid rfl
  simp only [Teardown.begin] at h
  split_ifs at h with heard <;> cases h
  · trivial
  · intro stopped
    have unheard : p.heard = false := by
      simpa [Scene.heard, Scene.onProcess, found, Process.cancel] using heard
    obtain kept | ended := hp
    · exact hs ⟨pid, p, rfl, found, kept.2.1, kept.2.2.1⟩ (status.symm.trans stopped)
    · rw [ended.2.2.1] at unheard
      cases unheard

theorem Teardown.resume_agrees {t t' : Teardown} {s s' : Scene} (h : t.resume s = some (s', some t')) :
    t'.Agrees s' := by
  cases t with
  | stopping pid =>
    obtain ⟨note, -, hv⟩ := Option.map_eq_some_iff.1 h
    cases hv
    trivial
  | joining pid =>
    simp only [Teardown.resume] at h
    split_ifs at h
    cases h

theorem AfterSession.Agrees.of_handled {s s' : Scene} {after : AfterSession} (hs : after.Agrees s)
    (handled : s.Handled s') : after.Agrees s' := by
  rcases after with _ | _ | reply
  · exact handled.cancelled.trans hs
  · exact handled.status.trans hs
  · trivial

theorem Scene.serves_of_stopped {s : Scene} {session : Session} (stopped : s.status = .stopped)
    (left : ¬ s.Keeps session) : s.Serves session :=
  ⟨fun kept => absurd kept left, fun _ => .inl stopped⟩

theorem Status.ne_stopped_of_crashed {x : Status} (h : x = .crashed) : x ≠ .stopped := by
  rw [h]
  nofun

/-- Every stride leads to a status that can be stored where it ends. -/
theorem Stride.agrees {x y : Stance} (h : Stride x y) (tends : x.Tends)
    (hx : x.stand.Agrees x.scene) : y.stand.Agrees y.scene := by
  cases h with
  | begin | settle | venture | cycle | unwanted | stopIdle | attempt | started | pause | pauseLost =>
    exact hx
  | cancelIdle | giveUp | giveUpAttempt | endFinish | finish | finishRequest => trivial
  | @retreat s m failed after ip _ =>
    have alike : s.Alike (((s.tallyRetreat failed).tell
        (if failed then .fallingBack ip else .usingPlaintext ip)).pointAt ip .plaintext
          s.settings.keepNameserver) := by
      refine .of_premises (by simp) (by simp) (by simp) ?_
      cases failed <;> rfl
    exact alike.afterRetreat hx
  | @strand s m failed after _ =>
    have alike : s.Alike ((s.tallyRetreat failed).tell .noPlaintext) := .of_premises rfl rfl rfl rfl
    exact alike.afterRetreat hx
  | @retreated s m after failure =>
    have alike : s.Alike (s.systemPointed failure) :=
      .of_premises (by simp) (by simp) (by simp) (s.refreshFailedLast_systemPointed failure)
    exact alike.afterRetreat hx
  | disable => exact Scene.serves_of_stopped (by simp) (Scene.not_keeps_empty _)
  | @halt s m t session loud =>
    have status := (s.cancelSession_handled session).status
    exact fun stopped => hx.1 (Scene.Sole.keeps_of_loud tends loud) (status.symm.trans stopped)
  | haltQuiet =>
    exact Scene.serves_of_stopped (by simp)
      (Scene.not_keeps_answered Scene.not_keeps_cancelSession _)
  | halted =>
    exact Scene.serves_of_stopped (by simp) (Scene.not_keeps_answered Scene.not_keeps_hear _)
  | @startIdle s t =>
    intro none
    rw [Scene.pending_hold] at none
    cases none
  | refresh goes | request goes =>
    have told := Refresh.resume_told goes
    intro none stopped
    exact hx (told.pending.symm.trans none) (told.status.symm.trans stopped)
  | refreshFailed goes => exact Scene.status_setStatus _ _
  | @refused s m pid keep f =>
    exact (Scene.status_answerPending _ _).trans (Scene.status_setStatus _ _)
  | @pointed s m pid failure =>
    intro none stopped
    exact hx ((s.pending_systemPointed failure).symm.trans none)
      ((s.status_systemPointed failure).symm.trans stopped)
  | probeFailed ends =>
    exact (Teardown.begin_handled ends).status.trans (by simp)
  | @ready s m pid deadline =>
    have kept : s.Keeps (.of pid) := Scene.Sole.keeps tends
    refine ⟨fun _ => by simp, fun left => absurd (kept.of_premises ?_) left⟩
    simp
  | clearAttempt ends => exact (Teardown.resume_handled ends).status.trans hx
  | clearedAttempt ends => exact (Teardown.resume_handled ends).status.trans hx
  | wake => exact fun _ => Status.ne_stopped_of_crashed hx
  | wakeLost => exact ⟨hx, fun _ => Status.ne_stopped_of_crashed hx⟩
  | cancelServing cancelled => exact ⟨cancelled, hx.1⟩
  | startServing => exact ⟨trivial, fun kept => hx.1 (kept.of_premises rfl)⟩
  | @stopServing s t session =>
    have alike : s.Alike ((s.record (.received (.stop t))).tell .stopping) :=
      .of_premises rfl rfl rfl rfl
    exact alike.serves hx
  | @lostCancelled s m session note ended cancelled =>
    have handled := (s.hear_handled session).trans (Scene.cancelSession_handled _ session)
    exact ⟨handled.cancelled.trans cancelled, fun kept => absurd kept Scene.not_keeps_cancelSession⟩
  | lost => exact Scene.status_setStatus _ _
  | clear ends =>
    exact ⟨hx.1.of_handled (Teardown.begin_handled ends), Teardown.begin_agrees ends tends hx.2⟩
  | clearEmpty => exact hx.1
  | clearing ends => exact ⟨hx.1.of_handled (Teardown.resume_handled ends), Teardown.resume_agrees ends⟩
  | cleared ends => exact hx.1.of_handled (Teardown.resume_handled ends)
  | @endRestart s m reply =>
    intro none
    rw [Scene.pending_hold] at none
    subst none
    exact Status.ne_stopped_of_crashed ((Scene.status_hold _ _).trans hx)

/-! ## Nudges and shifts -/

section

variable {s s' : Scene}

/-- After a failed refresh the status is crashed, which can be stored anywhere but at first. -/
theorem AfterRetreat.agrees_of_crashed {after : AfterRetreat} (crashed : s'.status = .crashed)
    (last : s'.refreshFailedLast = true) (late : after.isEarly = false) : after.Agrees s' := by
  have left : s'.status ≠ .stopped := Status.ne_stopped_of_crashed crashed
  cases after with
  | idle => cases late
  | attempt | disable => exact fun _ => left
  | pause f | recover session f => exact crashed
  | halt session reply => exact ⟨fun _ => left, fun _ => .inr ⟨crashed, last⟩⟩

theorem AfterSession.agrees_of_crashed {after : AfterSession} (crashed : s'.status = .crashed)
    (cancelled : s'.cancelled = s.cancelled) (hs : after.Agrees s) : after.Agrees s' := by
  rcases after with _ | _ | reply
  · exact cancelled.trans hs
  · exact crashed
  · trivial

theorem Stand.agrees_of_crashed {st : Stand} (crashed : s'.status = .crashed)
    (last : s'.refreshFailedLast = true) (cancelled : s'.cancelled = s.cancelled)
    (late : st.isEarly = false) (hs : st.Agrees s) : st.Agrees s' := by
  have left : s'.status ≠ .stopped := Status.ne_stopped_of_crashed crashed
  cases st with
  | waiting p =>
    cases p with
    | unborn | idle => cases late
    | retreating after => exact AfterRetreat.agrees_of_crashed crashed last late
    | attempting a =>
      cases a with
      | clearing f t => exact crashed
      | _ => exact fun _ => left
    | pausing deadline after => exact crashed
    | serving session => exact ⟨fun _ => left, fun _ => .inr ⟨crashed, last⟩⟩
    | halting session reply => exact left
    | clearing t after =>
      refine ⟨AfterSession.agrees_of_crashed crashed cancelled hs.1, ?_⟩
      cases t with
      | stopping pid => exact left
      | joining pid => trivial
    | returned | dropped => trivial
  | cycling | attempting => exact fun _ => left
  | retreating failed after | resuming after =>
    exact AfterRetreat.agrees_of_crashed crashed last late
  | clearing session after =>
    exact ⟨AfterSession.agrees_of_crashed crashed cancelled hs.1, fun _ => left⟩
  | ending after => exact AfterSession.agrees_of_crashed crashed cancelled hs
  | finishing => trivial

end

theorem Nudge.agrees {x y : Stance} (h : Nudge x y) (hx : x.stand.Agrees x.scene) :
    y.stand.Agrees y.scene := by
  cases h with
  | told told => exact (Scene.Alike.of_told told).stand hx
  | @cancel st s m =>
    have alike : s.Alike { s with cancelled := true } := ⟨rfl, rfl, rfl, fun _ => rfl, fun _ => Iff.rfl⟩
    exact alike.stand hx
  | @drift st s m pid p q found drifts =>
    have alike : s.Alike (s.onProcess pid fun _ => q) :=
      ⟨rfl, rfl, rfl, id, Scene.keeps_drift found drifts⟩
    exact alike.stand hx
  | @pass st s m nanos =>
    have alike : s.Alike (s.pass nanos) := ⟨rfl, rfl, rfl, id, fun _ => Iff.rfl⟩
    exact alike.stand hx
  | @replace st s m new =>
    have alike : s.Alike (s.replace new) := ⟨rfl, rfl, rfl, id, fun _ => Iff.rfl⟩
    exact alike.stand hx
  | @restarted st s m =>
    have alike : s.Alike (s.tally fun t => { t with restarts := t.restarts + 1 }) :=
      .of_premises rfl rfl rfl rfl
    exact alike.stand hx
  | @openReply st s m =>
    have alike : s.Alike s.openReply.1 := .of_premises rfl rfl rfl rfl
    exact alike.stand hx
  | @forsake st s m t =>
    have alike : s.Alike (s.forsake t) :=
      .of_premises (by simp) (by simp) (by simp) (s.refreshFailedLast_forsake t)
    exact alike.stand hx
  | @post p s r isOpen =>
    have alike : s.Alike (s.record (.sent r)) :=
      .of_premises rfl rfl rfl (s.refreshFailedLast_record rfl)
    exact alike.phase hx
  | @refreshFailed st s m f late =>
    have crashed : ((s.setStatus .crashed).tell (.refreshFailed f)).status = .crashed := by simp
    have premises : ((s.setStatus .crashed).tell (.refreshFailed f)).premises = s.premises := by simp
    exact Stand.agrees_of_crashed crashed (Scene.refreshFailedLast_refreshFailed _ f)
      (congrArg (fun p => p.2.2.2) premises) late hx

/-- The watch tends its process, and the status is one that can be stored at its place. -/
structure Stance.Agrees (x : Stance) : Prop where
  tends : x.Tends
  status : x.stand.Agrees x.scene

theorem Stance.Agrees.shift (x y : Stance) (h : Shift x y) (hx : x.Agrees) : y.Agrees := by
  refine ⟨h.tends x y hx.tends, ?_⟩
  cases h with
  | stride h => exact h.agrees hx.tends hx.status
  | nudge h => exact h.agrees hx.status
  | drop _ _ => trivial

theorem World.run_agrees {policy : Policy} {settings : Settings} {draws : Nat → Nat} {ms : List Move}
    {w : World} (h : (World.initial policy settings draws).run ms = some w) : w.stance.Agrees :=
  run_keep Stance.Agrees.shift h ⟨run_tends (run_nil _), rfl⟩

end DnsWarden
