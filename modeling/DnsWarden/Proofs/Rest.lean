import DnsWarden.Proofs.Pointing
import DnsWarden.Proofs.StatusByPlace

/-!
# The watch at rest

The watch rests where no process runs, DNS does not point at the resolver, and nothing but a start
request leads to an attempt.  `Stance.Rests` is kept by every shift but the receipt of a start request,
and a watch whose status is stopped rests unless a request is under way.
-/

namespace DnsWarden

namespace Scene

/-- The warden's own lookups were not pointed at the resolver last. -/
def Plain (s : Scene) : Prop := ∀ ip, s.marks.internal ≠ some (ip, .encrypted)

/-- No process runs. -/
def Still (s : Scene) : Prop := ∀ p ∈ s.processes, p.isUp = false

variable {s s' : Scene} {session : Session} {pid? : Option Nat} {Q : Process → Prop}

theorem FacesPlaintext.plain (h : s.FacesPlaintext) : s.Plain := by
  obtain ⟨ip, internal, -⟩ := h
  intro ip' encrypted
  rw [internal] at encrypted
  cases encrypted

theorem Plain.of_internal (h : s.Plain) (same : s'.marks.internal = s.marks.internal) : s'.Plain := by
  unfold Plain
  rw [same]
  exact h

theorem Plain.of_marks (h : s.Plain) (same : s'.marks = s.marks) : s'.Plain :=
  h.of_internal (congrArg Marks.internal same)

theorem Still.live (h : s.Still) : s.live = 0 := by
  unfold Scene.live
  rw [List.countP_eq_zero]
  intro p hp
  simp [h p hp]

theorem still_of_live (h : s.live = 0) : s.Still := by
  intro p hp
  exact Bool.not_eq_true _ ▸ List.countP_eq_zero.1 h p hp

theorem Still.of_premises (h : s.Still) (same : s'.premises = s.premises) : s'.Still := by
  have processes : s'.processes = s.processes := congrArg Prod.fst same
  unfold Still
  rw [processes]
  exact h

/-- What does not start a process leaves the processes still. -/
theorem Still.onProcess (h : s.Still) {pid : Nat} {f : Process → Process}
    (hf : ∀ p, s.processes[pid]? = some p → p.isUp = false → (f p).isUp = false) :
    (s.onProcess pid f).Still := by
  intro q hq
  obtain ⟨i, found⟩ := List.getElem?_of_mem hq
  by_cases hi : pid = i
  · subst hi
    simp only [Scene.onProcess, List.getElem?_modify_eq] at found
    obtain ⟨p, here, rfl⟩ := Option.map_eq_some_iff.1 found
    exact hf p here (h p (List.mem_of_getElem? here))
  · simp only [Scene.onProcess, List.getElem?_modify_ne _ _ hi] at found
    exact h q (List.mem_of_getElem? found)

theorem Still.releaseSession (h : s.Still) : (s.releaseSession session).Still := by
  obtain ⟨_ | pid⟩ := session
  · exact h
  · exact h.onProcess fun _ _ still => still

theorem Sole.still (h : s.Sole pid? Q) (hQ : ∀ p, Q p → p.isUp = false) : s.Still := by
  intro p hp
  obtain ⟨pid, found⟩ := List.getElem?_of_mem hp
  by_cases held : pid? = some pid
  · obtain ⟨p', found', hq⟩ := h.held pid held
    obtain rfl := Option.some.inj (found'.symm.trans found)
    exact hQ p' hq
  · exact (h.past pid p found held).isUp

/-- The process of a session that is not kept has ended. -/
theorem Sole.ended (h : s.Sole session.pid? Process.IsHeld) (left : ¬ s.Keeps session) :
    s.Sole session.pid? Process.HasEnded :=
  h.imp fun pid held p found hp => hp.resolve_left fun kept =>
    left ⟨pid, p, held, found, kept.2.1, kept.2.2.1⟩

theorem Sole.still_of_left (h : s.Sole session.pid? Process.IsHeld) (left : ¬ s.Keeps session) :
    s.Still :=
  (h.ended left).still fun _ => Process.HasEnded.isUp

/-- A process whose end is received while it serves was kept. -/
theorem Sole.keeps_of_note (h : s.Sole session.pid? Process.IsHeld) {note : ExitNote}
    (ended : s.sessionNote? session = some note) : s.Keeps session := by
  refine Decidable.byContradiction fun left => ?_
  obtain ⟨pid, held, hn⟩ := Option.bind_eq_some_iff.1 ended
  obtain ⟨p, found, hp⟩ := (h.ended left).held pid held
  obtain ⟨p', found', note'⟩ := Option.bind_eq_some_iff.1 hn
  obtain rfl := Option.some.inj (found.symm.trans found')
  have unheard := (Process.note?_eq_some.1 note').2
  rw [hp.2.2.1] at unheard
  cases unheard

end Scene

/-! ## Places of rest -/

def AfterRetreat.Rests (s : Scene) : AfterRetreat → Prop
  | .idle => True
  | .halt session _ => ¬ s.Keeps session
  | _ => False

def Phase.Rests (s : Scene) : Phase → Prop
  | .unborn | .idle | .returned | .dropped => True
  | .retreating after => after.Rests s
  | .serving session => ¬ s.Keeps session
  | .clearing (.joining _) .finish => True
  | _ => False

/-- Nothing but a start request leads from a place to an attempt, and no process is kept there. -/
def Stand.Rests (s : Scene) : Stand → Prop
  | .waiting p => p.Rests s
  | .retreating _ after | .resuming after => after.Rests s
  | .clearing session .finish => ¬ s.Keeps session
  | .ending .finish | .finishing => True
  | _ => False

/-- The watch rests. -/
structure Stance.Rests (x : Stance) : Prop where
  place : x.stand.Rests x.scene
  still : x.scene.Still
  plain : x.scene.Plain

section

variable {s s' : Scene}

theorem AfterRetreat.Rests.congr {after : AfterRetreat} (h : after.Rests s)
    (keeps : ∀ session, s'.Keeps session ↔ s.Keeps session) : after.Rests s' := by
  cases after with
  | idle => trivial
  | halt session reply => exact fun kept => h ((keeps session).1 kept)
  | _ => exact False.elim h

theorem Stand.Rests.congr {st : Stand} (h : st.Rests s)
    (keeps : ∀ session, s'.Keeps session ↔ s.Keeps session) : st.Rests s' := by
  cases st with
  | waiting p =>
    cases p with
    | retreating after => exact AfterRetreat.Rests.congr h keeps
    | serving session => exact fun kept => h ((keeps session).1 kept)
    | clearing t after => cases t <;> cases after <;> exact h
    | _ => exact h
  | retreating failed after | resuming after => exact AfterRetreat.Rests.congr h keeps
  | clearing session after =>
    cases after with
    | finish => exact fun kept => h ((keeps session).1 kept)
    | restart reply => exact False.elim h
  | ending after => cases after <;> exact h
  | _ => exact h

end

/-- No process runs while the watch rests, unless it was dropped. -/
theorem Stance.Tends.still {x : Stance} (tends : x.Tends) (place : x.stand.Rests x.scene)
    (driven : x.stand ≠ .waiting .dropped) : x.scene.Still := by
  obtain ⟨st, s, m⟩ := x
  have empty : s.Sole none (fun _ => False) → s.Still := fun none => none.still fun _ => False.elim
  have left : ∀ {session : Session}, s.Sole session.pid? Process.IsHeld → ¬ s.Keeps session → s.Still :=
    fun held left => held.still_of_left left
  cases st with
  | waiting p =>
    cases p with
    | unborn | idle | returned => exact empty tends
    | dropped => exact absurd rfl driven
    | retreating after =>
      cases after with
      | idle => exact empty tends
      | halt session reply => exact left tends place
      | _ => exact False.elim place
    | serving session => exact left tends place
    | clearing t after =>
      cases t with
      | joining pid => exact Scene.Sole.still tends fun _ joining => joining.1.isUp
      | stopping pid => cases after <;> exact False.elim place
    | _ => exact False.elim place
  | retreating failed after | resuming after =>
    cases after with
    | idle => exact empty tends
    | halt session reply => exact left tends place
    | _ => exact False.elim place
  | clearing session after =>
    cases after with
    | finish => exact left tends place
    | restart reply => exact False.elim place
  | ending after => exact empty tends
  | finishing => exact empty tends
  | _ => exact False.elim place

theorem Stance.rests_of_idle {s : Scene} {m : Option Request}
    (tends : Stance.Tends ⟨.waiting .idle, s, m⟩) (bears : s.Bears .plaintext) :
    Stance.Rests ⟨.waiting .idle, s, m⟩ :=
  ⟨trivial, tends.still trivial nofun, Scene.FacesPlaintext.plain bears⟩

theorem Stance.rests_of_left {s : Scene} {m : Option Request} {session : Session}
    (left : ¬ s.Keeps session) (tends : Stance.Tends ⟨.waiting (.serving session), s, m⟩)
    (bears : s.Bears (.session session)) : Stance.Rests ⟨.waiting (.serving session), s, m⟩ :=
  ⟨left, tends.still left nofun, (bears.2 left).plain⟩

/-! ## What keeps the watch at rest -/

theorem Teardown.begin_joining {s s' : Scene} {session : Session} {t : Teardown}
    (h : Teardown.begin s session = (s', some t)) (ended : s.Sole session.pid? Process.HasEnded) :
    ∃ pid, t = .joining pid := by
  obtain ⟨_ | pid⟩ := session
  · cases h
  obtain ⟨p, found, hp⟩ := ended.held pid rfl
  have heard : (s.onProcess pid .cancel).heard pid = true := by
    simp [Scene.heard, Scene.onProcess, found, Process.cancel, hp.2.2.1]
  simp only [Teardown.begin, heard, if_true] at h
  cases h
  exact ⟨pid, rfl⟩

/-- A watch that goes on was not dropped, and is not dropped by that. -/
theorem Stride.driven {x y : Stance} (h : Stride x y) :
    x.stand ≠ .waiting .dropped ∧ y.stand ≠ .waiting .dropped := by
  constructor
  · intro dropped
    cases h <;> cases dropped
  · intro dropped
    cases h <;> cases dropped

/-- A watch at a place of rest stays at one until it receives a start request. -/
theorem Stride.rests_place {x y : Stance} (h : Stride x y) (tends : x.Tends)
    (place : x.stand.Rests x.scene) :
    y.stand.Rests y.scene ∨ ∃ t, x.mailbox = some (.start t) ∧ y.mailbox = none := by
  have moved : ∀ after : AfterRetreat, after.Rests x.scene → y.scene.premises = x.scene.premises →
      after.Rests y.scene :=
    fun after place same => place.congr (Scene.keeps_congr same)
  cases h with
  | startIdle | startServing => exact .inr ⟨_, rfl, rfl⟩
  | venture | pause | pauseLost | disable | halted | giveUp | cycle | giveUpAttempt | attempt | unwanted
  | refresh | refreshFailed | request | refused | started | pointed | probeFailed | ready | clearAttempt
  | clearedAttempt | wake | wakeLost | endRestart => exact False.elim place
  | begin | settle | cancelIdle | cancelServing | endFinish => exact .inl place
  | stopIdle | finish | finishRequest => exact .inl trivial
  | @retreat s m failed after ip _ => exact .inl (moved after place (by simp))
  | @strand s m failed after _ => exact .inl (moved after place (by simp))
  | @retreated s m after failure => exact .inl (moved after place (by simp))
  | @stopServing s t session => exact .inl (moved (.halt session t) place (by simp))
  | halt loud => exact absurd (Scene.Sole.keeps_of_loud tends loud) place
  | @haltQuiet s m t session _ =>
    exact .inl (Scene.not_keeps_answered (@Scene.not_keeps_cancelSession s session) t)
  | lostCancelled ended | lost ended => exact absurd (Scene.Sole.keeps_of_note tends ended) place
  | @clear s s' m session after td ends =>
    cases after with
    | restart reply => exact False.elim place
    | finish =>
      obtain ⟨pid, rfl⟩ := Teardown.begin_joining ends (Scene.Sole.ended tends place)
      exact .inl trivial
  | @clearEmpty s m session after _ =>
    cases after with
    | restart reply => exact False.elim place
    | finish => exact .inl trivial
  | @clearing s s' m after td td' ends =>
    cases td with
    | stopping pid => cases after <;> exact False.elim place
    | joining pid =>
      simp only [Teardown.resume] at ends
      split at ends <;> cases ends
  | @cleared s s' m after td ends =>
    cases after with
    | restart reply => cases td <;> exact False.elim place
    | finish => exact .inl trivial

/-- From a place of rest the watch points nothing at the resolver. -/
theorem Stride.plain {x y : Stance} (h : Stride x y) (place : x.stand.Rests x.scene)
    (plain : x.scene.Plain) : y.scene.Plain := by
  cases h with
  | venture | pause | pauseLost | disable | halted | giveUp | cycle | giveUpAttempt | attempt | unwanted
  | refresh | refreshFailed | request | refused | started | pointed | probeFailed | ready | clearAttempt
  | clearedAttempt | wake | wakeLost | endRestart => exact False.elim place
  | @retreat s m failed after ip _ =>
    have faces : Scene.FacesPlaintext (((s.tallyRetreat failed).tell
        (if failed then .fallingBack ip else .usingPlaintext ip)).pointAt ip .plaintext
          s.settings.keepNameserver) := ⟨ip, rfl, rfl⟩
    exact faces.plain
  | @halt s m t session => exact plain.of_marks (s.cancelSession_handled session).marks
  | @haltQuiet s m t session =>
    exact plain.of_marks (by simpa using (s.cancelSession_handled session).marks)
  | @lostCancelled s m session =>
    exact plain.of_marks ((s.hear_handled session).trans (Scene.cancelSession_handled _ session)).marks
  | @lost s m session =>
    have handled := (s.hear_handled session).trans (Scene.cancelSession_handled _ session)
    exact plain.of_marks (by simpa using handled.marks)
  | clear ends => exact plain.of_marks (Teardown.begin_handled ends).marks
  | clearing ends | cleared ends => exact plain.of_marks (Teardown.resume_handled ends).marks
  | _ => exact plain.of_marks (by simp)

/-- A watch at rest stays so until it receives a start request. -/
theorem Stride.rests {x y : Stance} (h : Stride x y) (tends : x.Tends) (hx : x.Rests) :
    y.Rests ∨ ∃ t, x.mailbox = some (.start t) ∧ y.mailbox = none := by
  obtain ⟨place, -, plain⟩ := hx
  refine (h.rests_place tends place).imp_left fun place' => ?_
  exact ⟨place', (h.tends tends).still place' h.driven.2, h.plain place plain⟩

theorem Process.Drift.isUp {p q : Process} (h : p.Drift q) (still : p.isUp = false) :
    q.isUp = false := by
  have down : p.stage ≠ .up := by simpa [Process.isUp] using still
  simpa [Process.isUp, h.stage down] using down

/-- What others do leaves a place of rest one. -/
theorem Nudge.rests_place {x y : Stance} (h : Nudge x y) (place : x.stand.Rests x.scene) :
    y.stand.Rests y.scene := by
  cases h with
  | told told => exact place.congr (Scene.keeps_congr told.premises)
  | drift found drifts => exact place.congr (Scene.keeps_drift found drifts)
  | cancel | pass | replace | openReply | post => exact place.congr fun _ => Iff.rfl
  | refreshFailed | restarted | forsake => exact place.congr (Scene.keeps_congr (by simp))

/-- What others do brings no process up. -/
theorem Nudge.still {x y : Stance} (h : Nudge x y) (hx : x.scene.Still) : y.scene.Still := by
  cases h with
  | told told => exact hx.of_premises told.premises
  | @drift st s m pid p q found drifts =>
    refine Scene.Still.onProcess hx fun p' here up => ?_
    obtain rfl := Option.some.inj (found.symm.trans here)
    exact drifts.isUp up
  | cancel | pass | replace | openReply | post => exact hx
  | refreshFailed | restarted | forsake => exact hx.of_premises (by simp)

/-- What others do leaves a watch at rest. -/
theorem Nudge.rests {x y : Stance} (h : Nudge x y) (hx : x.Rests) : y.Rests := by
  refine ⟨h.rests_place hx.place, h.still hx.still, ?_⟩
  cases h with
  | told told => exact hx.plain.of_marks told.marks
  | drift | cancel | pass | openReply => exact hx.plain
  | replace | post => exact hx.plain.of_internal rfl
  | refreshFailed | restarted | forsake => exact hx.plain.of_marks (by simp)

/-- No process comes up where the watch is dropped. -/
theorem Watch.still_drop (w : Watch) (still : w.scene.Still) : w.drop.scene.Still := by
  have ended : ∀ t : Teardown, (t.release w.scene).Still := by
    intro t
    cases t with
    | stopping pid => exact still.onProcess fun _ _ down => down
    | joining pid => exact still
  have released : (release w.scene w.phase).Still := by
    cases w.phase with
    | retreating after =>
      cases after with
      | halt session t => exact still.releaseSession.of_premises (Scene.premises_forsake _ _)
      | recover session f => exact still.releaseSession
      | _ => exact still
    | attempting a =>
      cases a with
      | refreshing _ | starting _ _ => exact still
      | pointing pid | probing pid _ => exact still.onProcess fun _ _ down => down
      | clearing f t => exact ended t
    | pausing deadline after =>
      cases after with
      | attempt => exact still
      | recover session => exact still.releaseSession
    | serving session => exact still.releaseSession
    | halting session t => exact still.releaseSession.of_premises (Scene.premises_forsake _ _)
    | clearing t after =>
      rcases after with _ | _ | reply
      · exact ended t
      · exact ended t
      · exact (ended t).of_premises (Scene.premises_forsake _ _)
    | _ => exact still
  exact released.of_premises w.premises_drop

theorem Watch.drop_rests (w : Watch) (hw : w.stance.Rests) : w.drop.stance.Rests :=
  ⟨trivial, w.still_drop hw.still, hw.plain.of_marks w.marks_drop⟩

/-! ## Where DNS points while the status is stopped -/

/-- While the status is stopped DNS does not point at the resolver, unless an attempt pointed it
there. -/
def Stance.PlainWhenStopped (x : Stance) : Prop :=
  x.stand.bearing ≠ .resolver → x.scene.status = .stopped → x.scene.Plain

theorem Stride.plainWhenStopped {x y : Stance} (h : Stride x y) (agrees : y.stand.Agrees y.scene)
    (bears : y.scene.Bears y.stand.bearing) (hx : x.PlainWhenStopped) : y.PlainWhenStopped := by
  intro away stopped
  have carried : x.stand.bearing ≠ .resolver → y.scene.status = x.scene.status →
      y.scene.marks.internal = x.scene.marks.internal → y.scene.Plain :=
    fun away status internal => (hx away (status.symm.trans stopped)).of_internal internal
  have crashed : y.scene.status = .crashed → y.scene.Plain :=
    fun crashed => absurd stopped (Status.ne_stopped_of_crashed crashed)
  have left : ∀ session, y.scene.Serves session →
      (¬ y.scene.Keeps session → y.scene.FacesPlaintext) → y.scene.Plain :=
    fun session serves faces => (faces fun kept => serves.1 kept stopped).plain
  cases h with
  | retreat | retreated | settle | venture | pause | pauseLost | halt | stopIdle | attempt | refresh
  | refreshFailed | request | wake | strand => exact Scene.FacesPlaintext.plain bears
  | haltQuiet | halted | ready | disable => exact left _ agrees bears.2
  | started | pointed => exact absurd rfl away
  | begin | cancelIdle | startIdle | giveUp | cycle | giveUpAttempt | unwanted | wakeLost
  | cancelServing | startServing | stopServing | clearEmpty | endRestart | endFinish | finish | finishRequest =>
    exact carried nofun (by simp) (by simp)
  | @lostCancelled s m session note ended cancelled =>
    have handled := (s.hear_handled session).trans (Scene.cancelSession_handled _ session)
    exact carried nofun handled.status (congrArg Marks.internal handled.marks)
  | lost => exact crashed (by simp)
  | refused => exact crashed (by simp)
  | probeFailed ends => exact crashed ((Teardown.begin_handled ends).status.trans (by simp))
  | clearAttempt ends | clearedAttempt ends | clearing ends | cleared ends =>
    have handled := Teardown.resume_handled ends
    exact carried nofun handled.status (congrArg Marks.internal handled.marks)
  | clear ends =>
    have handled := Teardown.begin_handled ends
    exact carried nofun handled.status (congrArg Marks.internal handled.marks)

theorem Nudge.plainWhenStopped {x y : Stance} (h : Nudge x y) (hx : x.PlainWhenStopped) :
    y.PlainWhenStopped := by
  intro away stopped
  have carried : y.stand = x.stand → y.scene.status = x.scene.status →
      y.scene.marks.internal = x.scene.marks.internal → y.scene.Plain := by
    intro stand status internal
    rw [stand] at away
    exact (hx away (status.symm.trans stopped)).of_internal internal
  cases h with
  | told told => exact carried rfl told.status (congrArg Marks.internal told.marks)
  | refreshFailed late =>
    refine absurd stopped (Status.ne_stopped_of_crashed ?_)
    simp
  | drift | cancel | pass | replace | openReply | post => exact carried rfl rfl rfl
  | restarted | forsake => exact carried rfl (by simp) (by simp)

end DnsWarden
