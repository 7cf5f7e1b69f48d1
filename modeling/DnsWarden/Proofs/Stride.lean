import DnsWarden.Proofs.Frame
import Mathlib.Tactic.SplitIfs

/-!
# The strides of the watch

Between two waits the watch runs in one piece, through several functions that call one another.
Here that piece is cut into strides: a `Stance` is where the watch stands, at a wait or on its way
to the next one, with the scene and the mailbox, and `Stride` lists what it can do from there.  The
main statement, `Watch.resume_tread`, says that every step of the watch is a stride and then a walk to
the next wait, so that what each stride keeps is kept by the watch.
-/

namespace DnsWarden

/-- Where the watch stands: at a wait, or at a function that it has still to go through. -/
inductive Stand where
  | waiting (p : Phase)
  /-- About to begin anew in plaintext. -/
  | cycling
  /-- About to begin the next attempt. -/
  | attempting
  /-- About to retreat to plaintext. -/
  | retreating (failed : Bool) (after : AfterRetreat)
  /-- Past a retreat, with what follows it. -/
  | resuming (after : AfterRetreat)
  /-- About to end a session. -/
  | clearing (session : Session) (after : AfterSession)
  /-- Past a session, with what follows it. -/
  | ending (after : AfterSession)
  /-- About to return. -/
  | finishing

/-- Where the watch stands, with the scene that it works on and its mailbox. -/
structure Stance where
  stand : Stand
  scene : Scene
  mailbox : Option Request

/-- Whether the watch waits there. -/
def Stand.waits : Stand → Bool
  | .waiting _ => true
  | _ => false

/-- The stance of a watch that waits. -/
def Watch.stance (w : Watch) : Stance := ⟨.waiting w.phase, w.scene, w.mailbox⟩

/-- One stretch of the watch's way. -/
inductive Stride : Stance → Stance → Prop where
  | begin {s m} : Stride ⟨.waiting .unborn, s, m⟩ ⟨.retreating false .idle, s, m⟩
  -- Retreats
  | retreat {s m failed after ip} (target : s.settings.plaintextTarget? = some ip) :
    Stride ⟨.retreating failed after, s, m⟩ ⟨.waiting (.retreating after),
      ((s.tallyRetreat failed).tell (if failed then .fallingBack ip else .usingPlaintext ip)).pointAt
        ip .plaintext s.settings.keepNameserver, m⟩
  | strand {s m failed after} (target : s.settings.plaintextTarget? = none) :
    Stride ⟨.retreating failed after, s, m⟩
      ⟨.resuming after, (s.tallyRetreat failed).tell .noPlaintext, m⟩
  | retreated {s m after} (failure : Option NameserverFault) :
    Stride ⟨.waiting (.retreating after), s, m⟩ ⟨.resuming after, s.systemPointed failure, m⟩
  | settle {s m} : Stride ⟨.resuming .idle, s, m⟩ ⟨.waiting .idle, s, m⟩
  | venture {s m} : Stride ⟨.resuming .attempt, s, m⟩ ⟨.attempting, s, m⟩
  | pause {s m f} :
    Stride ⟨.resuming (.pause f), s, m⟩
      ⟨.waiting (.pausing (s.pause (some f)).2 .attempt), (s.pause (some f)).1, m⟩
  | pauseLost {s m session f} :
    Stride ⟨.resuming (.recover session f), s, m⟩
      ⟨.waiting (.pausing (s.pause (some f)).2 (.recover session)), (s.pause (some f)).1, m⟩
  | disable {s m} :
    Stride ⟨.resuming .disable, s, m⟩
      ⟨.waiting (.serving .empty), (s.setStatus .stopped).answerPending .stopped, m⟩
  | halt {s m t session} (quiet : (s.cancelSession session).quiet session = false) :
    Stride ⟨.resuming (.halt session t), s, m⟩
      ⟨.waiting (.halting session t), s.cancelSession session, m⟩
  | haltQuiet {s m t session} (quiet : (s.cancelSession session).quiet session = true) :
    Stride ⟨.resuming (.halt session t), s, m⟩
      ⟨.waiting (.serving session),
        ((s.cancelSession session).setStatus .stopped).answer t .stopped, m⟩
  | halted {s m t session note} (ended : s.sessionNote? session = some note) :
    Stride ⟨.waiting (.halting session t), s, m⟩
      ⟨.waiting (.serving session), ((s.hear session).setStatus .stopped).answer t .stopped, m⟩
  -- The first start request
  | cancelIdle {s m} (cancelled : s.cancelled = true) :
    Stride ⟨.waiting .idle, s, m⟩ ⟨.finishing, s, m⟩
  | startIdle {s t} :
    Stride ⟨.waiting .idle, s, some (.start t)⟩
      ⟨.cycling, (s.record (.received (.start t))).hold (some t), none⟩
  | stopIdle {s t} :
    Stride ⟨.waiting .idle, s, some (.stop t)⟩
      ⟨.waiting .idle, (s.record (.received (.stop t))).answer t .stopped, none⟩
  -- Cycles
  | giveUp {s m} (cancelled : s.cancelled = true) :
    Stride ⟨.cycling, s, m⟩ ⟨.finishing, s.answerPending .stopped, m⟩
  | cycle {s m} (cancelled : s.cancelled = false) :
    Stride ⟨.cycling, s, m⟩ ⟨.retreating false .attempt, s, m⟩
  | giveUpAttempt {s m} (enabled : s.settings.enabled = true) (cancelled : s.cancelled = true) :
    Stride ⟨.attempting, s, m⟩ ⟨.finishing, s.answerPending .stopped, m⟩
  | attempt {s m} (enabled : s.settings.enabled = true) (cancelled : s.cancelled = false) :
    Stride ⟨.attempting, s, m⟩ ⟨.waiting (.attempting (Attempt.begin s).2), (Attempt.begin s).1, m⟩
  | unwanted {s m} (enabled : s.settings.enabled = false) :
    Stride ⟨.attempting, s, m⟩ ⟨.retreating false .disable, s, m⟩
  -- Attempts
  | refresh {s s' m r a r'} (goes : Refresh.resume r a s = some (s', .waiting r')) :
    Stride ⟨.waiting (.attempting (.refreshing r)), s, m⟩
      ⟨.waiting (.attempting (.refreshing r')), s', m⟩
  | refreshFailed {s s' m r a f} (goes : Refresh.resume r a s = some (s', .done (some f))) :
    Stride ⟨.waiting (.attempting (.refreshing r)), s, m⟩
      ⟨.resuming (.pause (.refresh f)),
        (s'.setStatus .crashed).record (.attemptEnded (some (.refresh f))), m⟩
  | request {s s' m r a} (goes : Refresh.resume r a s = some (s', .done none)) :
    Stride ⟨.waiting (.attempting (.refreshing r)), s, m⟩
      ⟨.waiting (.attempting (.starting s'.processes.length s'.settings.keepNameserver)),
        (s'.requestProcess s'.settings.resolver.detail).1, m⟩
  | refused {s m pid keep f} :
    Stride ⟨.waiting (.attempting (.starting pid keep)), s, m⟩
      ⟨.retreating true (.pause (.start f)),
        (((s.onProcess pid fun p => { p with stage := .refused, cancelled := true }).setStatus
          .crashed).answerPending .crashed).record (.attemptEnded (some (.start f))), m⟩
  | started {s m pid keep} :
    Stride ⟨.waiting (.attempting (.starting pid keep)), s, m⟩
      ⟨.waiting (.attempting (.pointing pid)),
        (s.onProcess pid fun p => { p with stage := .up }).pointAt s.policy.resolverAddress
          .encrypted keep, m⟩
  | pointed {s m pid} (failure : Option NameserverFault) :
    Stride ⟨.waiting (.attempting (.pointing pid)), s, m⟩
      ⟨.waiting (.attempting (.probing pid (Clock.endOfWait s.now s.policy.probeTimeout))),
        (s.systemPointed failure).call .probe, m⟩
  | probeFailed {s s' m pid deadline f td}
      (ends : Teardown.begin ((s.setStatus .crashed).answerPending .crashed) (.of pid) =
        (s', some td)) :
    Stride ⟨.waiting (.attempting (.probing pid deadline)), s, m⟩
      ⟨.waiting (.attempting (.clearing f td)), s', m⟩
  | ready {s m pid deadline} :
    Stride ⟨.waiting (.attempting (.probing pid deadline)), s, m⟩
      ⟨.waiting (.serving (.of pid)),
        (((s.ready.setStatus .running).answerPending .running).tally fun t =>
          { t with sessions := t.sessions + 1 }).record (.attemptEnded none), m⟩
  | clearAttempt {s s' m f td td'} (ends : Teardown.resume td s = some (s', some td')) :
    Stride ⟨.waiting (.attempting (.clearing f td)), s, m⟩
      ⟨.waiting (.attempting (.clearing f td')), s', m⟩
  | clearedAttempt {s s' m f td} (ends : Teardown.resume td s = some (s', none)) :
    Stride ⟨.waiting (.attempting (.clearing f td)), s, m⟩
      ⟨.retreating true (.pause (.probe f)), s'.record (.attemptEnded (some (.probe f))), m⟩
  -- Pauses
  | wake {s m deadline} (due : s.cancelled = true ∨ deadline ≤ s.now) :
    Stride ⟨.waiting (.pausing deadline .attempt), s, m⟩ ⟨.attempting, s, m⟩
  | wakeLost {s m session deadline} (due : s.cancelled = true ∨ deadline ≤ s.now) :
    Stride ⟨.waiting (.pausing deadline (.recover session)), s, m⟩
      ⟨.clearing session (.restart none), s, m⟩
  -- Sessions
  | cancelServing {s m session} (cancelled : s.cancelled = true) :
    Stride ⟨.waiting (.serving session), s, m⟩ ⟨.clearing session .finish, s, m⟩
  | startServing {s t session} :
    Stride ⟨.waiting (.serving session), s, some (.start t)⟩
      ⟨.clearing session (.restart (some t)),
        (s.record (.received (.start t))).tell .starting, none⟩
  | stopServing {s t session} :
    Stride ⟨.waiting (.serving session), s, some (.stop t)⟩
      ⟨.retreating false (.halt session t), (s.record (.received (.stop t))).tell .stopping, none⟩
  | lostCancelled {s m session note} (ended : s.sessionNote? session = some note)
      (cancelled : s.cancelled = true) :
    Stride ⟨.waiting (.serving session), s, m⟩
      ⟨.clearing session .finish, (s.hear session).cancelSession session, m⟩
  | lost {s m session note} (ended : s.sessionNote? session = some note)
      (cancelled : s.cancelled = false) :
    Stride ⟨.waiting (.serving session), s, m⟩
      ⟨.retreating true (.recover session (.ended note.cause)),
        ((((s.hear session).cancelSession session).tally fun t =>
          { t with unexpectedExits := t.unexpectedExits + 1 }).setStatus .crashed), m⟩
  | clear {s s' m session after td} (ends : Teardown.begin s session = (s', some td)) :
    Stride ⟨.clearing session after, s, m⟩ ⟨.waiting (.clearing td after), s', m⟩
  | clearEmpty {s m session after} (empty : session.pid? = none) :
    Stride ⟨.clearing session after, s, m⟩ ⟨.ending after, s, m⟩
  | clearing {s s' m after td td'} (ends : Teardown.resume td s = some (s', some td')) :
    Stride ⟨.waiting (.clearing td after), s, m⟩ ⟨.waiting (.clearing td' after), s', m⟩
  | cleared {s s' m after td} (ends : Teardown.resume td s = some (s', none)) :
    Stride ⟨.waiting (.clearing td after), s, m⟩ ⟨.ending after, s', m⟩
  | endRestart {s m reply} :
    Stride ⟨.ending (.restart reply), s, m⟩ ⟨.cycling, s.hold reply, m⟩
  | endFinish {s m} : Stride ⟨.ending .finish, s, m⟩ ⟨.finishing, s, m⟩
  | finish {s} :
    Stride ⟨.finishing, s, none⟩ ⟨.waiting .returned, (s.hold none).tell .runEnded, none⟩
  | finishRequest {s} {r : Request} :
    Stride ⟨.finishing, s, some r⟩
      ⟨.waiting .returned, ((s.hold none).forsake r.ticket).tell .runEnded, none⟩

/-! ## What strides leave alone -/

/-- A stride asks for one process where a refresh ends, and elsewhere for none. -/
theorem Stride.even {x y : Stance} (h : Stride x y) :
    x.scene.Even y.scene ∨
      (∃ r, x.stand = .waiting (.attempting (.refreshing r))) ∧
        ∃ s detail, x.scene.Even s ∧ y.scene = (s.requestProcess detail).1 := by
  cases h with
  | request goes =>
    exact .inr ⟨⟨_, rfl⟩, _, _, .of_told (Refresh.resume_told goes), rfl⟩
  | refresh goes => exact .inl (.of_told (Refresh.resume_told goes))
  | refreshFailed goes =>
    have told := Scene.Even.of_told (Refresh.resume_told goes)
    exact .inl (told.trans (.of_same (by simp) (by simp)))
  | halt => exact .inl (.of_handled (Scene.cancelSession_handled _ _))
  | lostCancelled =>
    exact .inl (.of_handled ((Scene.hear_handled _ _).trans (Scene.cancelSession_handled _ _)))
  | @haltQuiet s _ _ session =>
    have handled := Scene.Even.of_handled (s.cancelSession_handled session)
    exact .inl (handled.trans (.of_same (by simp) (by simp)))
  | @halted s _ _ session =>
    have handled := Scene.Even.of_handled (s.hear_handled session)
    exact .inl (handled.trans (.of_same (by simp) (by simp)))
  | @lost s _ session =>
    have handled := Scene.Even.of_handled
      ((s.hear_handled session).trans (Scene.cancelSession_handled _ session))
    exact .inl (handled.trans (.of_same (by simp) (by simp)))
  | @refused s _ pid =>
    have handled := Scene.Even.of_handled
      (s.onProcess_handled pid fun p => { p with stage := .refused, cancelled := true })
    exact .inl (handled.trans (.of_same (by simp) (by simp)))
  | @started s _ pid =>
    have handled := Scene.Even.of_handled (s.onProcess_handled pid fun p => { p with stage := .up })
    exact .inl (handled.trans (Scene.pointAt_even _ _ _ _))
  | @probeFailed s s' m pid deadline f td ends =>
    have said : s.Even ((s.setStatus .crashed).answerPending .crashed) :=
      .of_same (by simp) (by simp)
    exact .inl (said.trans (.of_handled (Teardown.begin_handled ends)))
  | clear ends => exact .inl (.of_handled (Teardown.begin_handled ends))
  | clearAttempt ends | clearing ends | cleared ends =>
    exact .inl (.of_handled (Teardown.resume_handled ends))
  | clearedAttempt ends =>
    have handled := Scene.Even.of_handled (Teardown.resume_handled ends)
    exact .inl (handled.trans (.of_same (by simp) (by simp)))
  | @retreat s m failed after ip _ =>
    have said : s.Even ((s.tallyRetreat failed).tell
        (if failed then .fallingBack ip else .usingPlaintext ip)) := .of_same rfl rfl
    exact .inl (said.trans (Scene.pointAt_even _ _ _ _))
  | _ => exact .inl (.of_same (by simp) (by simp))

/-! ## Walks -/

theorem Teardown.begin_eq_none {s s' : Scene} {session : Session}
    (h : Teardown.begin s session = (s', none)) : session.pid? = none ∧ s' = s := by
  unfold Teardown.begin at h
  cases hp : session.pid? with
  | none => simpa [hp, eq_comm] using h
  | some pid =>
    simp only [hp] at h
    split_ifs at h <;> simp at h

/-- Strides up to the next wait. -/
inductive Walk : Stance → Stance → Prop where
  | wait {p s m} : Walk ⟨.waiting p, s, m⟩ ⟨.waiting p, s, m⟩
  | go {x y z} (onWay : x.stand.waits = false) (first : Stride x y) (rest : Walk y z) : Walk x z

/-- A walk from a wait is over. -/
theorem Walk.eq_of_waits {x y : Stance} (h : Walk x y) (waits : x.stand.waits = true) : y = x := by
  cases h with
  | wait => rfl
  | go onWay _ _ => cases waits.symm.trans onWay

/-- A stride from a wait, and a walk to the next one. -/
def Tread (x y : Stance) : Prop := ∃ z, Stride x z ∧ Walk z y

namespace Watch

/-- The stance of a watch on its way. -/
def standing (w : Watch) (st : Stand) : Stance := ⟨st, w.scene, w.mailbox⟩

theorem finish_walk (w : Watch) : Walk (w.standing .finishing) w.finish.stance := by
  obtain ⟨s, p, m⟩ := w
  cases m with
  | none => exact .go rfl .finish .wait
  | some r => exact .go rfl .finishRequest .wait

theorem retreat_walk (w : Watch) (failed : Bool) (after : AfterRetreat) {go : Watch → Watch}
    (h : ∀ v : Watch, Walk (v.standing (.resuming after)) (go v).stance) :
    Walk (w.standing (.retreating failed after)) (w.retreat failed after go).stance := by
  unfold Watch.retreat Scene.retreat
  dsimp only
  cases ht : (w.scene.tallyRetreat failed).settings.plaintextTarget? with
  | none => exact .go rfl (.strand ht) (h { w with scene := _ })
  | some ip => exact .go rfl (.retreat ht) .wait

theorem attempt_walk (w : Watch) : Walk (w.standing .attempting) w.attempt.stance := by
  unfold Watch.attempt
  split_ifs with he hc
  · exact .go rfl (.giveUpAttempt he hc) (finish_walk (w.update (·.answerPending .stopped)))
  · exact .go rfl (.attempt he (eq_false_of_ne_true hc)) .wait
  · exact .go rfl (.unwanted (eq_false_of_ne_true he))
      (w.retreat_walk false .disable fun _ => .go rfl .disable .wait)

theorem cycle_walk (w : Watch) : Walk (w.standing .cycling) w.cycle.stance := by
  unfold Watch.cycle
  split_ifs with hc
  · exact .go rfl (.giveUp hc) (finish_walk (w.update (·.answerPending .stopped)))
  · exact .go rfl (.cycle (eq_false_of_ne_true hc))
      (w.retreat_walk false .attempt fun v => .go rfl .venture v.attempt_walk)

theorem failed_walk (w : Watch) (f : SessionFault) :
    Walk (w.standing (if f.callsForPlaintext then .retreating true (.pause f)
      else .resuming (.pause f))) (w.failed f).stance := by
  unfold Watch.failed
  split_ifs
  · exact w.retreat_walk true (.pause f) fun _ => .go rfl .pause .wait
  · exact .go rfl .pause .wait

theorem afterSession_walk (w : Watch) (after : AfterSession) :
    Walk (w.standing (.ending after)) (w.afterSession after).stance := by
  cases after with
  | finish => exact .go rfl .endFinish w.finish_walk
  | restart reply => exact .go rfl .endRestart (cycle_walk (w.update (·.hold reply)))

theorem clear_walk (w : Watch) (session : Session) (after : AfterSession) :
    Walk (w.standing (.clearing session after)) (w.clear session after).stance := by
  unfold Watch.clear
  cases hb : Teardown.begin w.scene session with
  | mk s t =>
    cases t with
    | some t => exact .go rfl (.clear hb) .wait
    | none =>
      obtain ⟨he, rfl⟩ := Teardown.begin_eq_none hb
      exact .go rfl (.clearEmpty he) (w.afterSession_walk after)

theorem halt_walk (w : Watch) (session : Session) (reply : Ticket) :
    Walk (w.standing (.resuming (.halt session reply))) (w.halt session reply).stance := by
  unfold Watch.halt
  dsimp only
  split_ifs with hq
  · exact .go rfl (.haltQuiet hq) .wait
  · exact .go rfl (.halt (eq_false_of_ne_true hq)) .wait

theorem afterRetreat_walk (w : Watch) (after : AfterRetreat) :
    Walk (w.standing (.resuming after)) (w.afterRetreat after).stance := by
  cases after with
  | idle => exact .go rfl .settle .wait
  | attempt => exact .go rfl .venture w.attempt_walk
  | pause f => exact .go rfl .pause .wait
  | disable => exact .go rfl .disable .wait
  | halt session reply => exact w.halt_walk session reply
  | recover session f => exact .go rfl .pauseLost .wait

end Watch

/-! ## From one wait to the next -/

/-- Where the watch stands after a step of an attempt. -/
def Attempt.Next.stand : Attempt.Next → Stand
  | .waiting a => .waiting (.attempting a)
  | .ready pid => .waiting (.serving (.of pid))
  | .failed f => if f.callsForPlaintext then .retreating true (.pause f) else .resuming (.pause f)

theorem Attempt.probed_stride {s s' : Scene} {m : Option Request} {pid deadline : Nat}
    {failure : Option ProbeFault} {n : Attempt.Next} (h : Attempt.probed s pid failure = (s', n)) :
    Stride ⟨.waiting (.attempting (.probing pid deadline)), s, m⟩ ⟨n.stand, s', m⟩ := by
  unfold Attempt.probed at h
  cases failure with
  | none =>
    obtain ⟨rfl, rfl⟩ := Prod.mk.inj h
    exact .ready
  | some f =>
    dsimp only at h
    split at h
    case h_1 hb =>
      obtain ⟨rfl, rfl⟩ := Prod.mk.inj h
      exact .probeFailed hb
    case h_2 hb => cases (Teardown.begin_eq_none hb).1

theorem Attempt.resume_stride {a : Attempt} {i : Input} {s s' : Scene} {n : Attempt.Next}
    {m : Option Request} (h : a.resume i s = some (s', n)) :
    Stride ⟨.waiting (.attempting a), s, m⟩ ⟨n.stand, s', m⟩ := by
  cases a with
  | refreshing r =>
    cases i with
    | answer a =>
      obtain ⟨⟨s₁, n₁⟩, hr, hn⟩ := Option.map_eq_some_iff.1 h
      rcases n₁ with r' | _ | f <;> cases hn
      · exact .refresh hr
      · exact .request hr
      · exact .refreshFailed hr
    | _ => cases h
  | starting pid keep =>
    rcases i with _ | _ | _ | _ | a <;> try cases h
    rcases a with _ | _ | _ | (_ | f) | _ | _ <;> cases h
    · exact .started
    · exact .refused
  | pointing pid =>
    rcases i with _ | _ | _ | _ | a <;> try cases h
    rcases a with _ | _ | _ | _ | failure | _ <;> cases h
    exact .pointed failure
  | probing pid deadline =>
    rcases i with _ | _ | _ | _ | a <;> try cases h
    · simp only [Attempt.resume] at h
      split_ifs at h
      exact probed_stride (Option.some.inj h)
    · rcases a with _ | _ | _ | _ | _ | failure <;> try cases h
      exact probed_stride (Option.some.inj h)
  | clearing f t =>
    cases i with
    | ended =>
      obtain ⟨⟨s₁, t₁⟩, hr, hn⟩ := Option.map_eq_some_iff.1 h
      cases t₁ with
      | none =>
        cases hn
        exact .clearedAttempt hr
      | some t' =>
        cases hn
        exact .clearAttempt hr
    | _ => cases h

namespace Watch

theorem begin_tread {w : Watch} (hp : w.phase = .unborn) : Tread w.stance w.begin.stance := by
  unfold stance
  rw [hp]
  exact ⟨_, .begin, w.retreat_walk false .idle fun _ => .go rfl .settle .wait⟩

theorem take?_eq_some {w v : Watch} {r : Request} (h : w.take? = some (r, v)) :
    w.mailbox = some r ∧ v = { w with scene := w.scene.record (.received r), mailbox := none } := by
  obtain ⟨r', hm, hv⟩ := Option.map_eq_some_iff.1 h
  cases hv
  exact ⟨hm, rfl⟩

theorem afterPause_tread (w : Watch) {deadline : Nat} {after : AfterPause}
    (hp : w.phase = .pausing deadline after) (due : w.scene.cancelled = true ∨ deadline ≤ w.scene.now) :
    Tread w.stance (w.afterPause after).stance := by
  unfold stance
  rw [hp]
  cases after with
  | attempt => exact ⟨_, .wake due, w.attempt_walk⟩
  | recover session => exact ⟨_, .wakeLost due, w.clear_walk session (.restart none)⟩

theorem first_tread (s : Scene) (r : Request) :
    Tread ⟨.waiting .idle, s, some r⟩
      (first ⟨s.record (.received r), .idle, none⟩ r).stance := by
  cases r with
  | start reply => exact ⟨_, .startIdle, cycle_walk ⟨_, .idle, none⟩⟩
  | stop reply => exact ⟨_, .stopIdle, .wait⟩

theorem serve_tread (s : Scene) (session : Session) (r : Request) :
    Tread ⟨.waiting (.serving session), s, some r⟩
      (serve ⟨s.record (.received r), .serving session, none⟩ session r).stance := by
  cases r with
  | start reply => exact ⟨_, .startServing, clear_walk ⟨_, .serving session, none⟩ _ _⟩
  | stop reply =>
    exact ⟨_, .stopServing, retreat_walk ⟨_, .serving session, none⟩ false (.halt session reply)
      fun v => v.halt_walk session reply⟩

theorem lose_tread (s : Scene) (m : Option Request) {session : Session} {note : ExitNote}
    (ended : s.sessionNote? session = some note) :
    Tread ⟨.waiting (.serving session), s, m⟩
      (lose ⟨s, .serving session, m⟩ session note).stance := by
  have same : ((s.hear session).cancelSession session).cancelled = s.cancelled :=
    ((s.hear_handled session).trans (Scene.cancelSession_handled _ session)).cancelled
  unfold lose
  dsimp only
  split_ifs with hc
  · exact ⟨_, .lostCancelled ended (same ▸ hc), clear_walk ⟨_, .serving session, m⟩ _ _⟩
  · exact ⟨_, .lost ended (same ▸ eq_false_of_ne_true hc), retreat_walk ⟨_, .serving session, m⟩ true
      (.recover session (.ended note.cause)) fun _ => .go rfl .pauseLost .wait⟩

/-- Every step of the watch is a tread. -/
theorem resume_tread {w v : Watch} {i : Input} (h : w.resume i = some v) :
    Tread w.stance v.stance := by
  obtain ⟨s, p, m⟩ := w
  cases p with
  | unborn | returned | dropped => cases i <;> cases h
  | retreating after =>
    rcases i with _ | _ | _ | _ | a <;> try cases h
    rcases a with _ | _ | _ | _ | failure | _ <;> cases h
    exact ⟨_, .retreated failure, afterRetreat_walk ⟨_, _, m⟩ after⟩
  | idle =>
    cases i with
    | cancelled =>
      simp only [resume] at h
      split_ifs at h with hc
      cases h
      exact ⟨_, .cancelIdle hc, finish_walk ⟨s, .idle, m⟩⟩
    | request =>
      obtain ⟨⟨r, u⟩, ht, hu⟩ := Option.map_eq_some_iff.1 h
      obtain ⟨rfl, rfl⟩ := take?_eq_some ht
      cases hu
      exact first_tread s r
    | _ => cases h
  | attempting a =>
    obtain ⟨⟨s₁, n⟩, hr, hn⟩ := Option.map_eq_some_iff.1 h
    have first : Stride (Watch.stance ⟨s, .attempting a, m⟩) ⟨n.stand, s₁, m⟩ :=
      Attempt.resume_stride hr
    cases n with
    | waiting a' =>
      cases hn
      exact ⟨_, first, .wait⟩
    | ready pid =>
      cases hn
      exact ⟨_, first, .wait⟩
    | failed f =>
      cases hn
      exact ⟨_, first, failed_walk ⟨s₁, .attempting a, m⟩ f⟩
  | pausing deadline after =>
    cases i with
    | cancelled =>
      simp only [resume] at h
      split_ifs at h with hc
      cases h
      exact afterPause_tread _ rfl (.inl hc)
    | elapsed =>
      simp only [resume] at h
      split_ifs at h with hd
      cases h
      exact afterPause_tread _ rfl (.inr hd)
    | _ => cases h
  | serving session =>
    cases i with
    | cancelled =>
      simp only [resume] at h
      split_ifs at h with hc
      cases h
      exact ⟨_, .cancelServing hc, clear_walk ⟨s, .serving session, m⟩ _ _⟩
    | request =>
      obtain ⟨⟨r, u⟩, ht, hu⟩ := Option.map_eq_some_iff.1 h
      obtain ⟨rfl, rfl⟩ := take?_eq_some ht
      cases hu
      exact serve_tread s session r
    | ended =>
      obtain ⟨note, hn, hv⟩ := Option.map_eq_some_iff.1 h
      cases hv
      exact lose_tread s m hn
    | _ => cases h
  | halting session reply =>
    cases i with
    | ended =>
      obtain ⟨note, hn, hv⟩ := Option.map_eq_some_iff.1 h
      cases hv
      exact ⟨_, .halted hn, .wait⟩
    | _ => cases h
  | clearing t after =>
    cases i with
    | ended =>
      obtain ⟨⟨s₁, t₁⟩, hr, hv⟩ := Option.map_eq_some_iff.1 h
      cases t₁ with
      | none =>
        cases hv
        exact ⟨_, .cleared hr, afterSession_walk ⟨s₁, _, m⟩ after⟩
      | some t' =>
        cases hv
        exact ⟨_, .clearing hr, .wait⟩
    | _ => cases h

end Watch

end DnsWarden
