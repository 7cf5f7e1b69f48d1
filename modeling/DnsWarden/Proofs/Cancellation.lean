import DnsWarden.Proofs.Milestones
import DnsWarden.Proofs.OneProcess

/-!
# Once the watch is told to end

The watch looks whether it was told to end at some of its waits only, so that an attempt may go on for a
while.  But every attempt begins where the watch was not told to end, so that afterwards at most the
attempt in flight starts a process, and a watch that returns leaves no process behind.  The main
statement is `World.cancelled_watch_winds_down`.
-/

namespace DnsWarden

/-! ## What the watch is told -/

theorem Scene.cancelled_of_premises {s s' : Scene} (same : s'.premises = s.premises) :
    s'.cancelled = s.cancelled :=
  congrArg (fun p => p.2.2.2) same

theorem Scene.Handled.cancelled_of {s s' s'' : Scene} (h : s.Handled s')
    (said : s''.premises = s'.premises) : s''.cancelled = s.cancelled :=
  (cancelled_of_premises said).trans h.cancelled

theorem Scene.attempts_of_cadence {s s' : Scene} (same : s'.cadence = s.cadence) :
    s'.journal.attempts = s.journal.attempts :=
  congrArg (fun c => c.milestones.count .began) same

section

variable {x y : Stance}

/-- The watch does not tell itself to end. -/
theorem Stride.cancelled (h : Stride x y) : y.scene.cancelled = x.scene.cancelled := by
  cases h with
  | refresh goes => exact Scene.cancelled_of_premises (Refresh.resume_told goes).premises
  | @request s s' m r a goes =>
    have same : s'.cancelled = s.cancelled :=
      Scene.cancelled_of_premises (Refresh.resume_told goes).premises
    exact same
  | refreshFailed goes =>
    exact Scene.cancelled_of_premises (by simpa using (Refresh.resume_told goes).premises)
  | @halt s m t session => exact (s.cancelSession_handled session).cancelled
  | @haltQuiet s m t session => exact (s.cancelSession_handled session).cancelled_of (by simp)
  | @halted s m t session => exact (s.hear_handled session).cancelled_of (by simp)
  | @lostCancelled s m session =>
    exact ((s.hear_handled session).trans (Scene.cancelSession_handled _ session)).cancelled
  | @lost s m session =>
    have handled := (s.hear_handled session).trans (Scene.cancelSession_handled _ session)
    exact handled.cancelled_of (by simp)
  | @refused s m pid =>
    have handled := s.onProcess_handled pid fun p => { p with stage := .refused, cancelled := true }
    exact handled.cancelled_of (by simp)
  | @started s m pid =>
    have handled := s.onProcess_handled pid fun p => { p with stage := .up }
    exact handled.cancelled_of (by simp)
  | probeFailed ends =>
    exact (Teardown.begin_handled ends).cancelled.trans (Scene.cancelled_of_premises (by simp))
  | clear ends => exact (Teardown.begin_handled ends).cancelled
  | clearAttempt ends | clearing ends | cleared ends => exact (Teardown.resume_handled ends).cancelled
  | clearedAttempt ends => exact (Teardown.resume_handled ends).cancelled_of (by simp)
  | _ => exact Scene.cancelled_of_premises (by simp)

/-- What was told to end is not told otherwise. -/
theorem Nudge.cancelled (h : Nudge x y) (told : x.scene.cancelled = true) :
    y.scene.cancelled = true := by
  cases h with
  | told same => exact (Scene.cancelled_of_premises same.premises).trans told
  | cancel => rfl
  | refreshFailed _ => exact (Scene.cancelled_of_premises (by simp)).trans told
  | forsake => exact (Scene.cancelled_of_premises (by simp)).trans told
  | _ => exact told

theorem Watch.cancelled_drop (w : Watch) : w.drop.scene.cancelled = w.scene.cancelled := by
  obtain ⟨s, handled, h | ⟨t, h⟩⟩ := release_handled w.scene w.phase
  · rw [Scene.cancelled_of_premises w.premises_drop, h, handled.cancelled]
  · rw [Scene.cancelled_of_premises w.premises_drop, h,
      Scene.cancelled_of_premises (s.premises_forsake t), handled.cancelled]

/-! ## Where attempts begin -/

/-- An attempt begins where a resolver is wanted and the watch was not told to end, and the watch waits
for it. -/
theorem Stride.attempts (h : Stride x y) :
    y.scene.journal.attempts = x.scene.journal.attempts ∨
      x.stand = .attempting ∧ x.scene.cancelled = false ∧ x.scene.settings.enabled = true ∧
        y.stand.waits = true ∧ y.scene.journal.attempts = x.scene.journal.attempts + 1 := by
  have counted : ∀ {c : Cadence}, y.scene.cadence = c →
      y.scene.journal.attempts = c.milestones.count .began :=
    fun marked => congrArg (fun c => c.milestones.count .began) marked
  cases h.beat with
  | rest same => exact .inl (Scene.attempts_of_cadence same)
  | began was enabled driven waits marked =>
    exact .inr ⟨was, driven, enabled, waits, (counted marked).trans List.count_cons_self⟩
  | failed f marked => exact .inl ((counted marked).trans (List.count_cons_of_ne (by simp)))
  | ready _ _ _ marked => exact .inl ((counted marked).trans (List.count_cons_of_ne (by simp)))
  | paused _ marked => exact .inl ((counted marked).trans (List.count_cons_of_ne (by simp)))

/-- The settings that the watch finds are those with which its strides leave it. -/
theorem Stride.settings (h : Stride x y) : y.scene.settings = x.scene.settings := by
  obtain even | ⟨-, s, detail, even, asked⟩ := h.even
  · exact even.settings
  · rw [asked]
    exact even.settings

/-- Between the two stances no attempt begins, or one does where a resolver is wanted and the watch was
not told to end. -/
def Stance.AttemptsIfWanted (x y : Stance) : Prop :=
  y.scene.journal.attempts = x.scene.journal.attempts ∨
    x.scene.cancelled = false ∧ x.scene.settings.enabled = true ∧
      y.scene.journal.attempts = x.scene.journal.attempts + 1

theorem Stride.attempts_then {z : Stance} (first : Stride x z) (rest : Walk z y)
    (later : z.AttemptsIfWanted y) : x.AttemptsIfWanted y := by
  unfold Stance.AttemptsIfWanted at later ⊢
  rw [first.cancelled, first.settings] at later
  obtain same | ⟨-, driven, enabled, waits, more⟩ := first.attempts
  · rwa [same] at later
  · -- The watch waits for the attempt, so that the walk ends there.
    cases rest with
    | wait => exact .inr ⟨driven, enabled, more⟩
    | go onWay _ _ => cases onWay.symm.trans waits

theorem Walk.attempts (h : Walk x y) : x.AttemptsIfWanted y := by
  induction h with
  | wait => exact .inl rfl
  | go _ first rest ih => exact first.attempts_then rest ih

theorem Passage.attempts (h : Passage x y) : x.AttemptsIfWanted y := by
  cases h with
  | tread h =>
    obtain ⟨z, first, rest⟩ := h
    exact first.attempts_then rest rest.attempts
  | nudges h =>
    left
    induction h with
    | refl => rfl
    | tail _ last ih => exact (Scene.attempts_of_cadence last.cadence).trans ih
  | @drop w _ _ => exact .inl (Scene.attempts_of_cadence w.cadence_drop)

/-! ## What is left to do -/

/-- How many processes the watch may still ask for there without a new attempt. -/
def Stand.startsDue : Stand → Nat
  | .waiting (.attempting (.refreshing _)) => 1
  | _ => 0

/-- Told to end, the watch asks for no process that was not due. -/
theorem Stride.startsDue (h : Stride x y) (told : x.scene.cancelled = true) :
    y.scene.marks.starts + y.stand.startsDue ≤ x.scene.marks.starts + x.stand.startsDue := by
  have even := h.even
  cases h with
  | attempt _ driven => cases driven.symm.trans told
  | @refresh s s' m r a r' goes =>
    have marks : s'.marks = s.marks := (Refresh.resume_told goes).marks
    exact Nat.le_of_eq (congrArg (fun m => m.starts + 1) marks)
  | @request s s' m r a goes =>
    have marks : s'.marks = s.marks := (Refresh.resume_told goes).marks
    have counted := s'.marks_requestProcess s'.settings.resolver.detail
    rw [marks] at counted
    exact Nat.le_of_eq (congrArg Marks.starts counted)
  | @refreshFailed s s' m r a f goes =>
    have marks : ((s'.setStatus .crashed).record (.attemptEnded (some (.refresh f)))).marks = s.marks := by
      simpa using (Refresh.resume_told goes).marks
    show Marks.starts _ ≤ s.marks.starts + 1
    rw [marks]
    exact Nat.le_succ _
  | _ =>
    obtain even | ⟨⟨r, waits⟩, -⟩ := even
    · exact Nat.le_trans (Nat.le_of_eq even.starts) (Nat.le_add_right _ _)
    · cases waits

/-- Told to end, the watch begins no attempt and asks for at most so many processes in all. -/
structure Stance.WindsDown (attempts starts : Nat) (x : Stance) : Prop where
  told : x.scene.cancelled = true
  attempts : x.scene.journal.attempts = attempts
  starts : x.scene.marks.starts + x.stand.startsDue ≤ starts

theorem Stance.WindsDown.shift {attempts starts : Nat} (x y : Stance) (h : Shift x y)
    (hx : x.WindsDown attempts starts) : y.WindsDown attempts starts := by
  obtain ⟨told, begun, due⟩ := hx
  cases h with
  | stride h =>
    refine ⟨h.cancelled.trans told, ?_, Nat.le_trans (h.startsDue told) due⟩
    obtain same | ⟨-, driven, -⟩ := h.attempts
    · exact same.trans begun
    · cases driven.symm.trans told
  | nudge h =>
    refine ⟨h.cancelled told, (Scene.attempts_of_cadence h.cadence).trans begun, ?_⟩
    rw [h.calm.starts, h.stand]
    exact due
  | @drop w _ _ =>
    refine ⟨w.cancelled_drop.trans told, (Scene.attempts_of_cadence w.cadence_drop).trans begun, ?_⟩
    have starts : w.drop.stance.scene.marks.starts = w.scene.marks.starts :=
      congrArg Marks.starts w.marks_drop
    rw [starts]
    exact Nat.le_trans (Nat.le_add_right _ _) due

end

/-! ## Runs -/

namespace World

variable {policy : Policy} {settings : Settings} {draws : Nat → Nat} {ms : List Move} {w : World}

/--
Every attempt begins where the watch was not told to end and the stored settings want a resolver.  So
once the watch was told to end no attempt begins, and the engine is asked for at most one more process,
by an attempt that was refreshing the files.  When the watch returns, every process that the engine was
asked for was refused, or has ended after it was told to stop, its end was received, and its collector
was told to close and has finished, without being aborted.
-/
theorem cancelled_watch_winds_down (h : (World.initial policy settings draws).run ms = some w) :
    (∀ m v, w.step m = some v → w.scene.journal.attempts < v.scene.journal.attempts →
      w.scene.cancelled = false ∧ w.scene.settings.enabled = true) ∧
    (w.scene.cancelled = true → ∀ ns u, w.run ns = some u →
      u.scene.journal.attempts = w.scene.journal.attempts ∧
      u.scene.journal.count Event.isStart ≤ w.scene.journal.count Event.isStart + 1 ∧
      (w.scene.journal.count Event.isStart < u.scene.journal.count Event.isStart →
        ∃ r, w.watch.phase = .attempting (.refreshing r))) ∧
    (w.watch.phase = .returned →
      w.scene.processes.length = w.scene.journal.count Event.isStart ∧
      ∀ p ∈ w.scene.processes, p.stage = .refused ∨
        p.isUp = false ∧ p.cancelled = true ∧ p.heard = true ∧
          p.collector.told = true ∧ p.collector.finished = true ∧ p.collector.aborted = false) := by
  have sound := run_sound h
  refine ⟨fun m v hv more => ?_, fun told ns u hu => ?_, fun returned => ?_⟩
  · obtain same | ⟨driven, enabled, -⟩ := (sound.passage hv).attempts
    · exact absurd same (Nat.ne_of_gt more)
    · exact ⟨driven, enabled⟩
  · have start : w.stance.WindsDown w.scene.journal.attempts
        (w.scene.marks.starts + w.stance.stand.startsDue) := ⟨told, rfl, Nat.le_refl _⟩
    obtain ⟨-, -, attempts, starts⟩ := sound.run Stance.WindsDown.shift hu start
    have bound : u.scene.marks.starts ≤ w.scene.marks.starts + w.stance.stand.startsDue :=
      Nat.le_trans (Nat.le_add_right _ _) starts
    by_cases refreshing : ∃ r, w.watch.phase = .attempting (.refreshing r)
    · refine ⟨attempts, ?_, fun _ => refreshing⟩
      obtain ⟨r, phase⟩ := refreshing
      have due : w.stance.stand = .waiting (.attempting (.refreshing r)) := congrArg Stand.waiting phase
      rw [due] at bound
      exact bound
    · have none : w.stance.stand.startsDue = 0 := by
        unfold Stand.startsDue
        split
        next r waits => exact absurd ⟨r, Stand.waiting.inj waits⟩ refreshing
        next => rfl
      rw [none] at bound
      exact ⟨attempts, Nat.le_trans bound (Nat.le_succ _), fun more => absurd bound (Nat.not_le.2 more)⟩
  · refine ⟨(initial_sound _ _ _).run_starts h rfl, fun p hp => ?_⟩
    have none : w.scene.Sole none fun _ => False := by
      have shown : w.stance.scene.Shows w.stance.stand.hand := run_tends h
      rwa [show w.stance.stand = .waiting .returned from congrArg Stand.waiting returned] at shown
    obtain ⟨pid, found⟩ := List.getElem?_of_mem hp
    obtain refused | ⟨⟨ended, told⟩, finished⟩ := none.past pid p found nofun
    · exact .inl refused
    · exact .inr ⟨ended.isUp, ended.2.1, ended.2.2.1, told, finished, ended.2.2.2⟩

/-- The moves of a first start request, up to the retreat after which the attempt begins. -/
def firstWish : List Move :=
  [.run, .watch (.answer (.systemPointed none)), .arrive (.setStatus .running), .caller 0, .caller 0,
    .caller 0, .caller 0, .watch .request]

/-- The moves from there into the attempt, in which the watch is told to end. -/
def cancelledRefresh : List Move :=
  [.watch (.answer (.systemPointed none)), .watch (.answer (.filesSetUp none)), .cancelWatch]

/-- The moves from there to the return of the watch, past a resolver that comes up nevertheless. -/
def lastSession : List Move :=
  [.watch (.answer (.listsBuilt {})), .watch (.answer (.configWritten none)),
    .watch (.answer (.started none)), .watch (.answer (.systemPointed none)),
    .watch (.answer (.probed none)), .watch .cancelled, .exit 0 .clean, .watch .ended, .hangUp 0 .out,
    .hangUp 0 .err, .collect 0 (.read .out), .collect 0 (.read .err), .watch .ended]

theorem first_watch_winds_down :
    (∃ w v, wanted.run firstWish = some w ∧ w.step (.watch (.answer (.systemPointed none))) = some v ∧
      w.scene.journal.attempts < v.scene.journal.attempts ∧ w.scene.cancelled = false ∧
      w.scene.settings.enabled = true) ∧
    ∃ w u, wanted.run (firstWish ++ cancelledRefresh) = some w ∧ w.scene.cancelled = true ∧
      w.run lastSession = some u ∧ u.scene.journal.attempts = w.scene.journal.attempts ∧
      u.scene.journal.count Event.isStart ≤ w.scene.journal.count Event.isStart + 1 ∧
      (∃ r, w.watch.phase = .attempting (.refreshing r)) ∧
      u.watch.phase = .returned ∧ u.scene.processes.length = 1 ∧
      ∀ p ∈ u.scene.processes, p.stage = .refused ∨
        p.isUp = false ∧ p.cancelled = true ∧ p.heard = true ∧
          p.collector.told = true ∧ p.collector.finished = true ∧ p.collector.aborted = false := by
  constructor
  · have ran : ((wanted.run firstWish).any fun w =>
        (w.step (.watch (.answer (.systemPointed none)))).any fun v =>
          decide (w.scene.journal.attempts < v.scene.journal.attempts)) = true := by
      decide
    obtain ⟨w, hw, ran⟩ := (Option.any_eq_true _ _).1 ran
    obtain ⟨v, hv, more⟩ := (Option.any_eq_true _ _).1 ran
    have more := of_decide_eq_true more
    obtain ⟨driven, enabled⟩ := (cancelled_watch_winds_down hw).1 _ v hv more
    exact ⟨w, v, hw, hv, more, driven, enabled⟩
  · have ran : ((wanted.run (firstWish ++ cancelledRefresh)).any fun w =>
        (w.run lastSession).any fun u => decide (w.scene.cancelled = true ∧
          w.scene.journal.count Event.isStart < u.scene.journal.count Event.isStart ∧
          u.scene.journal.count Event.isStart = 1 ∧ u.watch.phase = .returned)) = true := by
      decide
    obtain ⟨w, hw, ran⟩ := (Option.any_eq_true _ _).1 ran
    obtain ⟨u, hu, ran⟩ := (Option.any_eq_true _ _).1 ran
    obtain ⟨told, more, one, returned⟩ := of_decide_eq_true ran
    obtain ⟨attempts, starts, refreshing⟩ := (cancelled_watch_winds_down hw).2.1 told _ u hu
    have hu' : wanted.run (firstWish ++ cancelledRefresh ++ lastSession) = some u := by
      rw [run_append, hw, Option.bind_some, hu]
    obtain ⟨processes, past⟩ := (cancelled_watch_winds_down hu').2.2 returned
    exact ⟨w, u, hw, told, hu, attempts, starts, refreshing more, returned, processes.trans one, past⟩

end World

end DnsWarden
