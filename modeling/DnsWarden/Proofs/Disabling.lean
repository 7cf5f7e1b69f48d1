import DnsWarden.Proofs.Acknowledgement
import DnsWarden.Proofs.Calls
import DnsWarden.Proofs.Cancellation

/-!
# While encrypted DNS is disabled

The watch looks at whether a resolver is wanted only before an attempt.  An attempt that was begun before
the settings were disabled goes on to its end, so that a caller that disables them can be told that the
resolver stays stopped while the process of an abandoned first start is about to come up.  The main
statement, `World.stays_stopped_iff`, says that this is the only case in which it does not stay stopped.
-/

namespace DnsWarden

/-! ## Where no process comes up -/

namespace Scene

variable {s s' : Scene} {session : Session}

theorem Still.cancelSession (h : s.Still) (session : Session) : (s.cancelSession session).Still := by
  obtain ⟨_ | pid⟩ := session
  · exact h
  · exact h.onProcess fun _ _ down => down

theorem Still.hear (h : s.Still) (session : Session) : (s.hear session).Still := by
  obtain ⟨_ | pid⟩ := session
  · exact h
  · exact h.onProcess fun _ _ down => down

theorem Still.begin (h : s.Still) {t : Option Teardown} (ends : Teardown.begin s session = (s', t)) :
    s'.Still := by
  obtain ⟨_ | pid⟩ := session
  · cases ends
    exact h
  · have told : (s.onProcess pid .cancel).Still := h.onProcess fun _ _ down => down
    simp only [Teardown.begin] at ends
    split_ifs at ends <;> cases ends
    · exact told.onProcess fun _ _ down => down
    · exact told

theorem Still.resume (h : s.Still) {t : Teardown} {t' : Option Teardown}
    (ends : t.resume s = some (s', t')) : s'.Still := by
  cases t with
  | stopping pid =>
    obtain ⟨note, -, hv⟩ := Option.map_eq_some_iff.1 ends
    cases hv
    have heard : (s.onProcess pid .hear).Still := h.onProcess fun _ _ down => down
    exact heard.onProcess fun _ _ down => down
  | joining pid =>
    simp only [Teardown.resume] at ends
    split_ifs at ends
    cases ends
    exact h

end Scene

/-- Whether an attempt goes on there that may still bring a process up. -/
def Stand.brings : Stand → Bool
  | .waiting (.attempting (.refreshing _)) | .waiting (.attempting (.starting _ _)) => true
  | _ => false

section

variable {starts : Nat} {x y : Stance}

theorem Stride.still (h : Stride x y) (barren : x.stand.brings = false) (still : x.scene.Still) :
    y.scene.Still := by
  cases h with
  | refresh | refreshFailed | request | refused | started => cases barren
  | halt => exact still.cancelSession _
  | @haltQuiet s m t session => exact (still.cancelSession session).of_premises (by simp)
  | @halted s m t session => exact (still.hear session).of_premises (by simp)
  | lostCancelled => exact (still.hear _).cancelSession _
  | @lost s m session =>
    exact ((still.hear session).cancelSession session).of_premises (by simp)
  | @probeFailed s s' m pid deadline f td ends =>
    have said : ((s.setStatus .crashed).answerPending .crashed).Still := still.of_premises (by simp)
    exact said.begin ends
  | clear ends => exact still.begin ends
  | clearAttempt ends | clearing ends | cleared ends => exact still.resume ends
  | clearedAttempt ends => exact (still.resume ends).of_premises (by simp)
  | attempt => exact still.of_premises rfl
  | _ => exact still.of_premises (by simp)

/-- No attempt begins while no resolver is wanted. -/
theorem Stride.barren (h : Stride x y) (barren : x.stand.brings = false)
    (unwanted : x.scene.settings.enabled = false) : y.stand.brings = false := by
  cases h with
  | refresh | request | started => cases barren
  | attempt enabled => cases enabled.symm.trans unwanted
  | _ => rfl

/-- No process is up, none was asked for since, and no attempt goes on that may bring one up. -/
structure Stance.Barren (starts : Nat) (x : Stance) : Prop where
  still : x.scene.Still
  barren : x.stand.brings = false
  starts : x.scene.marks.starts = starts

theorem Stride.keeps_barren (h : Stride x y) (unwanted : x.scene.settings.enabled = false)
    (hx : x.Barren starts) : y.Barren starts := by
  refine ⟨h.still hx.barren hx.still, h.barren hx.barren unwanted, ?_⟩
  obtain even | ⟨⟨r, refreshing⟩, -⟩ := h.even
  · exact even.starts.trans hx.starts
  · have barren := hx.barren
    rw [refreshing] at barren
    cases barren

theorem Nudge.keeps_barren (h : Nudge x y) (hx : x.Barren starts) : y.Barren starts := by
  refine ⟨h.still hx.still, ?_, h.calm.starts.trans hx.starts⟩
  rw [h.stand]
  exact hx.barren

/-- No move brings a process up while no resolver is wanted. -/
theorem Passage.keeps_barren (h : Passage x y) (unwanted : x.scene.settings.enabled = false)
    (hx : x.Barren starts) : y.Barren starts := by
  cases h with
  | tread h =>
    refine (h.keep (J := fun z => z.scene.settings.enabled = false ∧ z.Barren starts) ?_
      ⟨unwanted, hx⟩).2
    rintro z z' goes ⟨unwanted, hz⟩
    exact ⟨(congrArg Settings.enabled goes.settings).trans unwanted, goes.keeps_barren unwanted hz⟩
  | nudges h =>
    induction h with
    | refl => exact hx
    | tail _ last ih => exact last.keeps_barren ih
  | @drop w _ _ =>
    exact ⟨w.still_drop hx.still, rfl, (congrArg Marks.starts w.marks_drop).trans hx.starts⟩

end

namespace World

variable {w v : World}

/-- Whether no resolver is wanted. -/
def isDisabled (w : World) : Bool := !w.scene.settings.enabled

theorem Sound.run_barren {starts : Nat} {ns : List Move} {u : World} (sound : v.Sound)
    (hu : v.run ns = some u) (disabled : v.throughout isDisabled ns = true)
    (hv : v.stance.Barren starts) : u.stance.Barren starts := by
  refine (keep_throughout (J := fun x => x.Sound ∧ x.stance.Barren starts) ?_ hu disabled
    ⟨sound, hv⟩).2
  rintro m - x y step disabled - ⟨sound, hx⟩
  have unwanted : x.scene.settings.enabled = false := by simpa [isDisabled] using disabled
  exact ⟨sound.step step, (sound.passage step).keeps_barren unwanted hx⟩

/-! ## Attempts that go on -/

/-- An attempt goes on that was begun before and has a process or may still bring one up, or the watch
was dropped and has left a process up. -/
def Ventures (w : World) : Prop :=
  match w.watch.phase with
  | .attempting (.refreshing _) | .attempting (.starting _ _) => True
  | .attempting (.pointing _) | .attempting (.probing _ _) | .dropped => w.scene.live ≠ 0
  | _ => False

theorem not_ventures_of_rests (rests : w.stance.stand.Rests w.scene)
    (driven : w.watch.phase ≠ .dropped) : ¬ w.Ventures := by
  have rests : w.watch.phase.Rests w.scene := rests
  unfold Ventures
  cases phase : w.watch.phase with
  | attempting a =>
    rw [phase] at rests
    exact rests.elim
  | dropped => exact absurd phase driven
  | _ => exact id

/-- At a place of rest, a process is up only if the watch was dropped. -/
theorem barren_of_rests (tends : w.stance.Tends) (rests : w.stance.stand.Rests w.scene)
    (settled : ¬ w.Ventures) : w.stance.Barren w.scene.marks.starts := by
  refine ⟨?_, ?_, rfl⟩
  · by_cases dropped : w.watch.phase = .dropped
    · unfold Ventures at settled
      rw [dropped] at settled
      exact Scene.still_of_live (Decidable.not_not.1 settled)
    · exact tends.still rests fun same => dropped (Stand.waiting.inj same)
  · have rests : w.watch.phase.Rests w.scene := rests
    show (Stand.waiting w.watch.phase).brings = false
    cases phase : w.watch.phase with
    | attempting a =>
      rw [phase] at rests
      exact rests.elim
    | _ => rfl

/-- While the status is stopped, a process is up only where an attempt goes on. -/
theorem barren_of_stopped (agrees : w.stance.Agrees) (stopped : w.scene.status = .stopped)
    (settled : ¬ w.Ventures) : w.stance.Barren w.scene.marks.starts := by
  obtain ⟨tends, status⟩ := agrees
  have status : w.watch.phase.Agrees w.scene := status
  have tends : w.scene.Shows w.watch.phase.hand := tends
  have crashed : w.scene.status ≠ .crashed := by
    rw [stopped]
    nofun
  have left : ∀ {session : Session}, w.scene.Serves session → w.scene.Sole session.pid? Process.IsHeld →
      w.scene.Still :=
    fun serves held => held.still_of_left fun kept => serves.1 kept stopped
  have none : w.scene.Sole none (fun _ => False) → w.scene.Still :=
    fun none => none.still fun _ => False.elim
  have still : w.scene.Still ∧ w.stance.stand.brings = false := by
    show w.scene.Still ∧ (Stand.waiting w.watch.phase).brings = false
    unfold Ventures at settled
    cases phase : w.watch.phase with
    | unborn | idle | returned =>
      rw [phase] at tends
      exact ⟨none tends, rfl⟩
    | dropped =>
      rw [phase] at settled
      exact ⟨Scene.still_of_live (Decidable.not_not.1 settled), rfl⟩
    | retreating after =>
      rw [phase] at tends status
      cases after with
      | halt session t => exact ⟨left status tends, rfl⟩
      | recover session f => exact absurd status crashed
      | _ => exact ⟨none tends, rfl⟩
    | attempting a =>
      rw [phase] at status settled
      cases a with
      | refreshing _ | starting _ _ => exact absurd trivial settled
      | pointing _ | probing _ _ =>
        exact ⟨Scene.still_of_live (Decidable.not_not.1 settled), rfl⟩
      | clearing f t => exact absurd status crashed
    | pausing deadline after =>
      rw [phase] at status
      exact absurd status crashed
    | serving session =>
      rw [phase] at tends status
      exact ⟨left status tends, rfl⟩
    | halting session t =>
      rw [phase] at status
      exact absurd stopped status
    | clearing t after =>
      rw [phase] at tends status
      cases t with
      | stopping pid => exact absurd stopped status.2
      | joining pid => exact ⟨Scene.Sole.still tends fun _ joining => joining.1.isUp, rfl⟩
  exact ⟨still.1, still.2, rfl⟩

/-! ## Where it does not stay stopped -/

/-- While no resolver is wanted, a process may still be asked for, or be up. -/
def Escapes (w : World) : Prop :=
  ∃ ns u, w.run ns = some u ∧ w.throughout isDisabled ns = true ∧
    (u.scene.live = 0 → u.scene.marks.starts ≠ w.scene.marks.starts)

theorem escapes_of_step {m : Move} (h : w.step m = some v) (disabled : w.isDisabled = true)
    (disabled' : v.isDisabled = true) (escapes : v.scene.live = 0 →
      v.scene.marks.starts ≠ w.scene.marks.starts) : w.Escapes := by
  refine ⟨[m], v, ?_, ?_, escapes⟩
  · rw [run_cons, h]
    rfl
  · unfold throughout
    rw [disabled, h]
    exact disabled'

theorem Escapes.of_step {m : Move} (hv : v.Escapes) (h : w.step m = some v)
    (disabled : w.isDisabled = true) (starts : v.scene.marks.starts = w.scene.marks.starts) :
    w.Escapes := by
  obtain ⟨ns, u, hu, later, escapes⟩ := hv
  refine ⟨m :: ns, u, ?_, ?_, starts ▸ escapes⟩
  · rw [run_cons, h]
    exact hu
  · unfold throughout
    rw [disabled, h]
    exact later

/-- A step of a refresh that is part of an attempt. -/
theorem step_refreshing {r r' : Refresh} {a : Answer} {s : Scene}
    (phase : w.watch.phase = .attempting (.refreshing r))
    (goes : r.resume a w.watch.scene = some (s, .waiting r')) :
    w.step (.watch (.answer a)) =
      some (w.setWatch { w.watch with scene := s, phase := .attempting (.refreshing r') }) := by
  simp only [step, Watch.resume, phase, Attempt.resume, goes, Option.map_some]

theorem escapes_of_writing (disabled : w.isDisabled = true)
    (phase : w.watch.phase = .attempting (.refreshing .writing)) : w.Escapes := by
  have goes : w.step (.watch (.answer (.configWritten none))) = some (w.setWatch { w.watch with
      scene := (w.watch.scene.requestProcess w.watch.scene.settings.resolver.detail).1
      phase := .attempting (.starting w.watch.scene.processes.length
        w.watch.scene.settings.keepNameserver) }) := by
    simp only [step, Watch.resume, phase, Attempt.resume, Refresh.resume, Attempt.refreshed,
      Option.map_some, Option.map_none]
    rfl
  refine escapes_of_step goes disabled disabled fun _ same => ?_
  have counted := Scene.marks_requestProcess w.watch.scene w.watch.scene.settings.resolver.detail
  exact Nat.succ_ne_self _ ((congrArg Marks.starts counted).symm.trans same)

theorem escapes_of_building {kept : Settings} (disabled : w.isDisabled = true)
    (phase : w.watch.phase = .attempting (.refreshing (.building kept))) : w.Escapes := by
  have goes : Refresh.resume (.building kept) (.listsBuilt {}) w.watch.scene =
      some (w.watch.scene.call (.writeConfig (Refresh.configured kept {})), .waiting .writing) := rfl
  have later : (w.setWatch { w.watch with
      scene := w.watch.scene.call (.writeConfig (Refresh.configured kept {}))
      phase := .attempting (.refreshing .writing) }).Escapes :=
    escapes_of_writing disabled rfl
  exact later.of_step (step_refreshing phase goes) disabled rfl

/-- A refresh that is part of an attempt may go on until the engine is asked for a process. -/
theorem escapes_of_refreshing {r : Refresh} (disabled : w.isDisabled = true)
    (phase : w.watch.phase = .attempting (.refreshing r)) : w.Escapes := by
  cases r with
  | settingUp kept =>
    have goes : Refresh.resume (.settingUp kept) (.filesSetUp none) w.watch.scene =
        some ((w.watch.scene.tell .fetchingLists).call (.buildLists kept.blocklistChoice),
          .waiting (.building kept)) := rfl
    have later : (w.setWatch { w.watch with
        scene := (w.watch.scene.tell .fetchingLists).call (.buildLists kept.blocklistChoice)
        phase := .attempting (.refreshing (.building kept)) }).Escapes :=
      escapes_of_building disabled rfl
    exact later.of_step (step_refreshing phase goes) disabled rfl
  | building kept => exact escapes_of_building disabled phase
  | writing => exact escapes_of_writing disabled phase

/-- A process that the engine was asked for may come up. -/
theorem escapes_of_starting {pid : Nat} {keep : Bool} (disabled : w.isDisabled = true)
    (tends : w.stance.Tends) (phase : w.watch.phase = .attempting (.starting pid keep)) :
    w.Escapes := by
  have asked : w.watch.scene.Sole (some pid) Process.IsAsked := by
    have shown : w.watch.scene.Shows w.watch.phase.hand := tends
    rwa [phase] at shown
  have goes : w.step (.watch (.answer (.started none))) = some (w.setWatch { w.watch with
      scene := (w.watch.scene.onProcess pid fun p => { p with stage := .up }).pointAt
        w.watch.scene.policy.resolverAddress .encrypted keep
      phase := .attempting (.pointing pid) }) := by
    simp only [step, Watch.resume, phase, Attempt.resume, Attempt.started, Option.map_some]
    rfl
  refine escapes_of_step goes disabled disabled fun none => ?_
  obtain ⟨p, found, -⟩ := asked.held pid rfl
  have up : (w.watch.scene.processes.modify pid fun p => { p with stage := .up })[pid]? =
      some { p with stage := .up } := by
    rw [List.getElem?_modify_eq, found]
    rfl
  cases Scene.still_of_live none _ (List.mem_of_getElem? up)

theorem Ventures.escapes (h : w.Ventures) (disabled : w.isDisabled = true) (tends : w.stance.Tends) :
    w.Escapes := by
  have here : w.scene.live ≠ 0 → w.Escapes :=
    fun live => ⟨[], w, rfl, disabled, fun none => absurd none live⟩
  unfold Ventures at h
  split at h
  next phase => exact escapes_of_refreshing disabled phase
  next phase => exact escapes_of_starting disabled tends phase
  next => exact here h
  next => exact here h
  next => exact here h
  next => exact h.elim

/-! ## Runs -/

variable {policy : Policy} {settings : Settings} {draws : Nat → Nat} {ms : List Move} {id : Nat}

/--
A caller that has stored new settings is told that the resolver stays stopped, since none is wanted.  It
does stay so, with no process up and none asked for as long as the stored settings want none, exactly
unless an attempt that was begun before goes on.  That is never the case in a run in which nobody gives
up, unless the watch was itself dropped, as it may leave a process behind that was told to stop.
-/
theorem stays_stopped_iff (h : (World.initial policy settings draws).run ms = some w)
    (hv : w.step (.caller id) = some v)
    (told : v.callers[id]? = some (.done (.settings (.ok .disabled))))
    (disabled : v.scene.settings.enabled = false) :
    ((∀ ns u, v.run ns = some u → v.throughout isDisabled ns = true → u.scene.live = 0 ∧
        u.scene.journal.count Event.isStart = v.scene.journal.count Event.isStart) ↔ ¬ v.Ventures) ∧
    ((World.initial policy settings draws).isPatient ms = true → v.watch.phase ≠ .dropped →
      ¬ v.Ventures) := by
  obtain ⟨o, settles, same⟩ := settles_of_disabled hv told
  have stance : v.stance = w.stance := congrArg Watch.stance same
  have agrees : v.stance.Agrees := stance ▸ run_agrees h
  refine ⟨⟨fun stays ventures => ?_, fun settled => ?_⟩, fun patient driven => ?_⟩
  · have disabled : v.isDisabled = true := by simp [isDisabled, disabled]
    obtain ⟨ns, u, hu, throughout, escapes⟩ := ventures.escapes disabled agrees.tends
    obtain ⟨live, starts⟩ := stays ns u hu throughout
    exact escapes live starts
  · have barren : v.stance.Barren v.scene.marks.starts := by
      obtain ⟨a, d, asked, step⟩ := settles
      obtain ⟨-, -, read⟩ | ⟨t, x, rfl, -, given⟩ := Desk.step_ok step
      · refine barren_of_stopped agrees ?_ settled
        show v.watch.scene.status = .stopped
        rw [same]
        exact read.1 rfl
      · have quiet : v.stance.IsQuiet := stance ▸ rests_of_given h asked given
        exact barren_of_rests agrees.tends quiet.2.2 settled
    intro ns u hu throughout
    obtain ⟨still, -, starts⟩ := ((run_sound h).step hv).run_barren hu throughout barren
    exact ⟨still.live, starts⟩
  · have quiet : v.stance.IsQuiet := stance ▸ rests_of_told h patient settles
    exact not_ventures_of_rests quiet.2.2 driven

/-- Settings that want no resolver. -/
def disabledSettings : Settings := { enabled := false, plaintextAddress := some .loopback }

/-- The moves from a first session to the end of its process, for a caller that disables the settings. -/
def firstDisabling : List Move :=
  firstSession ++ [.caller 0, .arrive (.setSettings disabledSettings), .caller 1, .caller 1, .caller 1,
    .caller 1, .caller 1, .caller 1, .watch .request, .watch (.answer (.systemPointed none)),
    .exit 0 .clean, .watch .ended]

theorem stays_stopped_after_first_session :
    ∃ w v, wanted.run firstDisabling = some w ∧ w.step (.caller 1) = some v ∧
      v.callers[1]? = some (.done (.settings (.ok .disabled))) ∧
      ∀ ns u, v.run ns = some u → v.throughout isDisabled ns = true →
        u.scene.live = 0 ∧ u.scene.journal.count Event.isStart = 1 := by
  have ran : ((wanted.run firstDisabling).any fun w => (w.step (.caller 1)).any fun v => decide
      (v.callers[1]? = some (.done (.settings (.ok .disabled))) ∧ v.scene.settings.enabled = false ∧
        v.watch.phase = .serving (.of 0) ∧ v.scene.journal.count Event.isStart = 1)) = true := by
    decide
  obtain ⟨w, hw, ran⟩ := (Option.any_eq_true _ _).1 ran
  obtain ⟨v, hv, ran⟩ := (Option.any_eq_true _ _).1 ran
  obtain ⟨told, disabled, serving, one⟩ := of_decide_eq_true ran
  obtain ⟨stays, settled⟩ := stays_stopped_iff hw hv told disabled
  have settled := settled (by decide) (by simp [serving])
  refine ⟨w, v, hw, hv, told, fun ns u hu throughout => ?_⟩
  obtain ⟨live, starts⟩ := stays.2 settled ns u hu throughout
  exact ⟨live, starts.trans one⟩

/-- The moves of a first start request that is abandoned during its attempt, up to where another caller
has stored settings that want no resolver. -/
def abandonedStart : List Move :=
  [.run, .watch (.answer (.systemPointed none)), .arrive (.setStatus .running), .caller 0, .caller 0,
    .caller 0, .caller 0, .watch .request, .watch (.answer (.systemPointed none)), .leave 0,
    .arrive (.setSettings disabledSettings), .caller 1]

/-- The moves of the caller from there to the end of its call. -/
def disabling : List Move := [.caller 1, .caller 1, .caller 1, .caller 1]

/-- The answers with which an attempt goes on from its refresh until a process is up. -/
def lateStart : List Move :=
  [.watch (.answer (.filesSetUp none)), .watch (.answer (.listsBuilt {})),
    .watch (.answer (.configWritten none)), .watch (.answer (.started none))]

/-- After a caller was told that the resolver stays stopped, a process comes up for a start request that
was abandoned. -/
theorem abandoned_start_comes_up :
    ∃ x v u, wanted.run abandonedStart = some x ∧ x.run disabling = some v ∧
      v.callers[1]? = some (.done (.settings (.ok .disabled))) ∧ v.run lateStart = some u ∧
      x.throughout isDisabled (disabling ++ lateStart) = true ∧
      v.scene.journal.count Event.isStart = 0 ∧ u.scene.journal.count Event.isStart = 1 ∧
      u.scene.live = 1 := by
  have ran : ((wanted.run abandonedStart).any fun x => (x.run disabling).any fun v =>
      (v.run lateStart).any fun u => x.throughout isDisabled (disabling ++ lateStart) && decide
        (v.callers[1]? = some (.done (.settings (.ok .disabled))) ∧
          v.scene.journal.count Event.isStart = 0 ∧ u.scene.journal.count Event.isStart = 1 ∧
          u.scene.live = 1)) = true := by
    decide
  obtain ⟨x, hx, ran⟩ := (Option.any_eq_true _ _).1 ran
  obtain ⟨v, hv, ran⟩ := (Option.any_eq_true _ _).1 ran
  obtain ⟨u, hu, ran⟩ := (Option.any_eq_true _ _).1 ran
  rw [Bool.and_eq_true] at ran
  obtain ⟨told, none, one, live⟩ := of_decide_eq_true ran.2
  exact ⟨x, v, u, hx, hv, told, hu, ran.1, none, one, live⟩

end World

end DnsWarden
