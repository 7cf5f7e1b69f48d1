import DnsWarden.Proofs.StatusByPlace

/-!
# Start requests that change nothing

A client that asks for a running resolver is told that nothing needs to change whenever the status is
not stopped.  `World.already_running_iff` says when this answer is right: when a process is kept or
attempts are made, and wrong in exactly the cases of `World.Strays`, the gravest of which is a refresh
that fails after the resolver was stopped and leaves the status crashed for good.
-/

namespace DnsWarden

/-! ## Where the answer is right -/

namespace Phase

/-- The session that the watch serves, or is about to end for a stop request. -/
def session? : Phase → Option Session
  | .serving session | .retreating (.halt session _) => some session
  | _ => none

/-- Whether the watch attempts to bring a resolver up, or pauses before it does so again. -/
def attempts : Phase → Bool
  | .attempting _ | .pausing _ _ => true
  | .retreating (.pause _) | .retreating .disable => true
  | _ => false

/-- Whether the watch is between a session, or its first wait, and the next attempt. -/
def turns : Phase → Bool
  | .retreating .attempt | .retreating (.recover _ _) | .clearing _ (.restart _) => true
  | _ => false

/-- Whether the watch waits for the end of a process that it was told to stop. -/
def halts : Phase → Bool
  | .halting _ _ => true
  | _ => false

/-- Whether the watch was begun and has not ended. -/
def isActive : Phase → Bool
  | .unborn | .returned | .dropped => false
  | _ => true

end Phase

namespace World

/-- The watch has a session whose process was neither told to stop nor its end received. -/
def HasProcess (w : World) : Prop := ∃ session ∈ w.watch.phase.session?, w.scene.Keeps session

/-- A refresh failed after the status was stored last, although the watch has no process. -/
def Misled (w : World) : Prop :=
  (∃ session ∈ w.watch.phase.session?, ¬ w.scene.Keeps session) ∧
    w.scene.status = .crashed ∧ w.scene.refreshFailedLast = true

/-- The watch neither has a process nor attempts to bring one up, though the status is not stopped. -/
def Strays (w : World) : Prop :=
  w.Misled ∨ w.watch.phase.halts = true ∨ w.watch.phase.turns = true

variable {policy : Policy} {settings : Settings} {draws : Nat → Nat} {ms : List Move} {w : World}

/-- What the status says of a session that the watch has while the status is not stopped. -/
theorem hasProcess_or_misled {session : Session} (held : w.watch.phase.session? = some session)
    (left : w.scene.status ≠ .stopped) (serves : w.scene.Serves session) :
    w.HasProcess ↔ ¬ w.Misled := by
  by_cases kept : w.scene.Keeps session
  · refine iff_of_true ⟨session, held, kept⟩ ?_
    rintro ⟨⟨other, held', lost⟩, -⟩
    obtain rfl := Option.some.inj (held.symm.trans held')
    exact lost kept
  · refine iff_of_false ?_ (not_not_intro ⟨⟨session, held, kept⟩, ?_⟩)
    · rintro ⟨other, held', kept'⟩
      obtain rfl := Option.some.inj (held.symm.trans held')
      exact kept kept'
    · obtain stopped | overwritten := serves.2 kept
      · exact absurd stopped left
      · exact overwritten

/--
A client that asks a working watch for a running resolver is told that nothing needs to change.  Then
the watch has a process that is neither told to stop nor known to have ended, or it attempts to bring
one up or pauses before it does so again, unless the status was overwritten by a refresh that failed
after the resolver was stopped, a process is being stopped for a client that has gone away, or the
watch is just turning from a session to the next attempt.
-/
theorem already_running_iff (h : (World.initial policy settings draws).run ms = some w)
    (active : w.watch.phase.isActive = true) (uncancelled : w.scene.cancelled = false) {c : Client}
    {x : Status} (already : w.Settles c .running (.ok (.already x))) :
    (w.HasProcess ∨ w.watch.phase.attempts = true) ↔ ¬ w.Strays := by
  obtain ⟨a, d, -, step⟩ := already
  have left : w.scene.status ≠ .stopped := by
    obtain ⟨-, -, same⟩ | ⟨t, y, -, told, -⟩ := Desk.step_ok step
    · intro stopped
      cases same.2 stopped
    · cases told
  have agrees : w.watch.phase.Agrees w.scene := (run_agrees h).status
  have without : w.watch.phase.session? = none → ¬ w.HasProcess ∧ ¬ w.Misled := by
    intro none
    constructor
    · rintro ⟨session, held, -⟩
      rw [none] at held
      cases held
    · rintro ⟨⟨session, held, -⟩, -⟩
      rw [none] at held
      cases held
  unfold Strays
  cases phase : w.watch.phase with
  | unborn | returned | dropped =>
    rw [phase] at active
    cases active
  | idle =>
    rw [phase] at agrees
    exact absurd agrees left
  | serving session =>
    rw [phase] at agrees
    have serves := hasProcess_or_misled (by rw [phase]; rfl) left agrees
    simp [Phase.attempts, Phase.halts, Phase.turns, serves]
  | attempting a | pausing deadline after | halting session reply =>
    have without := without (by rw [phase]; rfl)
    simp [Phase.attempts, Phase.halts, Phase.turns, without]
  | retreating after =>
    rw [phase] at agrees
    cases after with
    | idle => exact absurd agrees left
    | halt session reply =>
      have serves := hasProcess_or_misled (by rw [phase]; rfl) left agrees
      simp [Phase.attempts, Phase.halts, Phase.turns, serves]
    | _ =>
      have without := without (by rw [phase]; rfl)
      simp [Phase.attempts, Phase.halts, Phase.turns, without]
  | clearing t after =>
    rw [phase] at agrees
    cases after with
    | finish =>
      have cancelled : w.scene.cancelled = true := agrees.1
      rw [uncancelled] at cancelled
      cases cancelled
    | restart reply =>
      have without := without (by rw [phase]; rfl)
      simp [Phase.attempts, Phase.halts, Phase.turns, without]

theorem settles_already {w : World} {c : Client} (asks : w.ask? c = some (.running, .reading))
    (left : w.scene.status ≠ .stopped) : w.Settles c .running (.ok (.already w.scene.status)) := by
  refine ⟨.reading, w.warden.desk.leave c, asks, ?_⟩
  have left : w.warden.desk.scene.status ≠ .stopped := left
  simp only [Desk.step, Desk.decide, if_neg left]
  rfl

theorem already_running_while_up :
    ∃ w, wanted.run (firstSession ++ [.caller 0, .arrive (.setStatus .running), .caller 1, .caller 1]) =
        some w ∧
      w.Settles (.caller 1) .running (.ok (.already .running)) ∧ w.HasProcess := by
  have ran : ((wanted.run
      (firstSession ++ [.caller 0, .arrive (.setStatus .running), .caller 1, .caller 1])).any fun w =>
        decide (w.watch.phase = .serving (.of 0) ∧ w.scene.cancelled = false ∧
          w.ask? (.caller 1) = some (.running, .reading) ∧ w.scene.status = .running)) = true := by
    decide
  obtain ⟨w, hw, ran⟩ := (Option.any_eq_true _ _).1 ran
  obtain ⟨serving, uncancelled, asks, running⟩ := of_decide_eq_true ran
  have already := settles_already asks (by rw [running]; nofun)
  rw [running] at already
  have straight : ¬ w.Strays := by
    rintro (⟨-, crashed, -⟩ | halts | turns)
    · rw [running] at crashed
      cases crashed
    · rw [serving] at halts
      cases halts
    · rw [serving] at turns
      cases turns
  obtain process | attempts :=
    (already_running_iff hw (by rw [serving]; rfl) uncancelled already).2 straight
  · exact ⟨w, hw, already, process⟩
  · rw [serving] at attempts
    cases attempts

/-- A warden before anything has happened, whose settings want a resolver and a refresh every minute. -/
def periodic : World :=
  .initial {}
    { enabled := true, plaintextAddress := some .loopback, updatePeriod := .ofSeconds 60 } fun _ => 0

/-- The moves of a stop request that is acknowledged during a periodic refresh, up to the failure of the
refresh and a start request after it. -/
def lateFailure : List Move :=
  [.caller 0, .beginRefresher, .pass 60000000000, .refresher .rang,
    .arrive (.setStatus .stopped), .caller 1, .caller 1, .caller 1, .caller 1, .watch .request,
    .watch (.answer (.systemPointed none)), .exit 0 .clean, .watch .ended, .caller 1,
    .refresher (.answer (.filesSetUp (some (.other (.root "unreachable"))))),
    .arrive (.setStatus .running), .caller 2, .caller 2]

/-- After a stop that was acknowledged, a refresh that fails late makes the watch refuse a start. -/
theorem start_refused_after_stop :
    ∃ w, periodic.run (firstSession ++ lateFailure) = some w ∧
      w.watch.phase.isActive = true ∧ w.scene.cancelled = false ∧
      w.Settles (.caller 2) .running (.ok (.already .crashed)) ∧
      ¬ (w.HasProcess ∨ w.watch.phase.attempts = true) ∧ w.scene.live = 0 := by
  have ran : ((periodic.run (firstSession ++ lateFailure)).any fun w => decide
      (w.watch.phase = .serving (.of 0) ∧ w.scene.cancelled = false ∧
        w.ask? (.caller 2) = some (.running, .reading) ∧ w.scene.status = .crashed ∧
        ¬ w.scene.Keeps (.of 0) ∧ w.scene.live = 0)) = true := by
    decide
  obtain ⟨w, hw, ran⟩ := (Option.any_eq_true _ _).1 ran
  obtain ⟨serving, uncancelled, asks, crashed, lost, live⟩ := of_decide_eq_true ran
  have already := settles_already asks (Status.ne_stopped_of_crashed crashed)
  rw [crashed] at already
  refine ⟨w, hw, by rw [serving]; rfl, uncancelled, already, ?_, live⟩
  · rintro (⟨session, held, kept⟩ | attempts)
    · rw [serving] at held
      obtain rfl := Option.some.inj held
      exact lost kept
    · rw [serving] at attempts
      cases attempts

end World

end DnsWarden
