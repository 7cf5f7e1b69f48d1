import DnsWarden.Proofs.Hall
import DnsWarden.Proofs.Histories
import DnsWarden.Proofs.Pointing

/-!
# The status where the watch is parked

Wherever the watch is parked, the stored status agrees with what it waits for:
`World.status_agrees_where_parked` says how.  Two of its parts are not about the watch alone.  That no
stop request is in the mailbox before the first start request is about clients, who ask for none while
the status is stopped, and that a session which is served has passed its probe is about an earlier move
of the run.
-/

namespace DnsWarden

/-! ## Before the first start request -/

/-- Until its first start request the status is stopped, and no client asks for a stop. -/
structure Hall.Opens (h : Hall) : Prop where
  stopped : h.stance.stand.isEarly = true → h.stance.scene.status = .stopped
  sending : h.stance.stand.isEarly = true → ∀ c desired t, h.asks c ≠ some (desired, .sending (.stop t))
  mailbox : h.stance.stand.isEarly = true → ∀ t, h.stance.mailbox ≠ some (.stop t)

theorem Hall.Opens.doing {h h' : Hall} (doing : Doing h h') (opens : h.Opens) : h'.Opens := by
  have before : h'.stance.stand.isEarly = true → h.stance.stand.isEarly = true := fun early => by
    refine eq_true_of_ne_false fun late => ?_
    rw [doing.keep Shift.late late] at early
    cases early
  refine ⟨doing.keep Shift.stopped opens.stopped, fun early c desired t asked => ?_,
    fun early t sent => ?_⟩
  · obtain asked | wanted := doing.sending asked
    · exact opens.sending (before early) c desired t asked
    · cases wanted.2 (opens.stopped (before early))
  · obtain sent | ⟨c, desired, asked⟩ := doing.mailbox sent
    · exact opens.mailbox (before early) t sent
    · exact opens.sending (before early) c desired t asked

/-! ## The process that is served -/

/-- The process of the session that is served, also on the way to its stop. -/
def AfterRetreat.served? : AfterRetreat → Option Nat
  | .halt session _ => session.pid?
  | _ => none

def Phase.served? : Phase → Option Nat
  | .retreating after => after.served?
  | .serving session | .halting session _ => session.pid?
  | _ => none

def Stand.served? : Stand → Option Nat
  | .waiting p => p.served?
  | .retreating _ after | .resuming after => after.served?
  | _ => none

section

variable {x y : Stance} {pid : Nat}

/-- A process is served only where it was before, or where its probe was answered. -/
theorem Stride.served (h : Stride x y) (served : y.stand.served? = some pid) :
    x.stand.served? = some pid ∨
      ∃ deadline, x.stand = .waiting (.attempting (.probing pid deadline)) := by
  cases h with
  | @ready s m pid deadline =>
    cases served
    exact .inr ⟨deadline, rfl⟩
  | retreat | strand | retreated | stopServing | halt | haltQuiet | halted => exact .inl served
  | _ => cases served

theorem Walk.served (h : Walk x y) (served : y.stand.served? = some pid) :
    x.stand.served? = some pid := by
  induction h with
  | wait => exact served
  | go onWay first _ ih =>
    obtain before | ⟨deadline, waits⟩ := first.served (ih served)
    · exact before
    · rw [waits] at onWay
      cases onWay

theorem Passage.served (h : Passage x y) (served : y.stand.served? = some pid) :
    x.stand.served? = some pid ∨
      ∃ deadline, x.stand = .waiting (.attempting (.probing pid deadline)) := by
  cases h with
  | tread h =>
    obtain ⟨z, first, rest⟩ := h
    exact first.served (rest.served served)
  | nudges h => exact .inl (h.stand ▸ served)
  | drop _ _ => cases served

/-- A process whose probe failed is not served. -/
theorem Attempt.probed_failed {s s' : Scene} {f : ProbeFault} {n : Attempt.Next}
    (h : Attempt.probed s pid (some f) = (s', n)) : ∃ t, n = .waiting (.clearing f t) := by
  unfold Attempt.probed at h
  dsimp only at h
  split at h
  · exact ⟨_, (Prod.mk.inj h).2.symm⟩
  · next ends => cases (Teardown.begin_eq_none ends).1

/-- The wait for the answer to a probe leads to a session only if the answer is good. -/
theorem Watch.resume_probing {w v : Watch} {i : Input} {deadline : Nat}
    (probing : w.phase = .attempting (.probing pid deadline)) (h : w.resume i = some v)
    (served : v.phase.served?.isSome = true) : i = .answer (.probed none) := by
  obtain ⟨s, p, m⟩ := w
  obtain rfl : p = .attempting (.probing pid deadline) := probing
  obtain ⟨⟨s', n⟩, hn, hv⟩ := Option.map_eq_some_iff.1 h
  have clears : ∀ f, Attempt.probed s pid (some f) = (s', n) → False := by
    intro f failed
    obtain ⟨t, rfl⟩ := Attempt.probed_failed failed
    cases hv
    cases served
  cases i with
  | elapsed =>
    simp only [Attempt.resume] at hn
    split_ifs at hn
    exact (clears _ (Option.some.inj hn)).elim
  | answer a =>
    cases a with
    | probed failure =>
      cases failure with
      | none => rfl
      | some f => exact (clears f (Option.some.inj hn)).elim
    | _ => cases hn
  | _ => cases hn

end

/-! ## The probe that was passed -/

namespace World

variable {w v : World} {m : Move}

/-- The probe of a process was answered without a failure in the course of a run. -/
def Passes (w : World) (ms : List Move) (pid : Nat) : Prop :=
  ∃ before after u deadline, ms = before ++ .watch (.answer (.probed none)) :: after ∧
    w.run before = some u ∧ u.watch.phase = .attempting (.probing pid deadline)

theorem step_served {pid : Nat} (h : w.step m = some v) (sound : w.Sound)
    (served : v.watch.phase.served? = some pid) :
    w.watch.phase.served? = some pid ∨ m = .watch (.answer (.probed none)) ∧
      ∃ deadline, w.watch.phase = .attempting (.probing pid deadline) := by
  obtain before | ⟨deadline, waits⟩ := (sound.passage h).served served
  · exact .inl before
  have probing : w.watch.phase = .attempting (.probing pid deadline) := Stand.waiting.inj waits
  refine .inr ⟨?_, deadline, probing⟩
  have stays : m.isWatch = false → False := fun other => by
    have same : v.watch.phase = w.watch.phase := Stand.waiting.inj (step_nudges h other sound).stand
    rw [same, probing] at served
    cases served
  cases m with
  | watch i =>
    obtain ⟨x, hx, rfl⟩ := Option.map_eq_some_iff.1 h
    have served : x.phase.served? = some pid := served
    rw [Watch.resume_probing probing hx (by rw [served]; rfl)]
  | run =>
    simp only [step] at h
    split_ifs at h with unborn
    rw [unborn] at probing
    cases probing
  | dropWatch =>
    simp only [step] at h
    split_ifs at h
    cases h
    cases served
  | _ => exact (stays rfl).elim

variable {policy : Policy} {settings : Settings} {draws : Nat → Nat} {ms : List Move}

/-- A process that is served has passed its probe. -/
theorem run_passes {pid : Nat} (h : (World.initial policy settings draws).run ms = some w)
    (served : w.watch.phase.served? = some pid) :
    (World.initial policy settings draws).Passes ms pid := by
  refine run_history (J := fun before u => ∀ pid, u.watch.phase.served? = some pid →
    (World.initial policy settings draws).Passes before pid) h nofun ?_ pid served
  intro before m u v hu hv passes pid served
  obtain old | ⟨rfl, deadline, probing⟩ := step_served hv (run_sound hu) served
  · obtain ⟨first, last, x, deadline, rfl, hx, probing⟩ := passes pid old
    exact ⟨first, last ++ [m], x, deadline, by simp, hx, probing⟩
  · exact ⟨before, [], u, deadline, rfl, hu, probing⟩

theorem run_opens (h : (World.initial policy settings draws).run ms = some w) : w.hall.Opens := by
  apply run_uphold (fun _ _ => Hall.Opens.doing) h
  refine ⟨fun _ => rfl, fun _ c desired t asked => ?_, nofun⟩
  cases c <;> cases asked

/-- Where the watch is parked without a session that it keeps, the status is not running. -/
theorem not_running_of_parked (agrees : w.watch.phase.Agrees w.scene)
    (parked : w.watch.phase.isParked = true) (left : ¬ w.KeepsSession) :
    w.scene.status ≠ .running := by
  intro running
  cases phase : w.watch.phase with
  | serving session =>
    rw [phase] at agrees
    obtain stopped | ⟨crashed, -⟩ := agrees.2 fun kept => left ⟨session, phase, kept⟩
    · cases running.symm.trans stopped
    · cases running.symm.trans crashed
  | idle | pausing _ _ =>
    rw [phase] at agrees
    cases running.symm.trans agrees
  | _ =>
    rw [phase] at parked
    cases parked

/--
Wherever the watch is parked, the stored status agrees.  While it waits for its first start request
the status is stopped, and no stop request is in the mailbox; in a pause it is crashed; with a session
whose process was neither told to stop nor its end received it is running or crashed; with any other
session it is not running.  So among these places the status is running only with such a session, and
its process has passed its probe.
-/
theorem status_agrees_where_parked (h : (World.initial policy settings draws).run ms = some w) :
    (w.watch.phase = .idle → w.scene.status = .stopped ∧ ∀ t, w.watch.mailbox ≠ some (.stop t)) ∧
    (∀ deadline after, w.watch.phase = .pausing deadline after → w.scene.status = .crashed) ∧
    (∀ session, w.watch.phase = .serving session →
      (w.scene.Keeps session → w.scene.status = .running ∨ w.scene.status = .crashed) ∧
      (¬ w.scene.Keeps session → w.scene.status ≠ .running)) ∧
    (w.watch.phase.isParked = true → w.scene.status = .running →
      ∃ pid, w.watch.phase = .serving (.of pid) ∧ w.scene.Keeps (.of pid) ∧
        (World.initial policy settings draws).Passes ms pid) := by
  have agrees : w.watch.phase.Agrees w.scene := (run_agrees h).status
  have idle : w.watch.phase = .idle →
      w.scene.status = .stopped ∧ ∀ t, w.watch.mailbox ≠ some (.stop t) := by
    intro idle
    have early : w.stance.stand.isEarly = true := by
      unfold stance Watch.stance
      rw [idle]
      rfl
    exact ⟨(run_opens h).stopped early, (run_opens h).mailbox early⟩
  have pausing : ∀ deadline after, w.watch.phase = .pausing deadline after →
      w.scene.status = .crashed := by
    intro deadline after pausing
    rw [pausing] at agrees
    exact agrees
  have serving : ∀ session, w.watch.phase = .serving session →
      (w.scene.Keeps session → w.scene.status = .running ∨ w.scene.status = .crashed) ∧
      (¬ w.scene.Keeps session → w.scene.status ≠ .running) := by
    intro session serving
    refine ⟨fun kept => ?_, fun left => ?_⟩
    · rw [serving] at agrees
      cases status : w.scene.status with
      | stopped => exact absurd status (agrees.1 kept)
      | running => exact .inl rfl
      | crashed => exact .inr rfl
    · refine not_running_of_parked agrees (by rw [serving]; rfl) ?_
      rintro ⟨session', phase, kept⟩
      obtain rfl : session = session' := Phase.serving.inj (serving.symm.trans phase)
      exact left kept
  refine ⟨idle, pausing, serving, fun parked running => ?_⟩
  obtain ⟨session, phase, kept⟩ : w.KeepsSession :=
    Classical.not_not.1 fun left => not_running_of_parked agrees parked left running
  obtain ⟨pid, p, held, found, unheard⟩ := kept
  obtain rfl : session = .of pid := by
    cases session
    cases held
    rfl
  refine ⟨pid, phase, ⟨pid, p, held, found, unheard⟩, run_passes h ?_⟩
  rw [phase]
  rfl

theorem status_agrees_in_first_session :
    ∃ w, wanted.run firstSession = some w ∧ w.watch.phase = .serving (.of 0) ∧
      w.scene.status = .running ∧ w.scene.Keeps (.of 0) ∧ wanted.Passes firstSession 0 := by
  have ran : ((wanted.run firstSession).any fun w => decide
      (w.watch.phase = .serving (.of 0) ∧ w.scene.status = .running)) = true := by
    decide
  obtain ⟨w, hw, ran⟩ := (Option.any_eq_true _ _).1 ran
  obtain ⟨serving, running⟩ := of_decide_eq_true ran
  obtain ⟨pid, phase, kept, passes⟩ :=
    (status_agrees_where_parked hw).2.2.2 (by rw [serving]; rfl) running
  rw [serving] at phase
  cases phase
  exact ⟨w, hw, serving, running, kept, passes⟩

end World

end DnsWarden
