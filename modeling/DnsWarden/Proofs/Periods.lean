import DnsWarden.Proofs.PeriodicStarts
import DnsWarden.Proofs.Timer

/-!
# The timer follows the stored period

Settings may be stored at any time: before the refresher begins, while it waits, or in the middle of
a restart.  `World.timer_follows_period` says that no change of the period is lost: wherever the
refresher waits and has word of no change, the timer was set from the period that is stored now,
unless the last restart was skipped.  An alarm that is set is due when that period ends.
-/

namespace DnsWarden

/-- What the timer has come to since it was set last. -/
inductive Stage where
  | set
  | ticked
  /-- It has ticked, and the restart was skipped. -/
  | skipped

/-- The timer was set last from the period `p`, has come to this stage since, and only settings with
this period were stored meanwhile. -/
inductive Since (p : Duration) : Stage → List Timing → Prop where
  | set {t l} : Since p .set (.set t p :: l)
  | ticked {t l} (h : Since p .set l) : Since p .ticked (.ticked t :: l)
  | skipped {f l} (h : Since p .ticked l) : Since p .skipped (.skipped f :: l)
  | stored {stage l} (h : Since p stage l) : Since p stage (.stored p :: l)

namespace Dial

/-- The timer and its history agree with the stored period. -/
def Follows (x : Dial) : Prop :=
  match x.mode with
  | .unborn | .gone => True
  | .waiting s =>
    Since x.period .set x.timings ∧ (s.alarm.deadline.isSome = true ↔ x.period ≠ .zero) ∨
      Since x.period .skipped x.timings ∧ s.alarm = .off
  | .restarting s => Since x.period .ticked x.timings ∧ s.alarm = .off

/-- The timer follows the stored period, or the refresher has word of a change or will have it. -/
def Heeds (x : Dial) : Prop := x.word = true ∨ x.telling = true ∨ x.Follows

/-- A timer that is set from the stored period follows it, armed unless the period is zero. -/
theorem set_follows (x : Dial) {s : Option Schedule} {due : Nat} {last : Option Nat}
    (h : ∀ s', s = some s' → s' = ⟨⟨if x.period = .zero then none else some due⟩, last⟩) :
    (x.set x.period s).Follows := by
  cases s with
  | none => trivial
  | some s =>
    refine .inl ⟨.set, ?_⟩
    rw [h s rfl]
    dsimp only [set]
    split_ifs with zero
    · exact iff_of_false (by simp) (not_not_intro zero)
    · exact iff_of_true rfl zero

variable {x y : Dial}

/-- Settings with the period that is stored already leave the timer as it is. -/
theorem Follows.stored (h : x.Follows) :
    { x with timings := .stored x.period :: x.timings }.Follows := by
  unfold Follows at h ⊢
  dsimp only
  cases mode : x.mode with
  | unborn | gone => trivial
  | waiting s =>
    rw [mode] at h
    obtain ⟨since, armed⟩ | ⟨since, off⟩ := h
    · exact .inl ⟨.stored since, armed⟩
    · exact .inr ⟨.stored since, off⟩
  | restarting s =>
    rw [mode] at h
    exact ⟨.stored h.1, h.2⟩

theorem Step.heeds (h : Step x y) (hx : x.Heeds) : y.Heeds := by
  cases h with
  | rest keeps =>
    obtain word | telling | follows := hx
    · exact .inl word
    · exact .inr (.inl (keeps telling))
    · exact .inr (.inr follows)
  | pass => exact hx
  | @store period telling tells =>
    by_cases told : telling = true
    · exact .inr (.inl told)
    obtain ⟨quiet, same⟩ : x.telling = false ∧ period = x.period := by
      refine ⟨eq_false_of_ne_true fun h => told (tells (.inl h)), ?_⟩
      exact Classical.not_not.1 fun h => told (tells (.inr h))
    obtain word | tells | follows := hx
    · exact .inl word
    · cases quiet.symm.trans tells
    · subst same
      exact .inr (.inr follows.stored)
  | tell => exact .inl rfl
  | begin _ => exact .inr (.inr (x.set_follows fun s hs => Schedule.rearm?_eq_some hs))
  | @ring s waits rings =>
    refine hx.imp_right (Or.imp_right fun follows => ?_)
    unfold Follows at follows
    rw [waits] at follows
    obtain ⟨since, -⟩ | ⟨-, off⟩ := follows
    · exact ⟨.ticked since, rfl⟩
    · rw [off] at rings
      cases rings
  | @reschedule s waits word =>
    exact .inr (.inr (set_follows _ fun s' hs => Schedule.reschedule?_eq_some hs))
  | @skip s restarts f =>
    refine hx.imp_right (Or.imp_right fun follows => .inr ?_)
    unfold Follows at follows
    rw [restarts] at follows
    exact ⟨.skipped follows.1, follows.2⟩
  | @rearm s restarts =>
    exact .inr (.inr (x.set_follows fun s' hs => Schedule.rearm?_eq_some hs))
  | stop => exact .inr (.inr trivial)

/-! ## What the alarm is due for -/

/-- A schedule whose alarm is due, if it is set, when the period ends from which the timer was set last.
The period began when the timer was set or, if it was set for what was left, with the last tick. -/
structure Aims (x : Dial) (s : Schedule) : Prop where
  past : ∀ t, s.lastTick = some t → t ≤ x.now
  due : ∀ d, s.alarm.deadline = some d → ∃ i p, Timing.set? x.timings = some (i, p) ∧ p ≠ .zero ∧
    (d = i + p.nanos ∨ d = s.due i p)

/-- The refresher has no other schedules. -/
def Aimed (x : Dial) : Prop := ∀ s, x.mode.schedule? = some s → x.Aims s

theorem Aims.congr {s : Schedule} (h : x.Aims s)
    (same : Timing.set? y.timings = Timing.set? x.timings) (later : x.now ≤ y.now) : y.Aims s := by
  refine ⟨fun t ticked => Nat.le_trans (h.past t ticked) later, fun d hd => ?_⟩
  rw [same]
  exact h.due d hd

/-- A timer that is set for the end of a whole period, or of one that began with the last tick. -/
theorem aimed_set (x : Dial) {made : Option Schedule} {due : Nat} {last : Option Nat}
    (past : ∀ t, last = some t → t ≤ x.now)
    (ends : due = x.now + x.period.nanos ∨ due = Schedule.due ⟨.off, last⟩ x.now x.period)
    (h : ∀ s, made = some s → s = ⟨⟨if x.period = .zero then none else some due⟩, last⟩) :
    (x.set x.period made).Aimed := by
  cases made with
  | none => exact nofun
  | some s =>
    rintro s' ⟨⟩
    rw [h s rfl]
    refine ⟨past, fun d hd => ?_⟩
    dsimp only at hd
    split_ifs at hd with zero
    obtain rfl : due = d := Option.some.inj hd
    exact ⟨x.now, x.period, rfl, zero, ends⟩

theorem Step.aimed (h : Step x y) (hx : x.Aimed) : y.Aimed := by
  cases h with
  | rest | tell | store => exact fun s hs => (hx s hs).congr rfl (Nat.le_refl _)
  | pass => exact fun s hs => (hx s hs).congr rfl (Nat.le_add_right _ _)
  | begin _ =>
    have unticked : ∀ t, none = some t → t ≤ x.now := nofun
    exact x.aimed_set unticked (.inl rfl) fun s hs => Schedule.rearm?_eq_some hs
  | ring waits rings =>
    rintro s ⟨⟩
    refine ⟨?_, nofun⟩
    rintro t ⟨⟩
    exact Nat.le_refl _
  | @reschedule s waits word =>
    have past := (hx s (by rw [waits]; rfl)).past
    exact aimed_set { x with word := false } past (.inr (Schedule.now_add_left past)) fun s' hs =>
      Schedule.reschedule?_eq_some hs
  | @skip s restarts f =>
    rintro s' ⟨⟩
    exact (hx s (by rw [restarts]; rfl)).congr rfl (Nat.le_refl _)
  | @rearm s restarts =>
    have past := (hx s (by rw [restarts]; rfl)).past
    exact x.aimed_set past (.inl rfl) fun s' hs => Schedule.rearm?_eq_some hs
  | stop => exact nofun

end Dial

namespace World

variable {w : World}

/-- A call that has stored another period tells the refresher with its next step. -/
theorem tells_next {id : Nat} {new old : Settings} (found : w.callers[id]? = some (.stored new old))
    (changed : old.updatePeriod ≠ new.updatePeriod) :
    ∃ v, w.step (.caller id) = some v ∧ v.warden.periodChanged = true := by
  have other : old ≠ new := fun same => changed (same ▸ rfl)
  refine ⟨w.compare id new old, by simp [step, caller?, found], ?_⟩
  unfold compare
  rw [if_neg other, if_pos changed]
  dsimp only
  split_ifs <;> rfl

variable {policy : Policy} {settings : Settings} {draws : Nat → Nat} {ms : List Move}

/-- In every run the timer follows the stored period, or the refresher has word or will have it. -/
theorem run_heeds_period (h : (World.initial policy settings draws).run ms = some w) : w.dial.Heeds :=
  run_dial (fun _ _ => Dial.Step.heeds) h (.inr (.inr trivial))

theorem run_follows (h : (World.initial policy settings draws).run ms = some w)
    (unchanged : w.warden.periodChanged = false) (untold : ∀ c ∈ w.callers, c.tellsChange = false) :
    w.dial.Follows := by
  obtain word | tells | follows := run_heeds_period h
  · cases unchanged.symm.trans word
  · obtain ⟨c, here, tells⟩ := List.any_eq_true.1 tells
    cases (untold c here).symm.trans tells
  · exact follows

theorem run_aimed (h : (World.initial policy settings draws).run ms = some w) : w.dial.Aimed :=
  run_dial (fun _ _ => Dial.Step.aimed) h nofun

/--
Wherever the refresher waits, has word of no change and nobody is about to tell it of one, its timer
was set last from the period that is stored now, and is armed unless this is zero; or it has ticked
since, the restart was skipped, the period has stayed the same, and the timer is off.  No change is
lost: once the refresher has begun, settings with another period than the timer was set from are not
stored without word of it, who has to tell it does so next, and the refresher can take the word
wherever it waits.  An alarm that is set is due when the period ends from which the timer was set last,
counted from then or from the last tick.
-/
theorem timer_follows_period (h : (World.initial policy settings draws).run ms = some w) :
    (∀ s, w.warden.refresher = .waiting s → w.warden.periodChanged = false →
      (∀ c ∈ w.callers, c.tellsChange = false) →
        Since w.scene.settings.updatePeriod .set w.scene.journal.timings ∧
            (s.alarm.deadline.isSome = true ↔ w.scene.settings.updatePeriod ≠ .zero) ∨
          Since w.scene.settings.updatePeriod .skipped w.scene.journal.timings ∧ s.alarm = .off) ∧
    (w.warden.refreshes = true → w.warden.periodChanged = false →
      (∀ c ∈ w.callers, c.tellsChange = false) →
        ∃ stage, Since w.scene.settings.updatePeriod stage w.scene.journal.timings) ∧
    (∀ id new old, w.callers[id]? = some (.stored new old) → old.updatePeriod ≠ new.updatePeriod →
      ∃ v, w.step (.caller id) = some v ∧ v.warden.periodChanged = true) ∧
    (∀ s, w.warden.refresher = .waiting s → w.warden.periodChanged = true →
      ∃ v, w.step (.refresher .periodChanged) = some v ∧ v.warden.periodChanged = false ∧
        (v.warden.refresher = .broken ∨
          Since w.scene.settings.updatePeriod .set v.scene.journal.timings)) ∧
    ∀ s d, w.warden.refresher = .waiting s → s.alarm.deadline = some d →
      ∃ i p, Timing.set? w.scene.journal.timings = some (i, p) ∧ p ≠ .zero ∧
        (d = i + p.nanos ∨ d = s.due i p) := by
  refine ⟨fun s waits unchanged untold => ?_, fun refreshes unchanged untold => ?_,
    fun id new old => tells_next, fun s waits word => ?_, fun s d waits armed => ?_⟩
  · have follows := run_follows h unchanged untold
    unfold Dial.Follows dial at follows
    rw [waits] at follows
    exact follows
  · have follows := run_follows h unchanged untold
    unfold Dial.Follows dial at follows
    unfold Warden.refreshes at refreshes
    cases mode : w.warden.refresher with
    | unborn | returned | broken | dropped =>
      rw [mode] at refreshes
      cases refreshes
    | waiting s =>
      rw [mode] at follows
      obtain ⟨since, -⟩ | ⟨since, -⟩ := follows
      · exact ⟨_, since⟩
      · exact ⟨_, since⟩
    | refreshing s r | stopping s a | starting s a =>
      rw [mode] at follows
      exact ⟨_, follows.1⟩
  · refine ⟨_, step_periodChanged waits word, ?_⟩
    unfold Warden.scheduled
    cases s.reschedule? w.scene.now w.scene.settings.updatePeriod with
    | none => exact ⟨rfl, .inl rfl⟩
    | some s' => exact ⟨rfl, .inr .set⟩
  · exact (run_aimed h s (schedule?_dial waits)).due d armed

/-- The moves after which a refresher waits that has skipped a restart. -/
def skippedRestart : List Move :=
  drivenSession ++ tick ++ [.refresher (.answer (.filesSetUp (some (.other (.root "unreachable")))))]

/-- The moves of a call that stores settings with a shorter period, and tells the refresher. -/
def shorterPeriod : List Move :=
  [.arrive (.setSettings { enabled := true, updatePeriod := .ofSeconds 30 }), .caller 1, .caller 1]

theorem timer_follows_shorter_period :
    ∃ w u v, periodic.run skippedRestart = some w ∧
      w.warden.refresher = .waiting ⟨.off, some 60000000000⟩ ∧
      Since (.ofSeconds 60) .skipped w.scene.journal.timings ∧ w.run shorterPeriod = some u ∧
      u.step (.refresher .periodChanged) = some v ∧
      Since (.ofSeconds 30) .set v.scene.journal.timings := by
  have ran : ((periodic.run skippedRestart).any fun w => (w.run shorterPeriod).any fun u => decide
      (w.warden.refresher = .waiting ⟨.off, some 60000000000⟩ ∧ w.warden.periodChanged = false ∧
        (∀ c ∈ w.callers, c.tellsChange = false) ∧ w.scene.settings.updatePeriod = .ofSeconds 60 ∧
        u.warden.refresher = .waiting ⟨.off, some 60000000000⟩ ∧ u.warden.periodChanged = true ∧
        u.scene.settings.updatePeriod = .ofSeconds 30 ∧
        (u.step (.refresher .periodChanged)).all fun v => v.warden.refresher ≠ .broken)) = true := by
    decide
  obtain ⟨w, hw, ran⟩ := (Option.any_eq_true _ _).1 ran
  obtain ⟨u, hu, ran⟩ := (Option.any_eq_true _ _).1 ran
  obtain ⟨waits, unchanged, untold, minute, waits', word, half, intact⟩ := of_decide_eq_true ran
  have since : Since (.ofSeconds 60) .skipped w.scene.journal.timings := by
    obtain ⟨-, armed⟩ | ⟨since, -⟩ := (timer_follows_period hw).1 _ waits unchanged untold
    · rw [minute] at armed
      cases armed.2 (by decide)
    · exact minute ▸ since
  have reached : periodic.run (skippedRestart ++ shorterPeriod) = some u := by
    rw [run_append, hw]
    exact hu
  obtain ⟨v, hv, -, broken | set⟩ := (timer_follows_period reached).2.2.2.1 _ waits' word
  · rw [hv] at intact
    exact absurd broken (of_decide_eq_true intact)
  · exact ⟨w, u, v, hw, waits, since, hu, hv, half ▸ set⟩

end World

end DnsWarden
