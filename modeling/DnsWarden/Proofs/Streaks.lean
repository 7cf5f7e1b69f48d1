import DnsWarden.Proofs.Milestones
import DnsWarden.Proofs.Parked
import Mathlib.Algebra.Group.Nat.Defs

/-!
# The delays of a streak

A streak is the pauses since a resolver was up last, or since the beginning.  The delay of a pause is the
default doubled once for each pause before it in the streak, up to the longest duration, whatever led to
the pauses and however they ended.  `Cadence.Doubles` says this of all pauses so far and of the next one,
and every stride keeps it.  The main statement is `World.delays_double_in_a_streak`.
-/

namespace DnsWarden

/-! ## Streaks -/

namespace Milestone

/-- How many pauses there are since a resolver was up last, or since the beginning. -/
def streak : List Milestone → Nat
  | [] => 0
  | .ended none :: _ => 0
  | .paused _ _ :: ms => streak ms + 1
  | .began :: ms | .ended (some _) :: ms => streak ms

def isPause : Milestone → Bool
  | .paused _ _ => true
  | _ => false

/-- A streak lasts until a resolver is up. -/
theorem streak_le_append {new : List Milestone} (lasts : .ended none ∉ new) (old : List Milestone) :
    streak old ≤ streak (new ++ old) := by
  induction new with
  | nil => exact Nat.le_refl _
  | cons m new ih =>
    have rest := ih fun here => lasts (List.mem_cons_of_mem m here)
    cases m with
    | began => exact rest
    | ended failure =>
      cases failure with
      | none => exact absurd List.mem_cons_self lasts
      | some f => exact rest
    | paused t d => exact Nat.le_succ_of_le rest

end Milestone

namespace Journal

/-- How many pauses began since a resolver was up last, or since the beginning. -/
def streak (j : Journal) : Nat := Milestone.streak j.milestones

/-- How many pauses began. -/
def pauses (j : Journal) : Nat := j.milestones.countP Milestone.isPause

end Journal

theorem Entry.eq_of_paused {e : Entry} {t : Nat} {d : Duration}
    (h : e.milestone? = some (.paused t d)) : e = ⟨t, .pauseBegan d⟩ := by
  obtain ⟨t', e⟩ := e
  cases e <;> cases h
  rfl

theorem Duration.nanos_double_streak {d : Duration} {first n : Nat}
    (h : d.nanos = min (first * 2 ^ n) longestNanos) :
    d.double.nanos = min (first * 2 ^ (n + 1)) longestNanos := by
  rw [nanos_double, h, Nat.pow_succ, ← Nat.mul_assoc]
  omega

/-! ## The delays so far -/

/-- The delays so far, and the next one, are the default doubled once for each pause before them in their
streak, and each pause uses up one random number. -/
structure Cadence.Doubles (policy : Policy) (draws : Nat → Nat) (c : Cadence) : Prop where
  first : c.backoff.first = policy.backoff
  spread : c.backoff.spread = policy.spread
  draws : c.backoff.draws = fun n => draws (n + c.milestones.countP Milestone.isPause)
  current : c.backoff.current.nanos =
    min (policy.backoff.nanos * 2 ^ Milestone.streak c.milestones) Duration.longestNanos
  past : ∀ after t d before, c.milestones = after ++ .paused t d :: before →
    d.nanos = min (policy.backoff.nanos * 2 ^ Milestone.streak before) Duration.longestNanos

namespace Cadence.Doubles

variable {policy : Policy} {draws : Nat → Nat} {c : Cadence}

/-- A pause that was made before another milestone. -/
theorem past_cons (h : c.Doubles policy draws) {m : Milestone} {after before : List Milestone}
    {t : Nat} {d : Duration} (split : m :: c.milestones = after ++ .paused t d :: before)
    (here : m = .paused t d → before = c.milestones →
      d.nanos = min (policy.backoff.nanos * 2 ^ Milestone.streak before) Duration.longestNanos) :
    d.nanos = min (policy.backoff.nanos * 2 ^ Milestone.streak before) Duration.longestNanos := by
  cases after with
  | nil =>
    obtain ⟨same, rest⟩ := List.cons.inj split
    exact here same rest.symm
  | cons m' after => exact h.past after t d before (List.cons.inj split).2

/-- A milestone that is no pause and ends no streak. -/
theorem mark (h : c.Doubles policy draws) {m : Milestone} (noPause : m.isPause = false)
    (lasts : m ≠ .ended none) : (c.mark m).Doubles policy draws := by
  have streak : Milestone.streak (m :: c.milestones) = Milestone.streak c.milestones := by
    cases m with
    | began => rfl
    | ended failure =>
      cases failure with
      | none => exact absurd rfl lasts
      | some f => rfl
    | paused t d => cases noPause
  have pauses : (m :: c.milestones).countP Milestone.isPause = c.milestones.countP Milestone.isPause :=
    List.countP_cons_of_neg (by simp [noPause])
  refine ⟨h.first, h.spread, ?_, ?_, fun after t d before split => ?_⟩
  · show c.backoff.draws = fun n => draws (n + (m :: c.milestones).countP Milestone.isPause)
    rw [pauses]
    exact h.draws
  · show _ = min (policy.backoff.nanos * 2 ^ Milestone.streak (m :: c.milestones)) _
    rw [streak]
    exact h.current
  · refine h.past_cons split fun same _ => ?_
    rw [same] at noPause
    cases noPause

theorem ready (h : c.Doubles policy draws) : c.ready.Doubles policy draws := by
  refine ⟨h.first, h.spread, h.draws, ?_, fun after t d before split => ?_⟩
  · show c.backoff.first.nanos = min (policy.backoff.nanos * 2 ^ 0) Duration.longestNanos
    rw [h.first, Nat.pow_zero, Nat.mul_one, Nat.min_eq_left policy.backoff.nanos_le]
  · exact h.past_cons split nofun

theorem pause (h : c.Doubles policy draws) (now : Nat) : (c.pause now).Doubles policy draws := by
  refine ⟨h.first, h.spread, ?_, Duration.nanos_double_streak h.current,
    fun after t d before split => ?_⟩
  · have pauses : (c.pause now).milestones.countP Milestone.isPause =
        c.milestones.countP Milestone.isPause + 1 := List.countP_cons_of_pos rfl
    rw [pauses]
    funext n
    show c.backoff.draws (n + 1) = _
    rw [h.draws]
    exact congrArg draws (by omega)
  · refine h.past_cons split fun same rest => ?_
    cases same
    rw [rest]
    exact h.current

end Cadence.Doubles

section

variable {policy : Policy} {draws : Nat → Nat} {x y z : Stance}

/-- The delays double, and a pause lasts as long as its delay with the random time for it. -/
structure Stance.Paces (policy : Policy) (draws : Nat → Nat) (x : Stance) : Prop where
  doubles : x.scene.cadence.Doubles policy draws
  pausing : ∀ deadline after, x.stand = .waiting (.pausing deadline after) →
    ∃ t d before, x.scene.cadence.milestones = .paused t d :: before ∧
      deadline = Clock.endOfWait t
        (d.spreadBy policy.spread (draws (before.countP Milestone.isPause)))

theorem Stance.Paces.stride (h : Stride x y) (hx : x.Paces policy draws) : y.Paces policy draws := by
  refine ⟨?_, fun deadline after leads => ?_⟩
  · cases h.beat with
    | rest same => rw [same]; exact hx.doubles
    | began _ _ _ _ marked => rw [marked]; exact hx.doubles.mark rfl nofun
    | failed f marked => rw [marked]; exact hx.doubles.mark rfl nofun
    | ready _ _ _ marked => rw [marked]; exact hx.doubles.ready
    | paused _ marked => rw [marked]; exact hx.doubles.pause _
  · obtain ⟨rfl, marked⟩ := h.pausing leads
    refine ⟨x.scene.now, x.scene.backoff.current, x.scene.cadence.milestones, congrArg _ marked, ?_⟩
    have spread : x.scene.backoff.spread = policy.spread := hx.doubles.spread
    have drawn : x.scene.backoff.draws = _ := hx.doubles.draws
    unfold Backoff.pause
    rw [spread, drawn]
    dsimp only
    rw [Nat.zero_add]

theorem Stance.Paces.shift (x y : Stance) (h : Shift x y) (hx : x.Paces policy draws) :
    y.Paces policy draws := by
  cases h with
  | stride h => exact hx.stride h
  | nudge h =>
    obtain ⟨doubles, pausing⟩ := hx
    rw [← h.cadence] at doubles pausing
    rw [← h.stand] at pausing
    exact ⟨doubles, pausing⟩
  | @drop w _ _ =>
    have same : w.drop.stance.scene.cadence = w.stance.scene.cadence := w.cadence_drop
    exact ⟨same ▸ hx.doubles, nofun⟩

/-! ## Where a streak ends -/

/-- A stride ends a streak only where a probe was answered, and the watch serves the resolver. -/
theorem Stride.streak (h : Stride x y) :
    x.scene.journal.streak ≤ y.scene.journal.streak ∨
      (∃ pid deadline, x.stand = .waiting (.attempting (.probing pid deadline)) ∧
        y.stand = .waiting (.serving (.of pid))) ∧ y.scene.status = .running := by
  have counted : ∀ {c : Cadence}, y.scene.cadence = c →
      y.scene.journal.streak = Milestone.streak c.milestones :=
    fun marked => congrArg (fun c : Cadence => Milestone.streak c.milestones) marked
  cases h.beat with
  | rest same => exact .inl (Nat.le_of_eq (counted same).symm)
  | began _ _ _ _ marked => exact .inl (Nat.le_of_eq (counted marked).symm)
  | failed f marked => exact .inl (Nat.le_of_eq (counted marked).symm)
  | ready was leads status _ => exact .inr ⟨⟨_, _, was, leads⟩, status⟩
  | paused _ marked =>
    left
    rw [counted marked]
    exact Nat.le_succ _

/-- On its way the watch ends no streak. -/
theorem Walk.streak (h : Walk x y) : x.scene.journal.streak ≤ y.scene.journal.streak := by
  induction h with
  | wait => exact Nat.le_refl _
  | go onWay first _ ih =>
    obtain longer | ⟨⟨pid, deadline, waits, -⟩, -⟩ := first.streak
    · exact Nat.le_trans longer ih
    · rw [waits] at onWay
      cases onWay

theorem Passage.streak (h : Passage x y) :
    x.scene.journal.streak ≤ y.scene.journal.streak ∨
      (∃ pid deadline, x.stand = .waiting (.attempting (.probing pid deadline)) ∧
        y.stand = .waiting (.serving (.of pid))) ∧ y.scene.status = .running := by
  cases h with
  | tread h =>
    obtain ⟨z, first, rest⟩ := h
    obtain longer | ⟨⟨pid, deadline, was, leads⟩, status⟩ := first.streak
    · exact .inl (Nat.le_trans longer rest.streak)
    · -- The resolver is up, and the walk ends there.
      cases rest with
      | wait => exact .inr ⟨⟨pid, deadline, was, leads⟩, status⟩
      | go onWay _ _ =>
        rw [leads] at onWay
        cases onWay
  | nudges h =>
    left
    induction h with
    | refl => exact Nat.le_refl _
    | tail _ last ih =>
      have same := congrArg (fun c : Cadence => Milestone.streak c.milestones) last.cadence
      exact Nat.le_trans ih (Nat.le_of_eq same.symm)
  | @drop w _ _ =>
    have same := congrArg (fun c : Cadence => Milestone.streak c.milestones) w.cadence_drop
    exact .inl (Nat.le_of_eq same.symm)

end

/-! ## Runs -/

namespace World

variable {policy : Policy} {settings : Settings} {draws : Nat → Nat} {ms : List Move} {w : World}

theorem run_paces (h : (World.initial policy settings draws).run ms = some w) :
    w.stance.Paces policy draws := by
  refine run_keep Stance.Paces.shift h ⟨⟨rfl, rfl, rfl, ?_, ?_⟩, nofun⟩
  · show policy.backoff.nanos = min (policy.backoff.nanos * 2 ^ 0) Duration.longestNanos
    rw [Nat.pow_zero, Nat.mul_one, Nat.min_eq_left policy.backoff.nanos_le]
  · intro after t d before split
    cases after <;> cases split

/--
The delay of a pause, the random time not counted, is the default doubled once for each pause before it in
its streak, or the longest duration if that is less, and the delay that is stored is that of the next
pause.  So in a streak no delay is shorter than an earlier one.  While the watch pauses, the pause that
began last ends once its delay and the random time are over.  Nothing ends a streak but the good answer
to a probe, with which the status becomes running.
-/
theorem delays_double_in_a_streak (h : (World.initial policy settings draws).run ms = some w) :
    (∀ (after : Journal) t d (before : Journal),
      w.scene.journal = after ++ ⟨t, .pauseBegan d⟩ :: before →
      d.nanos = min (policy.backoff.nanos * 2 ^ before.streak) Duration.longestNanos) ∧
    w.scene.backoff.current.nanos =
      min (policy.backoff.nanos * 2 ^ w.scene.journal.streak) Duration.longestNanos ∧
    (∀ (after : Journal) t d (between : Journal) t' d' (before : Journal),
      w.scene.journal = after ++ ⟨t, .pauseBegan d⟩ :: (between ++ ⟨t', .pauseBegan d'⟩ :: before) →
      (∀ e ∈ between, e.event ≠ .attemptEnded none) → d'.nanos ≤ d.nanos) ∧
    (∀ deadline next, w.watch.phase = .pausing deadline next →
      ∃ (after : Journal) (t : Nat) (d : Duration) (before : Journal),
        w.scene.journal = after ++ ⟨t, .pauseBegan d⟩ :: before ∧ after.pauses = 0 ∧
        deadline = Clock.endOfWait t (d.spreadBy policy.spread (draws before.pauses))) ∧
    ∀ m v, w.step m = some v → v.scene.journal.streak < w.scene.journal.streak →
      m = .watch (.answer (.probed none)) ∧ v.scene.status = .running := by
  obtain ⟨doubles, pausing⟩ := run_paces h
  have delay : ∀ (after : Journal) t d (before : Journal),
      w.scene.journal = after ++ ⟨t, .pauseBegan d⟩ :: before →
      d.nanos = min (policy.backoff.nanos * 2 ^ before.streak) Duration.longestNanos := by
    intro after t d before split
    refine doubles.past after.milestones t d before.milestones ?_
    show w.scene.journal.milestones = _
    rw [split, Journal.milestones_append]
    rfl
  refine ⟨delay, doubles.current, fun after t d between t' d' before split lasts => ?_,
    fun deadline next phase => ?_, fun m v hv shorter => ?_⟩
  · have later := delay after t d _ split
    have earlier := delay (after ++ ⟨t, .pauseBegan d⟩ :: between) t' d' before (by simp [split])
    have lasts : Milestone.ended none ∉ between.milestones := by
      intro here
      obtain ⟨⟨t, e⟩, he, ready⟩ := List.mem_filterMap.1 here
      cases e <;> cases ready
      exact lasts _ he rfl
    have longer : before.streak + 1 ≤
        Journal.streak (between ++ ⟨t', .pauseBegan d'⟩ :: before) := by
      unfold Journal.streak
      rw [Journal.milestones_append]
      exact Milestone.streak_le_append lasts (.paused t' d' :: before.milestones)
    have more : policy.backoff.nanos * 2 ^ before.streak ≤ policy.backoff.nanos *
        2 ^ Journal.streak (between ++ ⟨t', .pauseBegan d'⟩ :: before) :=
      Nat.mul_le_mul_left _ (Nat.pow_le_pow_right (by decide) (Nat.le_of_succ_le longer))
    rw [earlier, later]
    omega
  · obtain ⟨t, d, rest, milestones, ends⟩ := pausing deadline next (congrArg Stand.waiting phase)
    obtain ⟨after, e, before, split, none, paused, rfl⟩ := List.filterMap_eq_cons_iff.1 milestones
    obtain rfl := Entry.eq_of_paused paused
    refine ⟨after, t, d, before, split, ?_, ends⟩
    unfold Journal.pauses Journal.milestones
    rw [List.filterMap_eq_nil_iff.2 none]
    rfl
  · obtain longer | ⟨⟨pid, deadline, was, leads⟩, status⟩ := ((run_sound h).passage hv).streak
    · exact absurd shorter (Nat.not_lt.2 longer)
    · have served : v.watch.phase.served? = some pid := by
        rw [show v.watch.phase = .serving (.of pid) from Stand.waiting.inj leads]
        rfl
      obtain served | ⟨probed, -⟩ := step_served hv (run_sound h) served
      · rw [show w.watch.phase = _ from Stand.waiting.inj was] at served
        cases served
      · exact ⟨probed, status⟩

/-- The moves of a first attempt that fails, and of a second one after a pause. -/
def twoFailures : List Move :=
  firstSession.take 9 ++ [.watch (.answer (.filesSetUp (some (.other (.root "unreachable"))))),
    .pass 10000000000, .watch .elapsed,
    .watch (.answer (.filesSetUp (some (.other (.root "unreachable")))))]

/-- The moves of a third attempt after another pause, up to its probe, which has still to be answered. -/
def thirdAttempt : List Move := [.pass 20000000000, .watch .elapsed] ++ (firstSession.drop 9).dropLast

theorem delays_double_in_first_streak :
    (∃ w, wanted.run twoFailures = some w ∧ w.watch.phase = .pausing 30000000000 .attempt ∧
      ∃ (after : Journal) (t : Nat) (d : Duration) (before : Journal),
        w.scene.journal = after ++ ⟨t, .pauseBegan d⟩ :: before ∧ after.pauses = 0 ∧
        30000000000 = Clock.endOfWait t (d.spreadBy .zero 0) ∧
        d.nanos = min (10000000000 * 2 ^ before.streak) Duration.longestNanos) ∧
    (∃ w, wanted.run twoFailures = some w ∧
      ∃ (between before : Journal) (d d' : Duration),
        w.scene.journal =
          ⟨10000000000, .pauseBegan d⟩ :: (between ++ ⟨0, .pauseBegan d'⟩ :: before) ∧
        d'.nanos ≤ d.nanos) ∧
    ∃ w v, wanted.run (twoFailures ++ thirdAttempt) = some w ∧
      w.step (.watch (.answer (.probed none))) = some v ∧
      v.scene.journal.streak < w.scene.journal.streak ∧ v.scene.status = .running := by
  refine ⟨?_, ?_, ?_⟩
  · have ran : ((wanted.run twoFailures).any fun w =>
        decide (w.watch.phase = .pausing 30000000000 .attempt)) = true := by
      decide
    obtain ⟨w, hw, ran⟩ := (Option.any_eq_true _ _).1 ran
    have phase := of_decide_eq_true ran
    obtain ⟨delay, -, -, pausing, -⟩ := delays_double_in_a_streak hw
    obtain ⟨after, t, d, before, split, newest, ends⟩ := pausing _ _ phase
    exact ⟨w, hw, phase, after, t, d, before, split, newest, ends, delay after t d before split⟩
  · have ran : ((wanted.run twoFailures).any fun w => decide
        (w.scene.journal = ⟨10000000000, .pauseBegan (.ofSeconds 20)⟩ ::
          ((w.scene.journal.drop 1).take 6 ++
            ⟨0, .pauseBegan (.ofSeconds 10)⟩ :: w.scene.journal.drop 8) ∧
        ∀ e ∈ (w.scene.journal.drop 1).take 6, e.event ≠ .attemptEnded none)) = true := by
      decide
    obtain ⟨w, hw, ran⟩ := (Option.any_eq_true _ _).1 ran
    obtain ⟨split, lasts⟩ := of_decide_eq_true ran
    have longer := (delays_double_in_a_streak hw).2.2.1 [] _ _ _ _ _ _ split lasts
    exact ⟨w, hw, _, _, _, _, split, longer⟩
  · have ran : ((wanted.run (twoFailures ++ thirdAttempt)).any fun w =>
        (w.step (.watch (.answer (.probed none)))).any fun v =>
          decide (v.scene.journal.streak < w.scene.journal.streak)) = true := by
      decide
    obtain ⟨w, hw, ran⟩ := (Option.any_eq_true _ _).1 ran
    obtain ⟨v, hv, ran⟩ := (Option.any_eq_true _ _).1 ran
    have shorter := of_decide_eq_true ran
    obtain ⟨-, -, -, -, ends⟩ := delays_double_in_a_streak hw
    exact ⟨w, v, hw, hv, shorter, (ends _ v hv shorter).2⟩

end World

end DnsWarden
