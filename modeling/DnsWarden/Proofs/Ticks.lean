import DnsWarden.Proofs.Periods

/-!
# Ticks keep the period

The timer is set from three origins: for the first time when the refresher begins, after a restart
from its end, and after a change of the period from the last tick.  Whatever the order, no tick
comes before one period has passed since the last tick, or since the refresher began:
`World.ticks_keep_period`.  After a change what is left of the new period counts from the last tick,
so that no earlier change matters, but if the clock cannot name the end of it, the refresher breaks.
-/

namespace DnsWarden

/-! ## What the history says of a tick -/

namespace Timing

/-- The instant of the last tick. -/
def lastTick? (l : List Timing) : Option Nat :=
  l.findSome? fun
    | .ticked t => some t
    | _ => none

/-- The period that the timer was set from last. -/
def period? (l : List Timing) : Option Duration := (set? l).map Prod.snd

/-- Where a period begins that passes up to a tick: with the last tick or, before the first one,
when the timer was set for the first time. -/
def origin? : List Timing → Option Nat
  | [] => none
  | .ticked t :: _ => some t
  | .set t _ :: l => (origin? l).or (some t)
  | _ :: l => origin? l

/-- A tick comes no earlier than one period after its origin, where the timer was set from this
period last. -/
def Due (l : List Timing) (t : Nat) : Prop :=
  ∃ p o, period? l = some p ∧ p ≠ .zero ∧ origin? l = some o ∧ o + p.nanos ≤ t

theorem origin?_of_lastTick? {l : List Timing} {t : Nat} (h : lastTick? l = some t) :
    origin? l = some t := by
  induction l with
  | nil => cases h
  | cons e l ih =>
    cases e with
    | ticked t' => exact h
    | set t' p =>
      show (origin? l).or (some t') = some t
      rw [ih h]
      rfl
    | skipped f => exact ih h
    | stored p => exact ih h

end Timing

/-! ## A change of the period after a tick -/

namespace Schedule

variable {s : Schedule} {last now : Nat} {p : Duration}

theorem reschedule?_ticked (ticked : s.lastTick = some last) (past : last ≤ now) (on : p ≠ .zero) :
    s.reschedule? now p =
      if max now (last + p.nanos) < Clock.limit then
        some ⟨⟨some (max now (last + p.nanos))⟩, some last⟩
      else none := by
  unfold reschedule?
  rw [if_neg on]
  split_ifs with early
  · rw [← left_eq ticked past] at early ⊢
    rw [Alarm.set?_eq_some_iff.2 ⟨early, rfl⟩, ← ticked]
    rfl
  · rw [← left_eq ticked past] at early
    rw [Alarm.set?_eq_none_iff.2 (Nat.not_lt.1 early)]
    rfl

end Schedule

/-! ## Punctual dials -/

namespace Dial

open Timing

/-- A schedule knows the last tick, and its alarm is due no earlier than the next one may come. -/
structure Knows (x : Dial) (s : Schedule) : Prop where
  lastTick : s.lastTick = lastTick? x.timings
  begun : ∃ o, origin? x.timings = some o ∧ o ≤ x.now
  due : ∀ d, s.alarm.deadline = some d → Due x.timings d

/-- No tick came early, and none will. -/
structure Punctual (x : Dial) : Prop where
  ticks : ∀ t early, .ticked t :: early <:+ x.timings → Due early t
  unborn : x.mode = .unborn → origin? x.timings = none
  knows : ∀ s, x.mode.schedule? = some s → x.Knows s

variable {x y : Dial} {s : Schedule}

theorem Knows.congr (h : x.Knows s) (last : lastTick? y.timings = lastTick? x.timings)
    (origin : origin? y.timings = origin? x.timings)
    (period : period? y.timings = period? x.timings) (later : x.now ≤ y.now) : y.Knows s := by
  obtain ⟨o, started, past⟩ := h.begun
  refine ⟨h.lastTick.trans last.symm, ⟨o, origin.trans started, Nat.le_trans past later⟩,
    fun d hd => ?_⟩
  obtain ⟨p, o, set, on, began, le⟩ := h.due d hd
  exact ⟨p, o, period.trans set, on, origin.trans began, le⟩

/-- A tick is not found in an entry of another kind. -/
theorem Punctual.ticks_cons (hx : x.Punctual) {e : Timing} (other : ∀ t, e ≠ .ticked t) (t : Nat)
    (early : List Timing) (h : .ticked t :: early <:+ e :: x.timings) : Due early t := by
  obtain same | before := List.suffix_cons_iff.1 h
  · exact absurd (List.cons.inj same).1.symm (other t)
  · exact hx.ticks t early before

/-- A timer that is set for no earlier than a period after its origin stays punctual. -/
theorem Punctual.set (hx : x.Punctual) {o due : Nat} {made : Option Schedule}
    (origin : (origin? x.timings).getD x.now = o) (past : o ≤ x.now)
    (late : o + x.period.nanos ≤ due)
    (h : ∀ s, made = some s →
      s = ⟨⟨if x.period = .zero then none else some due⟩, lastTick? x.timings⟩) :
    (x.set x.period made).Punctual := by
  cases made with
  | none => exact ⟨hx.ticks, nofun, nofun⟩
  | some s =>
    have began : origin? (.set x.now x.period :: x.timings) = some o := by
      show (origin? x.timings).or (some x.now) = some o
      rw [← origin]
      cases origin? x.timings <;> rfl
    refine ⟨hx.ticks_cons nofun, nofun, fun s' same => ?_⟩
    obtain rfl : s = s' := Option.some.inj same
    rw [h s rfl]
    refine ⟨rfl, ⟨o, began, past⟩, fun d hd => ?_⟩
    dsimp only at hd
    split_ifs at hd with zero
    obtain rfl : due = d := Option.some.inj hd
    exact ⟨x.period, o, rfl, zero, began, late⟩

/-- What has to do with neither the schedule nor the history leaves a dial punctual. -/
theorem Punctual.congr (hx : x.Punctual) (mode : y.mode = x.mode) (timings : y.timings = x.timings)
    (later : x.now ≤ y.now) : y.Punctual := by
  refine ⟨timings ▸ hx.ticks, fun unborn => ?_, fun s hs => ?_⟩
  · rw [timings]
    exact hx.unborn (mode ▸ unborn)
  · have knows := hx.knows s (mode ▸ hs)
    exact knows.congr (by rw [timings]) (by rw [timings]) (by rw [timings]) later

/-- The last tick that a schedule knows of has been. -/
theorem Knows.past (h : x.Knows s) {t : Nat} (ticked : s.lastTick = some t) : t ≤ x.now := by
  obtain ⟨o, began, past⟩ := h.begun
  have here := Timing.origin?_of_lastTick? (h.lastTick.symm.trans ticked)
  obtain rfl : o = t := Option.some.inj (began.symm.trans here)
  exact past

/-- What is left of a period ends no earlier than a period after its origin. -/
theorem Knows.left (h : x.Knows s) :
    ∃ o, origin? x.timings = some o ∧ o ≤ x.now ∧
      o + x.period.nanos ≤ x.now + (x.period.minus (s.elapsed x.now)).nanos := by
  obtain ⟨o, began, past⟩ := h.begun
  refine ⟨o, began, past, ?_⟩
  cases ticked : s.lastTick with
  | none =>
    rw [Schedule.left_eq_whole ticked]
    exact Nat.add_le_add_right past _
  | some last =>
    have here : origin? x.timings = some last := origin?_of_lastTick? (h.lastTick.symm.trans ticked)
    obtain rfl : o = last := Option.some.inj (began.symm.trans here)
    rw [Schedule.left_eq ticked past]
    exact Nat.le_max_right _ _

theorem Step.punctual (h : Step x y) (hx : x.Punctual) : y.Punctual := by
  cases h with
  | rest keeps => exact hx.congr rfl rfl (Nat.le_refl _)
  | pass => exact hx.congr rfl rfl (Nat.le_add_right _ _)
  | store tells =>
    exact ⟨hx.ticks_cons nofun, hx.unborn, fun s hs =>
      (hx.knows s hs).congr rfl rfl rfl (Nat.le_refl _)⟩
  | tell => exact hx.congr rfl rfl (Nat.le_refl _)
  | begin unborn =>
    have unset := hx.unborn unborn
    have unticked : lastTick? x.timings = none :=
      Option.eq_none_iff_forall_ne_some.2 fun t ticked => by
        cases unset.symm.trans (origin?_of_lastTick? ticked)
    refine hx.set (by rw [unset]; rfl) (Nat.le_refl _) (Nat.le_refl _) fun s hs => ?_
    rw [unticked]
    exact Schedule.rearm?_eq_some hs
  | @ring s waits rings =>
    have knows := hx.knows s (by rw [waits]; rfl)
    obtain ⟨d, hd, due⟩ := (Option.any_eq_true _ _).1 rings
    obtain ⟨p, o, set, on, began, le⟩ := knows.due d hd
    have due : Due x.timings x.now :=
      ⟨p, o, set, on, began, Nat.le_trans le (of_decide_eq_true due)⟩
    refine ⟨fun t early h => ?_, nofun, fun s' same => ?_⟩
    · obtain same | before := List.suffix_cons_iff.1 h
      · cases same
        exact due
      · exact hx.ticks t early before
    · obtain rfl : Schedule.tick x.now = s' := Option.some.inj same
      exact ⟨rfl, ⟨x.now, rfl, Nat.le_refl _⟩, nofun⟩
  | @reschedule s waits word =>
    have knows := hx.knows s (by rw [waits]; rfl)
    obtain ⟨o, began, past, late⟩ := knows.left
    have told : Punctual { x with word := false } := hx.congr rfl rfl (Nat.le_refl _)
    refine told.set (by rw [began]; rfl) past late fun s' hs => ?_
    rw [← knows.lastTick]
    exact Schedule.reschedule?_eq_some hs
  | @skip s restarts f =>
    have knows := hx.knows s (by rw [restarts]; rfl)
    refine ⟨hx.ticks_cons nofun, nofun, fun s' same => ?_⟩
    obtain rfl : s = s' := Option.some.inj same
    exact knows.congr rfl rfl rfl (Nat.le_refl _)
  | @rearm s restarts =>
    have knows := hx.knows s (by rw [restarts]; rfl)
    obtain ⟨o, began, past⟩ := knows.begun
    refine hx.set (by rw [began]; rfl) past (Nat.add_le_add_right past _) fun s' hs => ?_
    rw [← knows.lastTick]
    exact Schedule.rearm?_eq_some hs
  | stop => exact ⟨hx.ticks, nofun, nofun⟩

end Dial

namespace World

variable {policy : Policy} {settings : Settings} {draws : Nat → Nat} {ms : List Move} {w : World}

/-- In every run no tick came early, and none will. -/
theorem run_punctual (h : (World.initial policy settings draws).run ms = some w) :
    w.dial.Punctual := by
  refine run_dial (fun _ _ => Dial.Step.punctual) h ⟨fun t early before => ?_, fun _ => rfl, nofun⟩
  cases List.suffix_nil.1 before

/--
No tick came before the period from which the timer was set last had passed, since the tick before
it or, if there was none, since the refresher began.  A change of the period sets the timer,
whatever it was set to before, for when the new period ends that began with the last tick, or for
now if that is over: then the next tick can come at once.  So it does in every run, unless the clock
cannot name that instant, where the refresher breaks.
-/
theorem ticks_keep_period (h : (World.initial policy settings draws).run ms = some w) :
    (∀ t early, .ticked t :: early <:+ w.scene.journal.timings → Timing.Due early t) ∧
    (∀ (s : Schedule) last now p, s.lastTick = some last → last ≤ now → p ≠ .zero →
      s.reschedule? now p =
        if max now (last + p.nanos) < Clock.limit then
          some ⟨⟨some (max now (last + p.nanos))⟩, some last⟩
        else none) ∧
    (∀ s, w.warden.refresher = .waiting s →
      s.lastTick = Timing.lastTick? w.scene.journal.timings ∧
      ∀ last, s.lastTick = some last → last ≤ w.scene.now ∧
        (w.warden.periodChanged = true → w.scene.settings.updatePeriod ≠ .zero →
          ∃ v, w.step (.refresher .periodChanged) = some v ∧
            v.warden.refresher =
              (if max w.scene.now (last + w.scene.settings.updatePeriod.nanos) < Clock.limit then
                .waiting ⟨⟨some (max w.scene.now (last + w.scene.settings.updatePeriod.nanos))⟩,
                  some last⟩
              else .broken) ∧
            (last + w.scene.settings.updatePeriod.nanos ≤ w.scene.now → w.scene.now < Clock.limit →
              (v.step (.refresher .rang)).isSome = true))) := by
  have punctual := run_punctual h
  refine ⟨punctual.ticks, fun s last now p => Schedule.reschedule?_ticked, fun s waits => ?_⟩
  have knows : w.dial.Knows s := punctual.knows s (schedule?_dial waits)
  refine ⟨knows.lastTick, fun last ticked => ?_⟩
  have past : last ≤ w.scene.now := knows.past ticked
  refine ⟨past, fun word on => ⟨_, step_periodChanged waits word, ?_, fun past' nameable => ?_⟩⟩
  · unfold Warden.scheduled
    rw [Schedule.reschedule?_ticked ticked past on]
    split_ifs <;> rfl
  · unfold Warden.scheduled
    rw [Schedule.reschedule?_ticked ticked past on, Nat.max_eq_left past', if_pos nameable]
    have rings : (Alarm.mk (some w.scene.now)).rings w.scene.now = true :=
      decide_eq_true (Nat.le_refl _)
    show (Option.map _ (if (Alarm.mk (some w.scene.now)).rings w.scene.now = true then some _
      else none)).isSome = true
    rw [if_pos rings]
    rfl

theorem ticks_keep_shorter_period :
    ∃ w v, periodic.run (skippedRestart ++ shorterPeriod) = some w ∧
      Timing.Due [.set 0 (.ofSeconds 60)] 60000000000 ∧
      w.step (.refresher .periodChanged) = some v ∧
      v.warden.refresher = .waiting ⟨⟨some 90000000000⟩, some 60000000000⟩ := by
  have ran : ((periodic.run (skippedRestart ++ shorterPeriod)).any fun w => decide
      (w.warden.refresher = .waiting ⟨.off, some 60000000000⟩ ∧ w.warden.periodChanged = true ∧
        w.scene.now = 60000000000 ∧ w.scene.settings.updatePeriod = .ofSeconds 30 ∧
        .ticked 60000000000 :: [.set 0 (.ofSeconds 60)] <:+ w.scene.journal.timings)) = true := by
    decide
  obtain ⟨w, hw, ran⟩ := (Option.any_eq_true _ _).1 ran
  obtain ⟨waits, word, now, period, ticked⟩ := of_decide_eq_true ran
  have keep := ticks_keep_period hw
  obtain ⟨-, keep'⟩ := keep.2.2 _ waits
  obtain ⟨v, hv, set, -⟩ := (keep' _ rfl).2 word (by rw [period]; decide)
  rw [now, period] at set
  exact ⟨w, v, hw, keep.1 _ _ ticked, hv, set⟩

/-- The moves of a call that stores settings with the longest period, and tells the refresher. -/
def longestPeriod : List Move :=
  [.arrive (.setSettings { enabled := true, updatePeriod := .longest }), .caller 1, .caller 1]

/-- A change to the longest period does not set the timer for its end but breaks the refresher. -/
theorem longest_period_breaks_refresher :
    ∃ w v s, periodic.run (skippedRestart ++ longestPeriod) = some w ∧
      w.warden.refresher = .waiting s ∧ s.lastTick = some 60000000000 ∧ 60000000000 ≤ w.scene.now ∧
      w.warden.periodChanged = true ∧ w.scene.settings.updatePeriod ≠ .zero ∧
      w.step (.refresher .periodChanged) = some v ∧ v.warden.refresher = .broken := by
  have ran : ((periodic.run (skippedRestart ++ longestPeriod)).any fun w =>
      (w.step (.refresher .periodChanged)).any fun v => decide
        (w.warden.refresher = .waiting ⟨.off, some 60000000000⟩ ∧ 60000000000 ≤ w.scene.now ∧
          w.warden.periodChanged = true ∧ w.scene.settings.updatePeriod ≠ .zero ∧
          v.warden.refresher = .broken)) = true := by
    decide
  obtain ⟨w, hw, ran⟩ := (Option.any_eq_true _ _).1 ran
  obtain ⟨v, hv, ran⟩ := (Option.any_eq_true _ _).1 ran
  obtain ⟨waits, past, word, on, broken⟩ := of_decide_eq_true ran
  exact ⟨w, v, _, hw, waits, rfl, past, word, on, hv, broken⟩

end World

end DnsWarden
