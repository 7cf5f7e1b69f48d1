import DnsWarden.Proofs.Histories
import DnsWarden.Proofs.Ticks
import Mathlib.Algebra.Group.Nat.Defs

/-!
# Periods beyond the clock

Settings may hold a period of any length, but the clock names no instant from `2 ^ 63` seconds on, and an
alarm cannot be set so late.  The timer is set on three routes: when the refresher begins, after a restart,
and on word that the period has changed.  Each of them breaks the refresher exactly if the clock cannot
name the instant for which the timer would be set: `World.refresher_breaks_iff`.  So a period can only do
so if it reaches beyond the clock from the present on.
-/

namespace DnsWarden

/-! ## Setting the timer -/

/-- A period that is to pass from `now` on and ends beyond the clock. -/
def Duration.Outlasts (p : Duration) (now : Nat) : Prop := p ≠ .zero ∧ Clock.limit ≤ now + p.nanos

namespace Schedule

variable {s : Schedule} {now : Nat} {p : Duration}

theorem due_le (past : ∀ t, s.lastTick = some t → t ≤ now) : s.due now p ≤ now + p.nanos := by
  rw [← now_add_left past, Duration.nanos_minus]
  omega

theorem rearm?_eq_none : s.rearm? now p = none ↔ p.Outlasts now := by
  unfold rearm? Duration.Outlasts
  by_cases zero : p = .zero
  · simp [zero]
  · simp [zero, Alarm.set?_eq_none_iff]

theorem start?_eq_none : start? now p = none ↔ p.Outlasts now := rearm?_eq_none

theorem reschedule?_eq_none (past : ∀ t, s.lastTick = some t → t ≤ now) :
    s.reschedule? now p = none ↔ p ≠ .zero ∧ Clock.limit ≤ s.due now p := by
  rw [← now_add_left past]
  unfold reschedule?
  by_cases zero : p = .zero
  · simp [zero]
  · simp [zero, Alarm.set?_eq_none_iff]

end Schedule

/-! ## The refresher's own moves -/

namespace Warden

variable {o v : Warden} {i : RefresherInput}

theorem scheduled_eq_broken {period : Duration} {set? : Duration → Option Schedule} :
    (o.scheduled period set?).refresher = .broken ↔ set? period = none := by
  unfold scheduled
  cases set? period with
  | none => exact iff_of_true rfl rfl
  | some s => exact iff_of_false nofun nofun

end Warden

/-! ## The moves that set the timer -/

/-- Whether a move is the refresher's own. -/
def Move.isRefresher : Move → Bool
  | .beginRefresher | .refresher _ | .dropRefresher => true
  | _ => false

namespace World

variable {w v : World} {m : Move}

/-- The move sets the timer from the stored period, which is to end at this instant. -/
inductive SetsTimer (w : World) : Move → Nat → Prop where
  | begin (unborn : w.warden.refresher = .unborn) :
    SetsTimer w .beginRefresher (w.scene.now + w.scene.settings.updatePeriod.nanos)
  | changed {s} (waits : w.warden.refresher = .waiting s) (word : w.warden.periodChanged = true) :
    SetsTimer w (.refresher .periodChanged) (s.due w.scene.now w.scene.settings.updatePeriod)
  | restarted {s a d result} (starts : w.warden.refresher = .starting s a)
      (ends : w.warden.desk.step .refresher .running a = some (d, .done result)) :
    SetsTimer w (.refresher .ask) (w.scene.now + w.scene.settings.updatePeriod.nanos)

/-- A refresher that waits knows of no tick to come. -/
def TickedBefore (w : World) : Prop :=
  ∀ s t, w.warden.refresher = .waiting s → s.lastTick = some t → t ≤ w.scene.now

/-- Once the resolver was started again, or could not be, the refresher breaks if the stored period
outlasts the clock. -/
theorem started_broken {s : Schedule} {a : Ask} {d : Desk} {result : Except CallFault StatusOutcome}
    (ends : w.warden.desk.step .refresher .running a = some (d, .done result)) :
    (({ w.warden with desk := d } : Warden).started s result).refresher = .broken ↔
      w.scene.settings.updatePeriod.Outlasts w.scene.now := by
  have same : d.scene.timekeeping = w.scene.timekeeping := Desk.step_timekeeping ends
  have now : d.scene.now = w.scene.now := congrArg Prod.fst same
  have period : d.scene.settings.updatePeriod = w.scene.settings.updatePeriod :=
    congrArg (fun k => k.2.1) same
  unfold Warden.started
  rw [Warden.scheduled_eq_broken, Schedule.rearm?_eq_none, ← now, ← period]
  cases result <;> rfl

/-- Of the refresher's steps only those that set the timer break it, if the clock cannot name the end of
the stored period. -/
theorem resume_broken_iff {i : RefresherInput} {o : Warden} (next : w.warden.resume i = some o)
    (past : w.TickedBefore) :
    o.refresher = .broken ↔ w.scene.settings.updatePeriod ≠ .zero ∧
      ∃ t, w.SetsTimer (.refresher i) t ∧ Clock.limit ≤ t := by
  -- A step that sets no timer goes to another place, and no route is open for it.
  have other : o.refresher ≠ .broken → (∀ t, ¬ w.SetsTimer (.refresher i) t) →
      (o.refresher = .broken ↔ w.scene.settings.updatePeriod ≠ .zero ∧
        ∃ t, w.SetsTimer (.refresher i) t ∧ Clock.limit ≤ t) := fun intact none =>
    iff_of_false intact fun ⟨_, t, sets, _⟩ => none t sets
  unfold Warden.resume at next
  split at next
  next s waits =>
    split_ifs at next
    cases next
    apply other
    · unfold Warden.restart
      dsimp only
      split_ifs <;> exact nofun
    · rintro t ⟨⟩
  next s waits =>
    split_ifs at next with word
    cases next
    rw [Warden.scheduled_eq_broken]
    refine (Schedule.reschedule?_eq_none (past s · waits)).trans (and_congr_right fun _ => ?_)
    constructor
    · intro beyond
      exact ⟨_, .changed waits word, beyond⟩
    · rintro ⟨t, sets, beyond⟩
      cases sets with
      | changed waits' _ =>
        cases waits.symm.trans waits'
        exact beyond
  next s r a refreshes =>
    obtain ⟨⟨c, n⟩, -, rfl⟩ := Option.map_eq_some_iff.1 next
    apply other
    · rcases n with _ | _ | _ <;> exact nofun
    · rintro t ⟨⟩
  next s a stops =>
    obtain ⟨⟨d, n⟩, -, rfl⟩ := Option.map_eq_some_iff.1 next
    apply other
    · cases n <;> exact nofun
    · rintro t (_ | _ | ⟨starts, _⟩)
      cases stops.symm.trans starts
  next s a starts =>
    obtain ⟨⟨d, n⟩, goes, rfl⟩ := Option.map_eq_some_iff.1 next
    cases n with
    | waiting a' =>
      apply other nofun
      rintro t (_ | _ | ⟨starts', ends⟩)
      cases starts.symm.trans starts'
      cases goes.symm.trans ends
    | done result =>
      refine (started_broken goes).trans (and_congr_right fun _ => ?_)
      constructor
      · intro beyond
        exact ⟨_, .restarted starts goes, beyond⟩
      · rintro ⟨t, _ | _ | _, beyond⟩
        exact beyond
  next =>
    split_ifs at next
    cases next
    apply other nofun
    rintro t ⟨⟩
  next => cases next

/-- Others leave the refresher where it is. -/
theorem step_refresher (next : w.step m = some v) (other : m.isRefresher = false) :
    v.warden.refresher = w.warden.refresher := by
  cases m with
  | beginRefresher | dropRefresher | refresher _ => cases other
  | run | dropWatch =>
    simp only [step] at next
    split_ifs at next
    cases next
    rfl
  | watch _ | exit _ _ | print _ _ _ | collect _ _ =>
    obtain ⟨x, -, rfl⟩ := Option.map_eq_some_iff.1 next
    rfl
  | cancelWatch | cancelRefresher | hangUp _ _ | pass _ | arrive _ =>
    cases next
    rfl
  | caller id => exact caller_refresher next
  | leave id => exact leave_refresher next

/-- A refresher that is broken stays so. -/
theorem step_broken (next : w.step m = some v) (broken : w.warden.refresher = .broken) :
    v.warden.refresher = .broken := by
  cases own : m.isRefresher with
  | false => rw [step_refresher next own, broken]
  | true =>
    cases m with
    | refresher i => cases i <;> simp [step, Warden.resume, Warden.refreshes, broken] at next
    | beginRefresher | dropRefresher => simp [step, Warden.refreshes, broken] at next
    | _ => cases own

theorem run_broken {ms : List Move} (runs : w.run ms = some v) (broken : w.warden.refresher = .broken) :
    v.warden.refresher = .broken := by
  induction ms generalizing w with
  | nil =>
    cases runs
    exact broken
  | cons m ms ih =>
    obtain ⟨u, next, rest⟩ := Option.bind_eq_some_iff.1 runs
    exact ih rest (step_broken next broken)

/-- A move breaks the refresher exactly if it sets the timer for the end of a period that the clock cannot
name. -/
theorem step_broken_iff (next : w.step m = some v) (past : w.TickedBefore)
    (whole : w.warden.refresher ≠ .broken) :
    v.warden.refresher = .broken ↔ w.scene.settings.updatePeriod ≠ .zero ∧
      ∃ t, w.SetsTimer m t ∧ Clock.limit ≤ t := by
  cases m with
  | refresher i =>
    obtain ⟨o, resumes, rfl⟩ := Option.map_eq_some_iff.1 next
    exact resume_broken_iff resumes past
  | beginRefresher =>
    simp only [step] at next
    split_ifs at next with unborn
    cases next
    refine Warden.scheduled_eq_broken.trans (Schedule.start?_eq_none.trans (and_congr_right fun _ => ?_))
    constructor
    · intro beyond
      exact ⟨_, .begin unborn, beyond⟩
    · rintro ⟨t, _ | _ | _, beyond⟩
      exact beyond
  | dropRefresher =>
    simp only [step] at next
    split_ifs at next
    cases next
    exact iff_of_false (by rintro ⟨⟩) (by rintro ⟨-, t, ⟨⟩, -⟩)
  | _ =>
    rw [step_refresher next rfl]
    exact iff_of_false whole (by rintro ⟨-, t, ⟨⟩, -⟩)

end World

/-! ## Runs -/

namespace Dial

variable {x y : Dial} {s : Schedule} {p : Duration}

/-- A period was stored, to begin with or by a call. -/
def Had (x : Dial) (first p : Duration) : Prop := p = first ∨ .stored p ∈ x.timings

theorem Had.set {first q : Duration} (h : x.Had first p) (made : Option Schedule) :
    (x.set q made).Had first p := by
  cases made with
  | none => exact h
  | some s => exact h.imp_right (List.mem_cons_of_mem _)

theorem Step.had {first : Duration} (h : Step x y) (had : x.Had first p) : y.Had first p := by
  cases h with
  | rest | pass | tell | stop => exact had
  | store | ring | skip => exact had.imp_right (List.mem_cons_of_mem _)
  | begin | rearm => exact had.set _
  | reschedule => exact Had.set (x := { x with word := false }) had _

theorem now_set (x : Dial) (q : Duration) (made : Option Schedule) : (x.set q made).now = x.now := by
  cases made <;> rfl

theorem period_set (x : Dial) (q : Duration) (made : Option Schedule) :
    (x.set q made).period = x.period := by
  cases made <;> rfl

theorem Step.now_le (h : Step x y) : x.now ≤ y.now := by
  cases h with
  | pass => exact Nat.le_add_right _ _
  | begin | rearm => exact Nat.le_of_eq (now_set _ _ _).symm
  | reschedule => exact Nat.le_of_eq (now_set { x with word := false } _ _).symm
  | _ => exact Nat.le_refl _

/-- The stored period is the one before or was stored just now. -/
theorem Step.period (h : Step x y) : y.period = x.period ∨ .stored y.period ∈ y.timings := by
  cases h with
  | store => exact .inr List.mem_cons_self
  | begin | rearm | reschedule => exact .inl (period_set _ _ _)
  | _ => exact .inl rfl

theorem Step.had_period {first : Duration} (h : Step x y) (had : x.Had first x.period) :
    y.Had first y.period := by
  obtain same | stored := h.period
  · rw [same]
    exact h.had had
  · exact .inr stored

end Dial

namespace World

variable {policy : Policy} {settings : Settings} {draws : Nat → Nat} {ms : List Move} {w v : World}

/-- Time goes on, and what was stored was stored. -/
theorem run_had {first p : Duration} (runs : w.run ms = some v) (had : w.dial.Had first p) :
    v.dial.Had first p ∧ w.scene.now ≤ v.scene.now := by
  induction ms generalizing w with
  | nil =>
    cases runs
    exact ⟨had, Nat.le_refl _⟩
  | cons m ms ih =>
    obtain ⟨u, next, rest⟩ := Option.bind_eq_some_iff.1 runs
    have step := step_dial next
    obtain ⟨had', later⟩ := ih rest (step.had had)
    exact ⟨had', Nat.le_trans step.now_le later⟩

theorem run_tickedBefore (h : (World.initial policy settings draws).run ms = some w) :
    w.TickedBefore := by
  intro s t waits ticked
  exact ((run_punctual h).knows s (schedule?_dial waits)).past ticked

/-- Where the refresher is broken, a period was stored that outlasts the clock. -/
theorem run_outlasts (h : (World.initial policy settings draws).run ms = some w)
    (broken : w.warden.refresher = .broken) :
    ∃ p, (p = settings.updatePeriod ∨ .stored p ∈ w.scene.journal.timings) ∧ p.Outlasts w.scene.now := by
  obtain ⟨first, m, rest, x, y, -, hx, hy, hw, whole, breaks⟩ :=
    run_first (P := fun u => u.warden.refresher = .broken) h nofun broken
  have past : x.TickedBefore := run_tickedBefore hx
  obtain ⟨on, t, sets, beyond⟩ := (step_broken_iff hy past whole).1 breaks
  have stored : x.dial.Had settings.updatePeriod x.dial.period :=
    run_dial (J := fun d => d.Had settings.updatePeriod d.period)
      (fun _ _ => Dial.Step.had_period) hx (.inl rfl)
  have soon : t ≤ x.scene.now + x.scene.settings.updatePeriod.nanos := by
    cases sets with
    | begin | restarted => exact Nat.le_refl _
    | changed waits word => exact Schedule.due_le (past _ · waits)
  have onward : x.run (m :: rest) = some w := by
    rw [run_cons, hy]
    exact hw
  obtain ⟨had, later⟩ := run_had onward stored
  refine ⟨x.scene.settings.updatePeriod, had, on, ?_⟩
  omega

/--
Setting the timer fails exactly if the period is not zero and the clock cannot name the instant at which
it ends, counted from now or, after a change of the period, from the last tick.  In every run it is this,
on each of the three routes, and nothing else that breaks the refresher, for good; and it comes of a
period that was stored and would end beyond the clock if it began now.
-/
theorem refresher_breaks_iff (h : (World.initial policy settings draws).run ms = some w) :
    (∀ now p, Schedule.start? now p = none ↔ p.Outlasts now) ∧
    (∀ (s : Schedule) now p, s.rearm? now p = none ↔ p.Outlasts now) ∧
    (∀ (s : Schedule) now p, (∀ t, s.lastTick = some t → t ≤ now) →
      (s.reschedule? now p = none ↔ p ≠ .zero ∧ Clock.limit ≤ s.due now p)) ∧
    (∀ m v, w.step m = some v → w.warden.refresher ≠ .broken →
      (v.warden.refresher = .broken ↔
        w.scene.settings.updatePeriod ≠ .zero ∧ ∃ t, w.SetsTimer m t ∧ Clock.limit ≤ t)) ∧
    (w.warden.refresher = .broken →
      (∃ p, (p = settings.updatePeriod ∨ .stored p ∈ w.scene.journal.timings) ∧
        p.Outlasts w.scene.now) ∧
      ∀ ns v, w.run ns = some v → v.warden.refresher = .broken) := by
  refine ⟨fun now p => Schedule.start?_eq_none, fun s now p => Schedule.rearm?_eq_none,
    fun s now p => Schedule.reschedule?_eq_none, fun m v next whole => ?_, fun broken => ⟨?_, ?_⟩⟩
  · exact step_broken_iff next (run_tickedBefore h) whole
  · exact run_outlasts h broken
  · intro ns v runs
    exact run_broken runs broken

/-- The moves of a call that stores settings with this period, and tells the refresher. -/
def storePeriod (p : Duration) : List Move :=
  [.arrive (.setSettings { enabled := true, updatePeriod := p }), .caller 1, .caller 1]

/-- One minute after the clock began, a change to a period that ends with the last second of the clock
leaves the refresher whole, and a change to one that ends a second later breaks it. -/
theorem refresher_breaks_at_limit :
    ∃ w v w' v', periodic.run (skippedRestart ++ storePeriod (.ofSeconds (2 ^ 63 - 61))) = some w ∧
      w.step (.refresher .periodChanged) = some v ∧ v.warden.refresher ≠ .broken ∧
      periodic.run (skippedRestart ++ storePeriod (.ofSeconds (2 ^ 63 - 60))) = some w' ∧
      w'.step (.refresher .periodChanged) = some v' ∧ v'.warden.refresher = .broken := by
  have ran : ∀ p ∈ [Duration.ofSeconds (2 ^ 63 - 61), .ofSeconds (2 ^ 63 - 60)],
      ((periodic.run (skippedRestart ++ storePeriod p)).any fun w => decide
        (w.warden.refresher = .waiting ⟨.off, some 60000000000⟩ ∧ w.warden.periodChanged = true ∧
          w.scene.now = 60000000000 ∧ w.scene.settings.updatePeriod = p)) = true := by
    decide
  have breaks : ∀ p ∈ [Duration.ofSeconds (2 ^ 63 - 61), .ofSeconds (2 ^ 63 - 60)],
      ∃ w v, periodic.run (skippedRestart ++ storePeriod p) = some w ∧
        w.step (.refresher .periodChanged) = some v ∧
        (v.warden.refresher = .broken ↔ p ≠ .zero ∧ Clock.limit ≤ 60000000000 + p.nanos) := by
    intro p hp
    obtain ⟨w, hw, ran⟩ := (Option.any_eq_true _ _).1 (ran p hp)
    obtain ⟨waits, word, now, period⟩ := of_decide_eq_true ran
    have next := step_periodChanged waits word
    have whole : w.warden.refresher ≠ .broken := by
      rw [waits]
      rintro ⟨⟩
    refine ⟨w, _, hw, next, ((refresher_breaks_iff hw).2.2.2.1 _ _ next whole).trans ?_⟩
    have due : Schedule.due ⟨.off, some 60000000000⟩ w.scene.now p = 60000000000 + p.nanos := by
      rw [now]
      exact Nat.max_eq_right (Nat.le_add_right _ _)
    rw [period, ← due]
    refine and_congr_right fun _ => ⟨?_, fun beyond => ⟨_, .changed waits word, period ▸ beyond⟩⟩
    rintro ⟨t, sets, beyond⟩
    cases sets with
    | changed waits' word' =>
      cases waits.symm.trans waits'
      exact period ▸ beyond
  obtain ⟨w, v, hw, hv, whole⟩ := breaks (.ofSeconds (2 ^ 63 - 61)) (by decide)
  obtain ⟨w', v', hw', hv', broken⟩ := breaks (.ofSeconds (2 ^ 63 - 60)) (by decide)
  exact ⟨w, v, w', v', hw, hv, fun h => absurd (whole.1 h).2 (by decide), hw', hv',
    broken.2 (by decide)⟩

/-- A period that may be stored, and cannot be set on any route: the refresher that begins with it breaks
at once, and so does one that is to keep it from now on or from an earlier tick. -/
theorem longest_period_cannot_be_set :
    (∃ v, (World.initial {} { updatePeriod := .longest } fun _ => 0).step .beginRefresher = some v ∧
      v.warden.refresher = .broken) ∧
    Schedule.start? 0 .longest = none ∧ (Schedule.tick 0).rearm? 0 .longest = none ∧
      (Schedule.tick 0).reschedule? 0 .longest = none := by
  refine ⟨⟨_, rfl, ?_⟩, ?_, ?_, ?_⟩ <;> decide

end World

end DnsWarden
