import DnsWarden.Proofs.Turns

/-!
# The timer of the restarts

The journal says when the refresher's timer was set and from which period, when it ticked, when a
restart was skipped, and which periods were stored.  A `Dial` is this history with what the timer
reads and how the refresher stands to it, and a `Dial.Step` is one thing that can happen there.
Every move is such a step, by `World.step_dial`, so that `World.run_dial` gives every run what every
step keeps.
-/

namespace DnsWarden

/-! ## The history of the timer -/

/-- What the journal says of the timer. -/
inductive Timing where
  /-- The timer was set from a period. -/
  | set (instant : Nat) (period : Duration)
  | ticked (instant : Nat)
  /-- The refresh of the files has failed, and the restart was skipped. -/
  | skipped (f : RefreshFault)
  /-- Settings with this period were stored. -/
  | stored (period : Duration)
deriving DecidableEq

/-- What an entry of the journal says of the timer, if it says anything. -/
def Entry.timing? (e : Entry) : Option Timing :=
  match e.event with
  | .scheduled period => some (.set e.instant period)
  | .ticked => some (.ticked e.instant)
  | .notice (.refreshFailed f) => some (.skipped f)
  | .replaced s => some (.stored s.updatePeriod)
  | _ => none

/-- What was said of the timer so far, the newest first. -/
def Journal.timings (j : Journal) : List Timing := j.filterMap Entry.timing?

/-- When the timer was set last, and from which period. -/
def Timing.set? (l : List Timing) : Option (Nat × Duration) :=
  l.findSome? fun
    | .set i p => some (i, p)
    | _ => none

namespace Scene

/-- The clock, the stored period and the history of the timer. -/
def timekeeping (s : Scene) : Nat × Duration × List Timing :=
  (s.now, s.settings.updatePeriod, s.journal.timings)

section

variable (s : Scene)

theorem timekeeping_tell {n : Notice} (h : ∀ f, n ≠ .refreshFailed f) :
    (s.tell n).timekeeping = s.timekeeping := by
  cases n with
  | refreshFailed f => exact absurd rfl (h f)
  | _ => rfl

@[simp] theorem timekeeping_setStatus (x : Status) :
    (s.setStatus x).timekeeping = s.timekeeping := by
  unfold setStatus
  split <;> rfl

@[simp] theorem timekeeping_forsake (t : Ticket) : (s.forsake t).timekeeping = s.timekeeping := by
  unfold forsake
  split <;> rfl

@[simp] theorem timekeeping_answerPending (x : Status) :
    (s.answerPending x).timekeeping = s.timekeeping := by
  unfold answerPending
  split <;> rfl

@[simp] theorem timekeeping_hold (t : Option Ticket) : (s.hold t).timekeeping = s.timekeeping := by
  unfold hold
  split
  · rfl
  · exact s.timekeeping_forsake _

theorem timekeeping_systemPointed (failure : Option NameserverFault) :
    (s.systemPointed failure).timekeeping = s.timekeeping := by
  cases failure <;> rfl

theorem timekeeping_tellAll {ns : List Notice} (h : ∀ n ∈ ns, ∀ f, n ≠ .refreshFailed f) :
    (s.tellAll ns).timekeeping = s.timekeeping := by
  induction ns generalizing s with
  | nil => rfl
  | cons n ns ih =>
    have first := s.timekeeping_tell (h n List.mem_cons_self)
    exact (ih (s.tell n) fun n' hn => h n' (List.mem_cons_of_mem n hn)).trans first

end

theorem Handled.timekeeping {s s' : Scene} (h : s.Handled s') : s'.timekeeping = s.timekeeping := by
  obtain ⟨ps, -, rfl⟩ := h
  rfl

end Scene

theorem Refresh.resume_timekeeping {r : Refresh} {a : Answer} {s s' : Scene} {n : Next}
    (h : r.resume a s = some (s', n)) : s'.timekeeping = s.timekeeping := by
  unfold resume at h
  split at h <;> cases h
  · rfl
  · rfl
  · refine s.timekeeping_tellAll fun n hn => ?_
    obtain ⟨f, -, rfl⟩ := List.mem_map.1 hn
    exact nofun
  · rfl

/-! ## The watch has nothing to do with the timer -/

theorem Stride.timekeeping {x y : Stance} (h : Stride x y) :
    y.scene.timekeeping = x.scene.timekeeping := by
  cases h with
  | @retreat s m failed after ip =>
    exact (s.tallyRetreat failed).timekeeping_tell (by cases failed <;> exact nofun)
  | retreated failure | pointed failure => exact Scene.timekeeping_systemPointed _ failure
  | disable | ready =>
    exact (Scene.timekeeping_answerPending _ _).trans (Scene.timekeeping_setStatus _ _)
  | giveUp | giveUpAttempt => exact Scene.timekeeping_answerPending _ _
  | startIdle | endRestart | finish => exact Scene.timekeeping_hold _ _
  | finishRequest => exact (Scene.timekeeping_forsake _ _).trans (Scene.timekeeping_hold _ _)
  | refresh goes => exact Refresh.resume_timekeeping goes
  | request goes =>
    have same := Refresh.resume_timekeeping goes
    exact same
  | refreshFailed goes =>
    exact (Scene.timekeeping_setStatus _ _).trans (Refresh.resume_timekeeping goes)
  | @halt s m t session => exact (s.cancelSession_handled session).timekeeping
  | @haltQuiet s m t session =>
    exact (Scene.timekeeping_setStatus _ _).trans (s.cancelSession_handled session).timekeeping
  | @halted s m t session =>
    exact (Scene.timekeeping_setStatus _ _).trans (s.hear_handled session).timekeeping
  | @lostCancelled s m session =>
    exact ((s.hear_handled session).trans (Scene.cancelSession_handled _ session)).timekeeping
  | @lost s m session =>
    have handled := (s.hear_handled session).trans (Scene.cancelSession_handled _ session)
    exact (Scene.timekeeping_setStatus _ _).trans handled.timekeeping
  | refused =>
    exact (Scene.timekeeping_answerPending _ _).trans (Scene.timekeeping_setStatus _ _)
  | @probeFailed s s' m pid deadline f td ends =>
    have said : ((s.setStatus .crashed).answerPending .crashed).timekeeping = s.timekeeping := by simp
    exact (Teardown.begin_handled ends).timekeeping.trans said
  | clear ends => exact (Teardown.begin_handled ends).timekeeping
  | clearAttempt ends | clearing ends | cleared ends | clearedAttempt ends =>
    exact (Teardown.resume_handled ends).timekeeping
  | _ => rfl

theorem Tread.timekeeping {x y : Stance} (h : Tread x y) :
    y.scene.timekeeping = x.scene.timekeeping :=
  h.keep (J := fun z => z.scene.timekeeping = x.scene.timekeeping)
    (fun _ _ goes same => goes.timekeeping.trans same) rfl

theorem Watch.timekeeping_drop (w : Watch) : w.drop.scene.timekeeping = w.scene.timekeeping := by
  have released : (release w.scene w.phase).timekeeping = w.scene.timekeeping := by
    obtain ⟨s, handled, h | ⟨t, h⟩⟩ := release_handled w.scene w.phase
    · rw [h, handled.timekeeping]
    · rw [h, Scene.timekeeping_forsake, handled.timekeeping]
  have held := (Scene.timekeeping_hold (release w.scene w.phase) none).trans released
  unfold drop close
  dsimp only
  cases w.mailbox with
  | none => exact held
  | some r => exact (Scene.timekeeping_forsake _ _).trans held

namespace Desk

variable {d d' : Desk} {c : Client} {desired : Status} {a : Ask} {n : Ask.Next}

theorem step_timekeeping (h : d.step c desired a = some (d', n)) :
    d'.scene.timekeeping = d.scene.timekeeping := by
  cases a with
  | arriving =>
    cases h
    rfl
  | queued =>
    simp only [step] at h
    split_ifs at h
    cases h
    rfl
  | reading =>
    simp only [step, Option.some.injEq, decide] at h
    cases desired with
    | running | stopped =>
      dsimp only at h
      split_ifs at h <;> cases h <;> rfl
    | crashed =>
      cases h
      rfl
  | sending r =>
    simp only [step] at h
    split_ifs at h <;> cases h
    · exact Scene.timekeeping_forsake _ _
    · rfl
  | awaiting t =>
    simp only [step] at h
    split at h <;> cases h <;> rfl

theorem abandon_timekeeping (d : Desk) (c : Client) (a : Ask) :
    (d.abandon c a).scene.timekeeping = d.scene.timekeeping := by
  cases a with
  | sending r => exact Scene.timekeeping_forsake _ _
  | _ => rfl

end Desk

/-! ## Dials -/

/-- How the refresher stands to its timer. -/
inductive Mode where
  | unborn
  /-- It waits for the next tick, or for word that the period has changed. -/
  | waiting (s : Schedule)
  /-- It is at a restart. -/
  | restarting (s : Schedule)
  | gone

def Refresher.mode : Refresher → Mode
  | .unborn => .unborn
  | .waiting s => .waiting s
  | .refreshing s _ | .stopping s _ | .starting s _ => .restarting s
  | .returned | .broken | .dropped => .gone

/-- The schedule that the refresher waits with, or will be left with by its restart. -/
def Mode.schedule? : Mode → Option Schedule
  | .waiting s | .restarting s => some s
  | .unborn | .gone => none

/-- Whether a call has stored another period and has still to tell the refresher. -/
def Caller.tellsChange : Caller → Bool
  | .stored new old => old.updatePeriod ≠ new.updatePeriod
  | _ => false

/-- The refresher's timer, with what it reads and its history. -/
structure Dial where
  mode : Mode
  /-- The refresher has word that the period has changed. -/
  word : Bool
  /-- A call has still to tell the refresher that it has changed the period. -/
  telling : Bool
  now : Nat
  /-- The period that is stored. -/
  period : Duration
  timings : List Timing

namespace Dial

/-- The dial once the timer was set from a period, or could not be. -/
def set (x : Dial) (period : Duration) : Option Schedule → Dial
  | none => { x with mode := .gone }
  | some s => { x with mode := .waiting s, timings := .set x.now period :: x.timings }

/-- What can happen to a dial. -/
inductive Step : Dial → Dial → Prop where
  | rest {x telling} (keeps : x.telling = true → telling = true) : Step x { x with telling }
  | pass {x nanos} : Step x { x with now := x.now + nanos }
  /-- A call stores settings. -/
  | store {x period telling} (tells : x.telling = true ∨ period ≠ x.period → telling = true) :
    Step x { x with telling, period, timings := .stored period :: x.timings }
  /-- A call tells the refresher that it has changed the period. -/
  | tell {x telling} : Step x { x with word := true, telling }
  | begin {x} (unborn : x.mode = .unborn) : Step x (x.set x.period (Schedule.start? x.now x.period))
  | ring {x s} (waits : x.mode = .waiting s) (rings : s.alarm.rings x.now = true) :
    Step x { x with mode := .restarting (.tick x.now), timings := .ticked x.now :: x.timings }
  /-- The refresher takes note that the period has changed. -/
  | reschedule {x s} (waits : x.mode = .waiting s) (word : x.word = true) :
    Step x (set { x with word := false } x.period (s.reschedule? x.now x.period))
  | skip {x s} (restarts : x.mode = .restarting s) (f : RefreshFault) :
    Step x { x with mode := .waiting s, timings := .skipped f :: x.timings }
  | rearm {x s} (restarts : x.mode = .restarting s) :
    Step x (x.set x.period (s.rearm? x.now x.period))
  | stop {x} : Step x { x with mode := .gone }

end Dial

/-! ## Setting the timer -/

namespace Schedule

variable {s s' : Schedule} {last now : Nat} {p : Duration}

/-- When a period ends that began with the last tick, or that begins now if there was none. -/
def due (s : Schedule) (now : Nat) (p : Duration) : Nat :=
  match s.lastTick with
  | none => now + p.nanos
  | some t => max now (t + p.nanos)

/-- After a change of the period the timer is due when the new period ends that began with the last
tick, or at once. -/
theorem left_eq (ticked : s.lastTick = some last) (past : last ≤ now) :
    now + (p.minus (s.elapsed now)).nanos = max now (last + p.nanos) := by
  have bound := p.nanos_le
  have elapsed : (s.elapsed now).nanos = min (now - last) Duration.longestNanos := by
    simp [Schedule.elapsed, ticked]
  rw [Duration.nanos_minus, elapsed]
  omega

/-- A change of the period before the first tick begins it anew. -/
theorem left_eq_whole (unticked : s.lastTick = none) :
    now + (p.minus (s.elapsed now)).nanos = now + p.nanos := by
  simp [Schedule.elapsed, unticked, Duration.nanos_minus]

/-- What is left of a period ends when the period does. -/
theorem now_add_left (past : ∀ t, s.lastTick = some t → t ≤ now) :
    now + (p.minus (s.elapsed now)).nanos = s.due now p := by
  unfold due
  cases ticked : s.lastTick with
  | none => exact left_eq_whole ticked
  | some t => exact left_eq ticked (past t ticked)

theorem rearm?_eq_some (h : s.rearm? now p = some s') :
    s' = ⟨⟨if p = .zero then none else some (now + p.nanos)⟩, s.lastTick⟩ := by
  unfold rearm? at h
  split_ifs at h with zero
  · cases h
    rw [if_pos zero]
    rfl
  · obtain ⟨a, ha, rfl⟩ := Option.map_eq_some_iff.1 h
    obtain ⟨-, rfl⟩ := Alarm.set?_eq_some_iff.1 ha
    rw [if_neg zero]

theorem reschedule?_eq_some (h : s.reschedule? now p = some s') :
    s' = ⟨⟨if p = .zero then none else some (now + (p.minus (s.elapsed now)).nanos)⟩,
      s.lastTick⟩ := by
  unfold reschedule? at h
  split_ifs at h with zero
  · cases h
    rw [if_pos zero]
    rfl
  · obtain ⟨a, ha, rfl⟩ := Option.map_eq_some_iff.1 h
    obtain ⟨-, rfl⟩ := Alarm.set?_eq_some_iff.1 ha
    rw [if_neg zero]

end Schedule

/-! ## Callers -/

section

variable {callers : List Caller} {id : Nat} {old new : Caller}

/-- A call that goes on and told no change leaves the others to tell theirs. -/
theorem tellsChange_set (found : callers[id]? = some old) (quiet : old.tellsChange = false)
    (tells : callers.any Caller.tellsChange = true) :
    (callers.set id new).any Caller.tellsChange = true := by
  obtain ⟨c, here, tells⟩ := List.any_eq_true.1 tells
  obtain ⟨i, at_i⟩ := List.mem_iff_getElem?.1 here
  have other : id ≠ i := by
    rintro rfl
    obtain rfl : old = c := Option.some.inj (found.symm.trans at_i)
    cases quiet.symm.trans tells
  have kept : (callers.set id new)[i]? = some c := (List.getElem?_set_ne other).trans at_i
  exact List.any_eq_true.2 ⟨c, List.mem_of_getElem? kept, tells⟩

theorem tellsChange_set_self (found : callers[id]? = some old) (tells : new.tellsChange = true) :
    (callers.set id new).any Caller.tellsChange = true :=
  List.any_eq_true.2
    ⟨new, List.mem_of_getElem? (List.getElem?_set_self (List.getElem?_eq_some_iff.1 found).1), tells⟩

end

namespace World

/-- The refresher's timer as it stands. -/
def dial (w : World) : Dial where
  mode := w.warden.refresher.mode
  word := w.warden.periodChanged
  telling := w.callers.any Caller.tellsChange
  now := w.scene.now
  period := w.scene.settings.updatePeriod
  timings := w.scene.journal.timings

variable {w v : World} {id : Nat}

theorem dial_eq {mode : Mode} {word : Bool} {k : Nat × Duration × List Timing}
    (refresher : v.warden.refresher.mode = mode) (changed : v.warden.periodChanged = word)
    (scene : v.scene.timekeeping = k) :
    v.dial = ⟨mode, word, v.callers.any Caller.tellsChange, k.1, k.2.1, k.2.2⟩ := by
  subst refresher changed scene
  rfl

theorem schedule?_dial {s : Schedule} (waits : w.warden.refresher = .waiting s) :
    w.dial.mode.schedule? = some s :=
  congrArg (fun r : Refresher => r.mode.schedule?) waits

theorem dial_of_same (refresher : v.warden.refresher.mode = w.warden.refresher.mode)
    (word : v.warden.periodChanged = w.warden.periodChanged)
    (scene : v.scene.timekeeping = w.scene.timekeeping)
    (keeps : w.callers.any Caller.tellsChange = true → v.callers.any Caller.tellsChange = true) :
    Dial.Step w.dial v.dial := by
  rw [dial_eq refresher word scene]
  exact .rest (x := w.dial) keeps

/-- A caller's step at the desk leaves the timer alone. -/
theorem ask_dial {old : Caller} {desired : Status} {a : Ask} {waiting : Ask → Caller}
    {done : Except CallFault StatusOutcome → Caller} (found : w.callers[id]? = some old)
    (quiet : old.tellsChange = false) (h : w.ask id desired a waiting done = some v) :
    Dial.Step w.dial v.dial := by
  obtain ⟨⟨d, n⟩, step, hv⟩ := Option.map_eq_some_iff.1 h
  have same := Desk.step_timekeeping step
  cases n <;> cases hv <;> exact dial_of_same rfl rfl same (tellsChange_set found quiet)

theorem compare_dial {new old : Settings} (found : w.callers[id]? = some (.stored new old)) :
    Dial.Step w.dial (w.compare id new old).dial := by
  unfold compare
  split_ifs with same changed period period
  · subst same
    exact dial_of_same rfl rfl rfl (tellsChange_set found (by simp [Caller.tellsChange]))
  · exact .tell
  · exact .tell
  · exact dial_of_same rfl rfl rfl
      (tellsChange_set found (by simpa [Caller.tellsChange] using changed))
  · exact dial_of_same rfl rfl rfl
      (tellsChange_set found (by simpa [Caller.tellsChange] using changed))

theorem caller_dial (h : w.caller? id = some v) : Dial.Step w.dial v.dial := by
  unfold caller? at h
  split at h
  next found => exact ask_dial found rfl h
  next new found =>
    cases h
    refine .store fun tells => ?_
    obtain tells | changed := tells
    · exact tellsChange_set found rfl tells
    · exact tellsChange_set_self found (decide_eq_true (Ne.symm changed))
  next found =>
    cases h
    exact compare_dial found
  next found => exact ask_dial found rfl h
  next found => exact ask_dial found rfl h
  next => cases h

theorem leave_dial (h : w.leave? id = some v) : Dial.Step w.dial v.dial := by
  have goes : ∀ old a, w.callers[id]? = some old → old.tellsChange = false →
      Dial.Step w.dial ((w.abandon id a).setCaller id .gone).dial := fun old a found quiet =>
    dial_of_same rfl rfl (w.warden.desk.abandon_timekeeping (.caller id) a)
      (tellsChange_set found quiet)
  unfold leave? at h
  split at h <;> cases h
  next found => exact goes _ _ found rfl
  next found => exact goes _ _ found rfl
  next found => exact goes _ _ found rfl
  next found => exact dial_of_same rfl rfl rfl (tellsChange_set found rfl)

end World

/-! ## The refresher -/

namespace World

variable {w v : World} {m : Move}

/-- What the refresher does at a restart leaves the timer alone, until the restart is over. -/
theorem restarting_dial {o : Warden} {s : Schedule} (before : w.warden.refresher.mode = .restarting s)
    (after : o.refresher.mode = .restarting s) (word : o.periodChanged = w.warden.periodChanged)
    (scene : o.scene.timekeeping = w.scene.timekeeping) :
    Dial.Step w.dial { w with warden := o }.dial :=
  dial_of_same (v := { w with warden := o }) (after.trans before.symm) word scene id

/-- The timer is set from a period, and the journal says from which. -/
theorem scheduled_dial (w : World) (period : Duration) (set? : Duration → Option Schedule) :
    { w with warden := w.warden.scheduled period set? }.dial = w.dial.set period (set? period) := by
  unfold Warden.scheduled
  cases set? period <;> rfl

/-- A refresh that failed leaves the timer as the tick left it. -/
theorem skipped_dial {c : Scene} {s : Schedule} (f : RefreshFault)
    (same : c.timekeeping = w.scene.timekeeping) :
    { w with warden := (w.warden.update fun _ => c).refreshed s (some f) }.dial =
      { w.dial with mode := .waiting s, timings := .skipped f :: w.dial.timings } := by
  have before := (c.timekeeping_setStatus .crashed).trans same
  have said : ((c.setStatus .crashed).tell (.refreshFailed f)).timekeeping =
      (w.scene.now, w.scene.settings.updatePeriod, .skipped f :: w.scene.journal.timings) :=
    congrArg (fun k => (k.1, k.2.1, .skipped f :: k.2.2)) before
  exact dial_eq (v := { w with warden := (w.warden.update fun _ => c).refreshed s (some f) }) rfl rfl
    said

/-- Once the resolver was started again, or could not be, the timer is set again. -/
theorem started_dial {d : Desk} (s : Schedule) (result : Except CallFault StatusOutcome)
    (same : d.scene.timekeeping = w.scene.timekeeping) :
    { w with warden := ({ w.warden with desk := d } : Warden).started s result }.dial =
      w.dial.set w.dial.period (s.rearm? w.dial.now w.dial.period) := by
  obtain ⟨o, ho, told⟩ : ∃ o : Warden,
      ({ w.warden with desk := d } : Warden).started s result =
        o.scheduled o.scene.settings.updatePeriod (s.rearm? o.scene.now) ∧
      { w with warden := o }.dial = w.dial := by
    refine ⟨_, rfl, dial_eq rfl rfl (Eq.trans ?_ same)⟩
    cases result <;> rfl
  have now : o.scene.now = w.dial.now := congrArg Dial.now told
  have period : o.scene.settings.updatePeriod = w.dial.period := congrArg Dial.period told
  rw [ho, scheduled_dial { w with warden := o }, told, now, period]

/-- A refresher that goes away leaves the history of its timer. -/
theorem abandoned_dial {r : Refresher} (gone : r.mode = .gone) :
    { w with warden := w.warden.abandon.wait r }.dial = { w.dial with mode := .gone } := by
  have same : w.warden.abandon.scene.timekeeping = w.scene.timekeeping := by
    unfold Warden.abandon
    split
    · exact w.warden.desk.abandon_timekeeping .refresher _
    · exact w.warden.desk.abandon_timekeeping .refresher _
    · rfl
  have word : w.warden.abandon.periodChanged = w.warden.periodChanged := by
    unfold Warden.abandon
    split <;> rfl
  exact dial_eq (v := { w with warden := w.warden.abandon.wait r }) gone word same

/-- The refresher can take word of a change wherever it waits, and sets its timer then. -/
theorem step_periodChanged {s : Schedule} (waits : w.warden.refresher = .waiting s)
    (word : w.warden.periodChanged = true) :
    w.step (.refresher .periodChanged) =
      some { w with
        warden := ({ w.warden with periodChanged := false } : Warden).scheduled
          w.scene.settings.updatePeriod (s.reschedule? w.scene.now) } := by
  simp only [step, Warden.resume, waits, word, if_true, Option.map_some]
  rfl

theorem refresher_dial {i : RefresherInput} {o : Warden} (h : w.warden.resume i = some o) :
    Dial.Step w.dial { w with warden := o }.dial := by
  unfold Warden.resume at h
  split at h
  next refresher =>
    split_ifs at h with rings
    cases h
    have waits : w.dial.mode = .waiting _ := congrArg Refresher.mode refresher
    unfold Warden.restart
    dsimp only
    split_ifs
    · exact .ring waits rings
    · exact .ring waits rings
  next refresher =>
    split_ifs at h with word
    cases h
    have waits : w.dial.mode = .waiting _ := congrArg Refresher.mode refresher
    rw [scheduled_dial { w with warden := { w.warden with periodChanged := false } }]
    exact .reschedule waits word
  next s r a refresher =>
    obtain ⟨⟨c, n⟩, hr, hv⟩ := Option.map_eq_some_iff.1 h
    have same := Refresh.resume_timekeeping hr
    have restarts : w.warden.refresher.mode = .restarting s := congrArg Refresher.mode refresher
    rcases n with r' | _ | f
    · cases hv
      exact restarting_dial restarts rfl rfl same
    · cases hv
      exact restarting_dial restarts rfl rfl same
    · cases hv
      rw [skipped_dial f same]
      exact .skip restarts f
  next s a refresher =>
    obtain ⟨⟨d, n⟩, hs, hv⟩ := Option.map_eq_some_iff.1 h
    have same := Desk.step_timekeeping hs
    have restarts : w.warden.refresher.mode = .restarting s := congrArg Refresher.mode refresher
    cases n with
    | waiting a' =>
      cases hv
      exact restarting_dial restarts rfl rfl same
    | done result =>
      cases hv
      cases result <;> exact restarting_dial restarts rfl rfl same
  next s a refresher =>
    obtain ⟨⟨d, n⟩, hs, hv⟩ := Option.map_eq_some_iff.1 h
    have same := Desk.step_timekeeping hs
    have restarts : w.warden.refresher.mode = .restarting s := congrArg Refresher.mode refresher
    cases n with
    | waiting a' =>
      cases hv
      exact restarting_dial restarts rfl rfl same
    | done result =>
      cases hv
      rw [started_dial s result same]
      exact .rearm restarts
  next =>
    split_ifs at h
    cases h
    rw [abandoned_dial rfl]
    exact .stop
  next => cases h

/-- Every move is a step of the dial. -/
theorem step_dial (h : w.step m = some v) : Dial.Step w.dial v.dial := by
  cases m with
  | run =>
    simp only [step] at h
    split_ifs at h with unborn
    cases h
    exact dial_of_same rfl rfl (Watch.begin_tread unborn).timekeeping id
  | watch i =>
    obtain ⟨x, hx, rfl⟩ := Option.map_eq_some_iff.1 h
    exact dial_of_same rfl rfl (Watch.resume_tread hx).timekeeping id
  | dropWatch =>
    simp only [step] at h
    split_ifs at h
    cases h
    exact dial_of_same rfl rfl w.watch.timekeeping_drop id
  | beginRefresher =>
    simp only [step] at h
    split_ifs at h with unborn
    cases h
    unfold Warden.beginRefresher
    rw [scheduled_dial w]
    exact .begin (congrArg Refresher.mode unborn)
  | refresher i =>
    obtain ⟨o, ho, rfl⟩ := Option.map_eq_some_iff.1 h
    exact refresher_dial ho
  | dropRefresher =>
    simp only [step] at h
    split_ifs at h
    cases h
    unfold Warden.dropRefresher
    rw [abandoned_dial rfl]
    exact .stop
  | arrive p =>
    cases h
    refine dial_of_same rfl rfl rfl fun tells => ?_
    simp only [List.any_append, tells, Bool.true_or]
  | caller id => exact caller_dial h
  | leave id => exact leave_dial h
  | exit pid note =>
    obtain ⟨s, hs, rfl⟩ := Option.map_eq_some_iff.1 h
    obtain ⟨p, -, hs⟩ := Option.bind_eq_some_iff.1 hs
    split_ifs at hs
    cases hs
    exact dial_of_same rfl rfl rfl id
  | print pid stream line =>
    obtain ⟨s, hs, rfl⟩ := Option.map_eq_some_iff.1 h
    obtain ⟨p, -, hs⟩ := Option.bind_eq_some_iff.1 hs
    obtain ⟨c, -, rfl⟩ := Option.map_eq_some_iff.1 hs
    exact dial_of_same rfl rfl rfl id
  | collect pid n =>
    obtain ⟨s, hs, rfl⟩ := Option.map_eq_some_iff.1 h
    obtain ⟨p, -, hs⟩ := Option.bind_eq_some_iff.1 hs
    obtain ⟨⟨c, told⟩, -, rfl⟩ := Option.map_eq_some_iff.1 hs
    cases told <;> exact dial_of_same rfl rfl rfl id
  | cancelWatch | cancelRefresher | hangUp _ _ =>
    cases h
    exact dial_of_same rfl rfl rfl id
  | pass nanos =>
    cases h
    exact .pass (x := w.dial)

variable {policy : Policy} {settings : Settings} {draws : Nat → Nat} {ms : List Move}

/-- What every step of the dial keeps, every run keeps. -/
theorem run_dial {J : Dial → Prop} (keeps : ∀ x y, Dial.Step x y → J x → J y)
    (h : (World.initial policy settings draws).run ms = some w)
    (initial : J (World.initial policy settings draws).dial) : J w.dial := by
  have onward : ∀ u : World, J u.dial → u.run ms = some w → J w.dial := by
    clear h
    induction ms with
    | nil =>
      intro u hu hw
      cases hw
      exact hu
    | cons m ms ih =>
      intro u hu hw
      obtain ⟨v, hv, hw⟩ := Option.bind_eq_some_iff.1 hw
      exact ih v (keeps _ _ (step_dial hv) hu) hw
  exact onward _ initial h

end World

end DnsWarden
