import DnsWarden.Proofs.Acknowledgement
import DnsWarden.Proofs.Calls
import DnsWarden.Proofs.Cancellation

/-!
# Starts after a stop

Every periodic restart ends with a start request, whether or not a resolver was up before it.  So a
caller that was told that the resolver is stopped can rely on it only until then.  As long as no caller
asks for a resolver, nothing but this request brings about an attempt: `World.stopped_until_restart`.
-/

namespace DnsWarden

/-! ## Who asks for a resolver -/

/-- Whether a call asks for a resolver, or may come to do so. -/
def Caller.mayStart : Caller → Bool
  | .asking desired _ => desired = .running
  | .done _ | .gone => false
  | _ => true

theorem Caller.mayStart_of_isOver {c : Caller} (h : c.isOver = true) : c.mayStart = false := by
  cases c with
  | done _ | gone => rfl
  | _ => cases h

/-- A call that asks for no resolver asks for no running status. -/
theorem Caller.ask?_ne_running {c : Caller} (h : c.mayStart = false) (a : Ask) :
    c.ask? ≠ some (.running, a) := by
  intro asked
  cases c with
  | asking desired a' =>
    cases asked
    cases h
  | done _ | gone => cases asked
  | _ => cases h

/-- Whether somebody calls who asks for a resolver, or may come to do so. -/
def Move.mayStart : Move → Bool
  | .arrive (.setStatus desired) => desired = .running
  | .arrive (.setSettings _) => true
  | _ => false

/-- Whether the refresher has sent the start request of a restart and waits for the reply. -/
def Warden.awaitsStart (o : Warden) : Bool :=
  match o.refresher with
  | .starting _ (.awaiting _) => true
  | _ => false

theorem Warden.awaitsStart_of_ask? {o : Warden} {t : Ticket}
    (h : o.refresher.ask? = some (.running, .awaiting t)) : o.awaitsStart = true := by
  unfold awaitsStart
  cases refresher : o.refresher with
  | starting s a =>
    rw [refresher] at h
    cases h
    rfl
  | _ =>
    rw [refresher] at h
    cases h

namespace World

variable {w v : World} {m : Move}

/-- No caller asks for a resolver. -/
def Unasked (w : World) : Prop := ∀ c ∈ w.callers, c.mayStart = false

theorem Unasked.set (hw : w.Unasked) (id : Nat) {c : Caller} (quiet : c.mayStart = false)
    (same : v.callers = w.callers.set id c) : v.Unasked := by
  intro c' here
  rw [same] at here
  obtain here | rfl := List.mem_or_eq_of_mem_set here
  · exact hw c' here
  · exact quiet

theorem Unasked.caller {id : Nat} (hw : w.Unasked) (h : w.caller? id = some v) : v.Unasked := by
  have quiet : ∀ c, w.callers[id]? = some c → c.mayStart = false :=
    fun c found => hw c (List.mem_of_getElem? found)
  unfold caller? at h
  split at h
  next desired a found =>
    obtain ⟨⟨d, n⟩, -, hv⟩ := Option.map_eq_some_iff.1 h
    cases n with
    | waiting a' =>
      cases hv
      have before : (Caller.asking desired a).mayStart = false := quiet _ found
      exact hw.set (c := .asking desired a') id before rfl
    | done result =>
      cases hv
      exact hw.set id rfl rfl
  next found => cases quiet _ found
  next found => cases quiet _ found
  next found => cases quiet _ found
  next found => cases quiet _ found
  next => cases h

/-- Until somebody calls who does, no caller asks for a resolver. -/
theorem Unasked.step (hw : w.Unasked) (h : w.step m = some v) (unasked : m.mayStart = false) :
    v.Unasked := by
  cases m with
  | run | dropWatch | beginRefresher | dropRefresher =>
    simp only [World.step] at h
    split_ifs at h
    cases h
    exact hw
  | watch _ | refresher _ | exit _ _ | print _ _ _ | collect _ _ =>
    obtain ⟨x, -, rfl⟩ := Option.map_eq_some_iff.1 h
    exact hw
  | cancelWatch | cancelRefresher | hangUp _ _ | pass _ =>
    cases h
    exact hw
  | arrive p =>
    cases h
    intro c here
    obtain here | here := List.mem_append.1 here
    · exact hw c here
    · obtain rfl := List.mem_singleton.1 here
      cases p with
      | setStatus desired => exact unasked
      | setSettings new => cases unasked
  | caller id => exact hw.caller h
  | leave id =>
    have h : w.leave? id = some v := h
    unfold leave? at h
    split at h <;> cases h
    all_goals exact hw.set id rfl rfl

end World

/-! ## Attempts after a stop -/

/-- A watch that tends its process is at a place of rest, with so many attempts begun before. -/
structure Stance.Lies (attempts : Nat) (x : Stance) : Prop where
  tends : x.Tends
  place : x.stand.Rests x.scene
  attempts : x.scene.journal.attempts = attempts

section

variable {n : Nat} {x y : Stance}

/-- The watch itself leaves a place of rest only for a start request. -/
theorem Stride.lies (h : Stride x y) (hx : x.Lies n) (empty : ∀ t, x.mailbox ≠ some (.start t)) :
    y.Lies n := by
  refine ⟨h.tends hx.tends, ?_, ?_⟩
  · obtain place | ⟨t, sent, -⟩ := h.rests_place hx.tends hx.place
    · exact place
    · exact absurd sent (empty t)
  · obtain same | ⟨was, -⟩ := h.attempts
    · exact same.trans hx.attempts
    · have place := hx.place
      rw [was] at place
      exact place.elim

theorem Nudge.lies (h : Nudge x y) (hx : x.Lies n) : y.Lies n :=
  ⟨(Shift.nudge h).tends x y hx.tends, h.rests_place hx.place,
    (Scene.attempts_of_cadence h.cadence).trans hx.attempts⟩

theorem Nudges.lies (h : Nudges x y) (hx : x.Lies n) : y.Lies n := by
  induction h with
  | refl => exact hx
  | tail _ last ih => exact last.lies ih

/-- A watch that goes on without a start request in its mailbox still lies at rest at its next wait. -/
theorem Tread.lies (h : Tread x y) (hx : x.Lies n) (empty : ∀ t, x.mailbox ≠ some (.start t)) :
    y.Lies n ∧ ∀ t, y.mailbox ≠ some (.start t) := by
  refine h.keep (J := fun z => z.Lies n ∧ ∀ t, z.mailbox ≠ some (.start t)) ?_ ⟨hx, empty⟩
  rintro z z' goes ⟨lies, empty⟩
  refine ⟨goes.lies lies empty, fun t sent => ?_⟩
  obtain same | none := goes.mailbox
  · exact empty t (same.symm.trans sent)
  · cases none.symm.trans sent

end

namespace World

variable {n : Nat} {w v : World} {m : Move}

/-- The resolver is stopped, and nobody has asked for one. -/
structure Sleeps (n : Nat) (w : World) : Prop where
  attends : w.Attends
  lies : w.stance.Lies n
  empty : ∀ t, w.stance.mailbox ≠ some (.start t)
  unasked : w.Unasked

/-- Only a restart wakes the watch up. -/
theorem Sleeps.step (hw : w.Sleeps n) (h : w.step m = some v) (unasked : m.mayStart = false)
    (unrestarted : v.warden.awaitsStart = false) : v.Sleeps n := by
  have unasked := hw.unasked.step h unasked
  have posted : v.stance.Lies n ∧ ∀ t, v.stance.mailbox ≠ some (.start t) := by
    cases hw.attends.sound.turn h with
    | watch tread _ _ => exact tread.lies hw.lies hw.empty
    | @drop isOpen begun dropped _ _ =>
      unfold World.stance
      rw [dropped]
      refine ⟨⟨(Shift.drop isOpen begun).tends _ _ hw.lies.tends, trivial, ?_⟩, ?_⟩
      · exact (Scene.attempts_of_cadence w.watch.cadence_drop).trans hw.lies.attempts
      · rw [show w.watch.drop.stance.mailbox = none from w.watch.mailbox_drop]
        exact nofun
    | beside murmurs _ _ =>
      refine ⟨murmurs.nudges.lies hw.lies, ?_⟩
      rw [show v.stance.mailbox = w.stance.mailbox from congrArg Book.mailbox murmurs.book]
      exact hw.empty
    | leave drops nudges =>
      obtain ⟨c, departs⟩ := step_departs h drops
      refine ⟨nudges.lies hw.lies, ?_⟩
      rw [departs.mailbox]
      exact hw.empty
    | @desk c desired a d n asked step _ murmurs leads _ =>
      refine ⟨murmurs.nudges.lies ((Desk.step_nudges step).lies hw.lies), fun t sent => ?_⟩
      rw [show v.stance.mailbox = d.watch.stance.book.mailbox from
        congrArg Book.mailbox murmurs.book] at sent
      obtain ⟨-, same, -⟩ | ⟨r, rfl, rfl, -, same, -⟩ := Desk.step_sends step
      · exact hw.empty t (same.symm.trans sent)
      · obtain rfl := Option.some.inj (same.symm.trans sent)
        obtain rfl : Status.running = desired := hw.attends.writes c desired _ asked
        -- The client that has sent it is a caller who asks for a resolver, or the refresher.
        cases c with
        | caller id =>
          obtain ⟨caller, found, asks⟩ := Option.bind_eq_some_iff.1 leads
          exact caller.ask?_ne_running (unasked caller (List.mem_of_getElem? found)) _ asks
        | refresher =>
          rw [Warden.awaitsStart_of_ask? leads] at unrestarted
          cases unrestarted
  exact ⟨hw.attends.step h, posted.1, posted.2, unasked⟩

variable {policy : Policy} {settings : Settings} {draws : Nat → Nat} {ms ns : List Move} {u : World}
  {id : Nat} {a : Ask} {o : StatusOutcome}

/--
In a run in which nobody gives up, a caller that asks for a stop is told that the resolver is stopped,
while no other call is under way.  From then on, and until somebody calls who asks for a resolver or
stores settings, no attempt begins before the refresher has sent the start request of a restart.
-/
theorem stopped_until_restart (h : (World.initial policy settings draws).run ms = some w)
    (patient : (World.initial policy settings draws).isPatient ms = true)
    (asking : w.callers[id]? = some (.asking .stopped a)) (hv : w.step (.caller id) = some v)
    (told : v.callers[id]? = some (.done (.status (.ok o))))
    (alone : ∀ c ∈ v.callers, c.isOver = true) (hu : v.run ns = some u)
    (unasked : ∀ m ∈ ns, m.mayStart = false)
    (unrestarted : v.throughout (fun x => !x.warden.awaitsStart) ns = true) :
    u.scene.journal.attempts = v.scene.journal.attempts := by
  obtain ⟨settles, same⟩ := settles_of_told asking hv told
  have quiet : v.stance.IsQuiet := by
    unfold World.stance
    rw [same]
    exact rests_of_told h patient settles
  have start : v.Sleeps v.scene.journal.attempts := by
    refine ⟨(run_attends h).step hv, ⟨?_, quiet.2.2, rfl⟩, ?_, ?_⟩
    · exact ((run_sound h).passage hv).keep Shift.tends (run_tends h)
    · rw [quiet.1]
      exact nofun
    · exact fun c here => Caller.mayStart_of_isOver (alone c here)
  have later : u.Sleeps v.scene.journal.attempts := by
    refine keep_throughout (fun m hm x y step _ unrestarted hx => ?_) hu unrestarted start
    exact hx.step step (unasked m hm) (by simpa using unrestarted)
  exact later.lies.attempts

/-- The moves of a first session, after which the refresher is driven. -/
def drivenSession : List Move := firstSession ++ [.caller 0, .beginRefresher]

/-- The moves of a caller that asks for a stop, up to where the reply is given. -/
def secondStop : List Move :=
  [.arrive (.setStatus .stopped), .caller 1, .caller 1, .caller 1, .caller 1, .watch .request,
    .watch (.answer (.systemPointed none)), .exit 0 .clean, .watch .ended]

/-- The refresher's period passes. -/
def tick : List Move := [.pass 60000000000, .refresher .rang]

/-- The answers to a refresh of the files by the refresher. -/
def refreshAnswers : List Move :=
  [.refresher (.answer (.filesSetUp none)), .refresher (.answer (.listsBuilt {})),
    .refresher (.answer (.configWritten none))]

/-- The refresher asks for a stop and finds the resolver stopped. -/
def forcedStop : List Move := [.refresher .ask, .refresher .ask, .refresher .ask]

theorem stopped_until_first_restart :
    ∃ w v u, periodic.run (drivenSession ++ secondStop) = some w ∧
      w.callers[1]? = some (.asking .stopped (.awaiting 1)) ∧ w.step (.caller 1) = some v ∧
      v.callers[1]? = some (.done (.status (.ok (.changed .stopped)))) ∧
      v.run (tick ++ forcedStop) = some u ∧
      u.scene.journal.attempts = v.scene.journal.attempts := by
  have ran : ((periodic.run (drivenSession ++ secondStop)).any fun w =>
      (w.step (.caller 1)).any fun v => (v.run (tick ++ forcedStop)).isSome &&
        v.throughout (fun x => !x.warden.awaitsStart) (tick ++ forcedStop) && decide
          (w.callers[1]? = some (.asking .stopped (.awaiting 1)) ∧
            v.callers[1]? = some (.done (.status (.ok (.changed .stopped)))) ∧
            ∀ c ∈ v.callers, c.isOver = true)) = true := by
    decide
  obtain ⟨w, hw, ran⟩ := (Option.any_eq_true _ _).1 ran
  obtain ⟨v, hv, ran⟩ := (Option.any_eq_true _ _).1 ran
  simp only [Bool.and_eq_true, decide_eq_true_eq] at ran
  obtain ⟨⟨goes, unrestarted⟩, asking, told, alone⟩ := ran
  obtain ⟨u, hu⟩ := Option.isSome_iff_exists.1 goes
  exact ⟨w, v, u, hw, asking, hv, told, hu,
    stopped_until_restart hw (by decide) asking hv told alone hu (by decide) unrestarted⟩

/-- The moves of the refresher's start request, and those of the watch up to the next attempt. -/
def forcedStart : List Move :=
  [.refresher .ask, .refresher .ask, .refresher .ask, .refresher .ask, .watch .request, .hangUp 0 .out,
    .hangUp 0 .err, .collect 0 (.read .out), .collect 0 (.read .err), .watch .ended,
    .watch (.answer (.systemPointed none))]

/-- A caller that asks for a stop is told after some moves that the resolver is stopped, while no other
call is under way.  Nobody asks for a resolver in the moves that follow, and nobody gives up, and yet an
attempt begins. -/
def UndoesStop (before after : List Move) : Prop :=
  periodic.isPatient (before ++ .caller 1 :: after) = true ∧ (∀ m ∈ after, m.mayStart = false) ∧
    ∃ w v u, periodic.run before = some w ∧ w.callers[1]? = some (.asking .stopped (.awaiting 1)) ∧
      w.step (.caller 1) = some v ∧
      v.callers[1]? = some (.done (.status (.ok (.changed .stopped)))) ∧
      (∀ c ∈ v.callers, c.isOver = true) ∧ v.run after = some u ∧
      u.scene.journal.attempts = v.scene.journal.attempts + 1

theorem undoesStop_of_run {before after : List Move}
    (patient : periodic.isPatient (before ++ .caller 1 :: after) = true)
    (unasked : ∀ m ∈ after, m.mayStart = false)
    (ran : ((periodic.run before).any fun w => (w.step (.caller 1)).any fun v =>
      (v.run after).any fun u => decide
        (w.callers[1]? = some (.asking .stopped (.awaiting 1)) ∧
          v.callers[1]? = some (.done (.status (.ok (.changed .stopped)))) ∧
          (∀ c ∈ v.callers, c.isOver = true) ∧
          u.scene.journal.attempts = v.scene.journal.attempts + 1)) = true) :
    UndoesStop before after := by
  obtain ⟨w, hw, ran⟩ := (Option.any_eq_true _ _).1 ran
  obtain ⟨v, hv, ran⟩ := (Option.any_eq_true _ _).1 ran
  obtain ⟨u, hu, ran⟩ := (Option.any_eq_true _ _).1 ran
  obtain ⟨asking, told, alone, more⟩ := of_decide_eq_true ran
  exact ⟨patient, unasked, w, v, u, hw, asking, hv, told, alone, hu, more⟩

/-- After a stop that was acknowledged, a restart starts the resolver that the caller stopped, whether it
falls after the stop or its refresh of the files was in progress. -/
theorem restart_undoes_stop :
    UndoesStop (drivenSession ++ secondStop) (tick ++ forcedStop ++ forcedStart) ∧
      UndoesStop (drivenSession ++ tick ++ secondStop) (refreshAnswers ++ forcedStop ++ forcedStart) :=
  ⟨undoesStop_of_run (by decide) (by decide) (by decide),
    undoesStop_of_run (by decide) (by decide) (by decide)⟩

end World

end DnsWarden
