import DnsWarden.Proofs.Order
import DnsWarden.Proofs.Refusals

/-!
# A resolver that was stopped

In a run in which nobody gives up, the clients stand in turn and their requests are in order, so that a
stopped status means that the watch rests.  The main statement is `World.stopped_until_start`: once a
client was told that the resolver is stopped, nothing runs until a start request is sent, and a start
request that reaches a session finds no process there.
-/

namespace DnsWarden

section

variable {asks : Client → Option (Status × Ask)} {x y : Stance}

/-! ## Moves -/

/-- A watch that was dropped stays so. -/
theorem Shift.dropped (x y : Stance) (h : Shift x y) (hx : x.stand = .waiting .dropped) :
    y.stand = .waiting .dropped := by
  cases h with
  | stride h => exact absurd hx h.driven.1
  | nudge h => cases h <;> exact hx
  | drop _ _ => rfl

/-- What was stored so far before a move is among what was stored after it. -/
theorem Passage.known {first : Settings} (h : Passage x y) (known : y.scene.Known first) :
    x.scene.Known first := by
  refine Classical.byContradiction fun unknown => ?_
  have kept : ∀ x y, Shift x y → ¬ x.scene.Known first → ¬ y.scene.Known first :=
    fun _ _ shift => mt shift.known
  exact h.keep kept unknown known

/-- From one wait to the next the watch keeps the order. -/
theorem Tread.orderly {first : Settings} (h : Tread x y) (one : OneServed asks) (agrees : x.Agrees)
    (points : x.Points first) (known : y.scene.Known first)
    (plain : x.PlainWhenStopped) (order : x.Orderly asks) : y.PlainWhenStopped ∧ y.Orderly asks := by
  have step : ∀ x y, Stride x y →
      (x.Agrees ∧ x.Points first ∧ (x.scene.Known first → x.PlainWhenStopped ∧ x.Orderly asks)) →
      y.Agrees ∧ y.Points first ∧ (y.scene.Known first → y.PlainWhenStopped ∧ y.Orderly asks) := by
    rintro x y goes ⟨agrees, points, order⟩
    have agrees' := agrees.shift x y (.stride goes)
    have points' := points.shift x y (.stride goes)
    refine ⟨agrees', points', fun known => ?_⟩
    obtain ⟨plain, order⟩ := order (Shift.known (.stride goes) known)
    have bears := points'.bears known
    exact ⟨goes.plainWhenStopped agrees'.status bears plain,
      order.stride one goes agrees.tends bears⟩
  exact (h.keep step ⟨agrees, points, fun _ => ⟨plain, order⟩⟩).2.2 known

theorem Nudges.plainWhenStopped (h : Nudges x y) (hx : x.PlainWhenStopped) : y.PlainWhenStopped := by
  induction h with
  | refl => exact hx
  | tail _ last ih => exact last.plainWhenStopped ih

theorem Murmurs.orderly (h : Murmurs x y) (hx : x.PlainWhenStopped ∧ x.Orderly asks) :
    y.PlainWhenStopped ∧ y.Orderly asks := by
  induction h with
  | refl => exact hx
  | tail _ last ih => exact ⟨last.nudge.plainWhenStopped ih.1, ih.2.murmur last⟩

end

namespace World

variable {first : Settings} {w v : World} {m : Move} {ms : List Move}

/-- The clients stand in turn, and while plaintext nameservers are known the watch and the requests
are in order. -/
structure Fair (first : Settings) (w : World) : Prop where
  sound : w.Sound
  agrees : w.stance.Agrees
  points : w.stance.Points first
  turn : InTurn w.queue w.ask?
  order : w.scene.Known first → w.watch.phase ≠ .dropped →
    w.stance.PlainWhenStopped ∧ w.stance.Orderly w.ask?

/-- A watch whose status is stopped rests if no request is under way. -/
theorem Fair.rests (hw : w.Fair first) (known : w.scene.Known first) (driven : w.watch.phase ≠ .dropped)
    (stopped : w.scene.status = .stopped) (owed : w.stance.owed = []) : w.stance.Rests :=
  hw.agrees.rests (hw.order known driven).1 driven stopped owed

/-- Every move that gives up nothing is fair. -/
theorem Fair.step (hw : w.Fair first) (h : w.step m = some v) (patient : w.drops m = false) :
    v.Fair first := by
  have passage := hw.sound.passage h
  have turn := hw.sound.turn h
  have one := hw.turn.oneServed
  have driven : v.watch.phase ≠ .dropped → w.watch.phase ≠ .dropped := by
    intro here dropped
    have stays : v.stance.stand = .waiting .dropped :=
      passage.keep Shift.dropped (congrArg Stand.waiting dropped)
    exact here (Stand.waiting.inj stays)
  refine ⟨hw.sound.step h, passage.keep Stance.Agrees.shift hw.agrees,
    passage.keep Stance.Points.shift hw.points, ?_, fun known here => ?_⟩
  · cases turn with
    | watch _ queue asks =>
      rw [queue, asks]
      exact hw.turn
    | drop _ _ _ queue asks =>
      rw [queue, asks]
      exact hw.turn
    | desk asked step queue _ leads others =>
      rw [queue]
      exact Desk.step_inTurn step asked hw.turn leads others
    | beside _ queue asks =>
      rw [queue]
      intro c desired a asked served
      obtain same | ⟨-, out⟩ := asks c
      · exact hw.turn c desired a (same.symm.trans asked) served
      · rw [out.not_served asked] at served
        cases served
    | leave drops _ =>
      rw [patient] at drops
      cases drops
  · have before := passage.known known
    have order := hw.order before (driven here)
    cases turn with
    | watch tread _ asks =>
      rw [asks]
      exact tread.orderly one hw.agrees hw.points known order.1 order.2
    | drop _ _ dropped _ _ =>
      rw [dropped] at here
      exact absurd rfl here
    | @desk c desired a d n asked step _ murmurs leads others =>
      refine murmurs.orderly ⟨(Desk.step_nudges step).plainWhenStopped order.1, ?_⟩
      exact Desk.step_orderly step asked one leads others order.2 (hw.rests before (driven here))
    | beside murmurs _ asks =>
      refine murmurs.orderly ⟨order.1, order.2.congr fun c desired a served _ => ?_⟩
      obtain same | ⟨out, out'⟩ := asks c
      · rw [same]
      · refine iff_of_false (fun asked => ?_) fun asked => ?_
        · rw [out'.not_served asked] at served
          cases served
        · rw [out.not_served asked] at served
          cases served
    | leave drops _ =>
      rw [patient] at drops
      cases drops

/-- Whether no call and no restart of the refresher is given up during the moves. -/
def isPatient (w : World) : List Move → Bool
  | [] => true
  | m :: ms => !w.drops m && (w.step m).all fun v => v.isPatient ms

theorem Fair.run (hw : w.Fair first) (h : w.run ms = some v) (patient : w.isPatient ms = true) :
    v.Fair first := by
  induction ms generalizing w with
  | nil =>
    cases h
    exact hw
  | cons m ms ih =>
    obtain ⟨u, hu, hv⟩ := Option.bind_eq_some_iff.1 h
    unfold isPatient at patient
    rw [hu, Bool.and_eq_true, Bool.not_eq_true'] at patient
    exact ih (hw.step hu patient.1) hv patient.2

theorem initial_fair (policy : Policy) (settings : Settings) (draws : Nat → Nat) :
    (World.initial policy settings draws).Fair settings := by
  have none : NoneServed (World.initial policy settings draws).ask? := by
    intro c desired a asked
    cases c <;> cases asked
  refine ⟨initial_sound _ _ _, run_agrees (run_nil _), run_points (run_nil _), ?_, fun _ _ => ⟨?_, ?_⟩⟩
  · intro c desired a asked served
    rw [none c desired a asked] at served
    cases served
  · exact fun _ _ _ => nofun
  · exact .of_none rfl none

end World

/-! ## Until the next start request -/

section

variable {x y : Stance}

/-- A start request comes into the mailbox only where one is sent. -/
theorem Shift.asks (h : Shift x y) :
    (y.scene.marks.asks = x.scene.marks.asks ∧
      ∀ t, y.mailbox = some (.start t) → x.mailbox = some (.start t)) ∨
    y.scene.marks.asks = x.scene.marks.asks + 1 := by
  have even : x.scene.Even y.scene → y.mailbox = x.mailbox → y.scene.marks.asks = x.scene.marks.asks ∧
      ∀ t, y.mailbox = some (.start t) → x.mailbox = some (.start t) :=
    fun even same => ⟨even.asks, fun t sent => same.symm.trans sent⟩
  cases h with
  | stride h =>
    have asks : y.scene.marks.asks = x.scene.marks.asks := by
      obtain even | ⟨-, s, detail, even, asked⟩ := h.even
      · exact even.asks
      · rw [asked, Scene.marks_requestProcess]
        exact even.asks
    refine .inl ⟨asks, fun t sent => ?_⟩
    obtain same | none := h.mailbox
    · exact same.symm.trans sent
    · rw [none] at sent
      cases sent
  | nudge h =>
    cases h with
    | told told => exact .inl (even (.of_told told) rfl)
    | drift => exact .inl (even (.of_handled (Scene.onProcess_handled _ _ _)) rfl)
    | cancel | pass | replace | openReply => exact .inl ⟨rfl, fun _ => id⟩
    | refreshFailed | restarted | forsake => exact .inl (even (.of_same (by simp) (by simp)) rfl)
    | @post p s r _ =>
      cases r with
      | stop t => exact .inl ⟨rfl, nofun⟩
      | start t =>
        right
        simp [Scene.marks, Journal.marks, Journal.count, Event.asksStart]
  | @drop w _ _ =>
    refine .inl ⟨w.drop_even.asks, fun t sent => ?_⟩
    have empty : w.drop.mailbox = none := by
      unfold Watch.drop Watch.close
      dsimp only
      cases w.mailbox <;> rfl
    rw [show w.drop.stance.mailbox = none from empty] at sent
    cases sent

/-- A watch at rest whose mailbox holds no start request stays at rest. -/
theorem Shift.rests (h : Shift x y) (tends : x.Tends) (hx : x.Rests)
    (empty : ∀ t, x.mailbox ≠ some (.start t)) : y.Rests := by
  cases h with
  | stride h =>
    obtain rests | ⟨t, sent, -⟩ := h.rests tends hx
    · exact rests
    · exact absurd sent (empty t)
  | nudge h => exact h.rests hx
  | drop _ _ => exact Watch.drop_rests _ hx

/-- A watch that tends its process rests as long as no more start requests were sent than a number. -/
structure Stance.RestsUntil (asks : Nat) (x : Stance) : Prop where
  tends : x.Tends
  asked : asks ≤ x.scene.marks.asks
  rests : x.scene.marks.asks = asks → x.Rests ∧ ∀ t, x.mailbox ≠ some (.start t)

theorem Stance.RestsUntil.shift {asks : Nat} (x y : Stance) (h : Shift x y) (hx : x.RestsUntil asks) :
    y.RestsUntil asks := by
  have asked := hx.asked
  refine ⟨h.tends x y hx.tends, ?_, fun same => ?_⟩
  · obtain ⟨before, -⟩ | before := h.asks <;> omega
  · obtain ⟨before, mailbox⟩ | before := h.asks
    · obtain ⟨rests, empty⟩ := hx.rests (before.symm.trans same)
      exact ⟨h.rests hx.tends rests empty, fun t sent => empty t (mailbox t sent)⟩
    · omega

end

namespace World

variable {policy : Policy} {settings : Settings} {draws : Nat → Nat} {ms : List Move} {w u : World}

/-- No process runs, the watch neither attempts to bring one up nor turns or pauses before that, and the
warden's own lookups were not pointed at the resolver last. -/
def IsDown (w : World) : Prop :=
  w.scene.live = 0 ∧ w.watch.phase.attempts = false ∧ w.watch.phase.turns = false ∧
    ∀ ip, w.scene.journal.internalTarget? ≠ some (ip, .encrypted)

theorem isDown_of_rests (h : w.stance.Rests) : w.IsDown := by
  obtain ⟨place, still, plain⟩ := h
  change w.watch.phase.Rests w.scene at place
  have idle : w.watch.phase.attempts = false ∧ w.watch.phase.turns = false := by
    cases phase : w.watch.phase with
    | retreating after =>
      rw [phase] at place
      cases after <;> first | exact ⟨rfl, rfl⟩ | exact False.elim place
    | clearing t after =>
      rw [phase] at place
      cases t <;> cases after <;> first | exact ⟨rfl, rfl⟩ | exact False.elim place
    | attempting _ | pausing _ _ =>
      rw [phase] at place
      exact False.elim place
    | _ => exact ⟨rfl, rfl⟩
  exact ⟨still.live, idle.1, idle.2, plain⟩

/-- A client that is told that the resolver is stopped finds the watch at rest. -/
theorem Fair.rests_of_settles (hw : w.Fair settings) (known : w.scene.Known settings)
    (driven : w.watch.phase ≠ .dropped) {c : Client} {o : StatusOutcome}
    (stopped : w.Settles c .stopped (.ok o)) :
    w.stance.Rests ∧ ∀ t, w.stance.mailbox ≠ some (.start t) := by
  obtain ⟨a, d, asked, step⟩ := stopped
  obtain ⟨-, order⟩ := hw.order known driven
  have one := hw.turn.oneServed
  obtain ⟨rfl, -, same⟩ | ⟨t, x, rfl, -, given⟩ := Desk.step_ok step
  · have owed := order.owed_nil one asked rfl rfl
    exact ⟨hw.rests known driven (same.1 rfl) owed, fun _ =>
      Stance.Orderly.mailbox_of_owed_nil owed _⟩
  · refine ⟨order.stopped c t x asked given, fun t' sent => ?_⟩
    cases (order.mine one asked rfl (Stance.Orderly.owed_of_mailbox sent)).1

/--
In a run in which no call and no restart of the refresher is given up, and while every settings value
stored names a plaintext nameserver: whenever a client is told that the resolver is stopped, no process
runs, no attempt is made or due, and DNS does not point at the resolver, and it stays so until the next
start request is sent.  A start request that waits for a session finds no process there.  A watch that
was itself dropped makes an exception, as it may leave a process behind that was told to stop.
-/
theorem stopped_until_start (h : (World.initial policy settings draws).run ms = some w)
    (patient : (World.initial policy settings draws).isPatient ms = true)
    (known : w.scene.Known settings) :
    (∀ c o, w.watch.phase ≠ .dropped → w.Settles c .stopped (.ok o) →
      ∀ ns u, w.run ns = some u →
        u.scene.journal.count Event.asksStart = w.scene.journal.count Event.asksStart → u.IsDown) ∧
    ∀ session t, w.watch.phase = .serving session → w.watch.mailbox = some (.start t) →
      w.scene.live = 0 ∧ ¬ w.scene.Keeps session := by
  have fair := (initial_fair policy settings draws).run h patient
  refine ⟨fun c o driven stopped ns u hu asks => ?_, fun session t serving sent => ?_⟩
  · have rests := fair.rests_of_settles known driven stopped
    have start : w.stance.RestsUntil w.scene.marks.asks :=
      ⟨fair.agrees.tends, Nat.le_refl _, fun _ => rests⟩
    have later := (fair.sound.run Stance.RestsUntil.shift hu start).2
    exact isDown_of_rests (later.rests asks).1
  · have driven : w.watch.phase ≠ .dropped := by
      rw [serving]
      nofun
    obtain ⟨place, still, -⟩ := (fair.order known driven).2.started t sent
    change w.watch.phase.Rests w.scene at place
    rw [serving] at place
    exact ⟨still.live, place⟩

/-- The moves from a first session to a stop request that was answered. -/
def firstStop : List Move :=
  firstSession ++ [.caller 0, .arrive (.setStatus .stopped), .caller 1, .caller 1, .caller 1,
    .caller 1, .watch .request, .watch (.answer (.systemPointed none)), .exit 0 .clean, .watch .ended]

/-- The moves from a stop request that was answered to a second start request. -/
def secondStart : List Move :=
  [.caller 1, .arrive (.setStatus .running), .caller 2, .caller 2, .caller 2, .caller 2]

theorem stopped_until_second_start :
    (∃ w u, wanted.run firstStop = some w ∧ w.Settles (.caller 1) .stopped (.ok (.changed .stopped)) ∧
      w.run [.caller 1, .pass 1] = some u ∧ u.IsDown) ∧
    ∃ w, wanted.run (firstStop ++ secondStart) = some w ∧ w.watch.mailbox = some (.start 2) ∧
      w.scene.live = 0 ∧ ¬ w.scene.Keeps (.of 0) := by
  have known : ∀ w : World, w.scene.marks.stored = [] →
      w.scene.Known { enabled := true, plaintextAddress := some .loopback } := by
    intro w stored t ht
    rw [stored] at ht
    obtain rfl := List.mem_singleton.1 ht
    rfl
  constructor
  · have ran : ((wanted.run firstStop).any fun w => (w.run [.caller 1, .pass 1]).any fun u => decide
        (w.scene.marks.stored = [] ∧ w.watch.phase = .serving (.of 0) ∧
          w.ask? (.caller 1) = some (.stopped, .awaiting 1) ∧
          w.warden.desk.scene.replies[1]? = some (.given .stopped) ∧
          u.scene.marks.asks = w.scene.marks.asks)) = true := by
      decide
    obtain ⟨w, hw, ran⟩ := (Option.any_eq_true _ _).1 ran
    obtain ⟨u, hu, ran⟩ := (Option.any_eq_true _ _).1 ran
    obtain ⟨stored, serving, asked, given, asks⟩ := of_decide_eq_true ran
    have settles : w.Settles (.caller 1) .stopped (.ok (.changed .stopped)) := by
      refine ⟨.awaiting 1, w.warden.desk.leave (.caller 1), asked, ?_⟩
      simp only [Desk.step, given]
      rfl
    have down := (stopped_until_start hw (by decide) (known w stored)).1 (.caller 1) (.changed .stopped)
      (by simp [serving]) settles [.caller 1, .pass 1] u hu asks
    exact ⟨w, u, hw, settles, hu, down⟩
  · have ran : ((wanted.run (firstStop ++ secondStart)).any fun w => decide
        (w.scene.marks.stored = [] ∧ w.watch.phase = .serving (.of 0) ∧
          w.watch.mailbox = some (.start 2))) = true := by
      decide
    obtain ⟨w, hw, ran⟩ := (Option.any_eq_true _ _).1 ran
    obtain ⟨stored, serving, sent⟩ := of_decide_eq_true ran
    obtain ⟨live, left⟩ :=
      (stopped_until_start hw (by decide) (known w stored)).2 (.of 0) 2 serving sent
    exact ⟨w, hw, sent, live, left⟩

end World

end DnsWarden
