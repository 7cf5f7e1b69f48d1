import DnsWarden.Proofs.NewSettings

/-!
# A change of settings, step by step

A call takes its steps among those of all others.  `World.stepsOf` picks them out of a run, `World.Asks`
says what the steps are of a client that asks for a status at the desk and what they put into the mailbox,
and `Caller.Stage` what the steps of a call have been by the time it has come so far.  The main statement,
`World.settings_change_goes`, says what a call for a change of settings has done once it is over: it has
stored the settings, has told the refresher if the period differs, and unless nothing else differs has
asked for the resolver to be stopped, and then to be started if one is wanted and it was stopped.
-/

namespace DnsWarden

/-- The settings differ at most in the period of the refreshes. -/
def Settings.DifferInPeriod (new old : Settings) : Prop := ∃ period, new = { old with updatePeriod := period }

theorem Settings.sameButPeriod_iff {new old : Settings} :
    new.sameButPeriod old = true ↔ new.DifferInPeriod old := by
  rw [sameButPeriod, decide_eq_true_iff]
  constructor
  · intro same
    exact ⟨new.updatePeriod, by rw [← same]⟩
  · rintro ⟨period, rfl⟩
    rfl

/-! ## What is asked for at the desk -/

namespace Status

/-- A client that wants the first status sends this request if it has read the second. -/
inductive Calls : Status → Status → Request → Prop where
  | stop {current t} (up : current ≠ .stopped) : Calls .stopped current (.stop t)
  | start {t} : Calls .running .stopped (.start t)

/-- A client that wants the first status sends nothing if it has read the second. -/
inductive Serves : Status → Status → Prop where
  | stopped : Serves .stopped .stopped
  | running {current} (up : current ≠ .stopped) : Serves .running current

end Status

namespace Desk

/-- What a step puts into the mailbox: no request, or one for which there is room. -/
inductive Posts (d d' : Desk) : List Request → Prop where
  | nothing (mailbox : d'.watch.mailbox = d.watch.mailbox)
    (sent : d'.scene.journal.sent = d.scene.journal.sent) : Posts d d' []
  | request {r} (isOpen : d.watch.isOpen = true) (room : d.watch.mailbox = none)
    (mailbox : d'.watch.mailbox = some r)
    (sent : d'.scene.journal.sent = r :: d.scene.journal.sent) : Posts d d' [r]

/-- How a client that wants this status goes on, and which requests it posts with that step. -/
inductive Proceeds (d : Desk) (desired : Status) : Ask → List Request → Ask.Next → Prop where
  | join : Proceeds d desired .arriving [] (.waiting .queued)
  | turn : Proceeds d desired .queued [] (.waiting .reading)
  | spare (enough : desired.Serves d.scene.status) :
    Proceeds d desired .reading [] (.done (.ok (.already d.scene.status)))
  | refuse (invalid : desired = .crashed) :
    Proceeds d desired .reading [] (.done (.error (.invalidStatus desired)))
  | write {r} (calls : desired.Calls d.scene.status r) (ticket : r.ticket = d.scene.replies.length) :
    Proceeds d desired .reading [] (.waiting (.sending r))
  | miss {r} (closed : d.watch.isOpen = false) :
    Proceeds d desired (.sending r) [] (.done (.error .terminated))
  | post {r} : Proceeds d desired (.sending r) [r] (.waiting (.awaiting r.ticket))
  | hear {t s} (given : d.scene.replies[t]? = some (.given s)) :
    Proceeds d desired (.awaiting t) [] (.done (.ok (.changed s)))
  | lose {t} (lost : d.scene.replies[t]? = some .lost) :
    Proceeds d desired (.awaiting t) [] (.done (.error .terminated))

variable {d d' : Desk} {c : Client} {desired : Status} {a : Ask} {n : Ask.Next}

theorem decide_proceeds (h : d.decide c desired = (d', n)) :
    d.Posts d' [] ∧ d.Proceeds desired .reading [] n := by
  unfold decide at h
  cases desired with
  | running =>
    dsimp only at h
    split_ifs at h with stopped <;> cases h
    · have calls : Status.Calls .running d.scene.status (.start d.scene.replies.length) :=
        stopped ▸ .start
      exact ⟨.nothing rfl rfl, .write calls rfl⟩
    · exact ⟨.nothing rfl rfl, .spare (.running stopped)⟩
  | stopped =>
    dsimp only at h
    split_ifs at h with stopped <;> cases h
    · have enough : Status.Serves .stopped d.scene.status := stopped ▸ .stopped
      exact ⟨.nothing rfl rfl, .spare enough⟩
    · exact ⟨.nothing rfl rfl, .write (.stop stopped) rfl⟩
  | crashed =>
    cases h
    exact ⟨.nothing rfl rfl, .refuse rfl⟩

theorem step_proceeds (h : d.step c desired a = some (d', n)) :
    ∃ new, d.Posts d' new ∧ d.Proceeds desired a new n := by
  cases a with
  | arriving =>
    cases h
    exact ⟨[], .nothing rfl rfl, .join⟩
  | queued =>
    simp only [step] at h
    split_ifs at h
    cases h
    exact ⟨[], .nothing rfl rfl, .turn⟩
  | reading => exact ⟨[], decide_proceeds (Option.some.inj h)⟩
  | sending r =>
    simp only [step] at h
    split_ifs at h with closed room <;> cases h
    · have same : (d.scene.forsake r.ticket).journal.sent = d.scene.journal.sent :=
        congrArg (List.filterMap Deal.sent?) (d.scene.deals_forsake r.ticket)
      exact ⟨[], .nothing rfl same, .miss (by simpa using closed)⟩
    · exact ⟨[r], .request (by simpa using closed) (Option.isNone_iff_eq_none.1 room) rfl rfl, .post⟩
  | awaiting t =>
    simp only [step] at h
    split at h <;> cases h
    next given => exact ⟨[], .nothing rfl rfl, .hear given⟩
    next lost => exact ⟨[], .nothing rfl rfl, .lose lost⟩

/-! ### What the desk leaves alone -/

/-- A client that asks for a status changes by itself neither a process nor the settings. -/
theorem step_premises (h : d.step c desired a = some (d', n)) :
    d'.scene.premises = d.scene.premises ∧ d'.scene.marks.stored = d.scene.marks.stored := by
  cases a with
  | arriving =>
    cases h
    exact ⟨rfl, rfl⟩
  | queued =>
    simp only [step] at h
    split_ifs at h
    cases h
    exact ⟨rfl, rfl⟩
  | reading =>
    obtain rfl := congrArg Prod.fst (Option.some.inj h)
    unfold decide
    cases desired with
    | running | stopped =>
      dsimp only
      split_ifs <;> exact ⟨rfl, rfl⟩
    | crashed => exact ⟨rfl, rfl⟩
  | sending r =>
    simp only [step] at h
    split_ifs at h
    · cases h
      exact ⟨d.scene.premises_forsake _, congrArg Marks.stored (d.scene.marks_forsake _)⟩
    · cases h
      exact ⟨rfl, rfl⟩
  | awaiting t =>
    simp only [step] at h
    split at h <;> cases h
    · exact ⟨rfl, rfl⟩
    · exact ⟨rfl, rfl⟩

/-- What a client at the desk can have to wait for: its turn, room in the mailbox, or the reply. -/
inductive Detains (d : Desk) (c : Client) : Ask → Prop where
  | queued (behind : d.queue.head? ≠ some c) : Detains d c .queued
  | sending {r} (isOpen : d.watch.isOpen = true) (full : d.watch.mailbox.isSome = true) :
    Detains d c (.sending r)
  | awaiting {t} (ungiven : ∀ s, d.scene.replies[t]? ≠ some (.given s))
    (kept : d.scene.replies[t]? ≠ some .lost) : Detains d c (.awaiting t)

theorem detains_of_step (h : d.step c desired a = none) : d.Detains c a := by
  cases a with
  | arriving | reading => cases h
  | queued =>
    simp only [step] at h
    split_ifs at h with head
    exact .queued head
  | sending r =>
    simp only [step] at h
    split_ifs at h with closed room
    exact .sending (by simpa using closed) (by simpa [Option.isSome_iff_ne_none] using room)
  | awaiting t =>
    simp only [step] at h
    split at h
    next => cases h
    next => cases h
    next ungiven kept => exact .awaiting ungiven kept

end Desk

namespace World

/-! ## The steps of one caller -/

/-- The steps that a caller takes in the course of the moves, each as the worlds before and after it. -/
def stepsOf (w : World) (id : Nat) : List Move → List (World × World)
  | [] => []
  | m :: ms =>
    (w.step m).elim [] fun v => (if m = .caller id then [(w, v)] else []) ++ v.stepsOf id ms

variable {w v x y u : World} {id : Nat} {m : Move} {ms before : List Move}

theorem stepsOf_concat (hx : w.run before = some x) (hv : x.step m = some v) :
    w.stepsOf id (before ++ [m]) = w.stepsOf id before ++ if m = .caller id then [(x, v)] else [] := by
  induction before generalizing w with
  | nil =>
    cases hx
    simp [stepsOf, hv]
  | cons k before ih =>
    obtain ⟨y, hy, hx⟩ := Option.bind_eq_some_iff.1 hx
    simp only [List.cons_append, stepsOf, hy, Option.elim_some, ih hx, List.append_assoc]

/-- A step that a caller has taken is one of the run. -/
theorem of_mem_stepsOf (h : w.run ms = some u) (step : (x, y) ∈ w.stepsOf id ms) :
    ∃ first rest, ms = first ++ .caller id :: rest ∧ w.run first = some x ∧
      x.step (.caller id) = some y ∧ y.run rest = some u := by
  induction ms generalizing w with
  | nil => cases step
  | cons m ms ih =>
    obtain ⟨v, hv, hu⟩ := Option.bind_eq_some_iff.1 h
    simp only [stepsOf, hv, Option.elim_some, List.mem_append] at step
    obtain here | later := step
    · split_ifs at here with own
      · cases List.mem_singleton.1 here
        exact ⟨[], ms, by rw [own]; rfl, rfl, own ▸ hv, hu⟩
      · cases here
    · obtain ⟨first, rest, rfl, hx, hy, hu⟩ := ih hu later
      exact ⟨m :: first, rest, rfl, by rw [run_cons, hv]; exact hx, hy, hu⟩

/-- Nobody but the caller itself changes how far its call has come, unless it goes away. -/
theorem step_other {c : Caller} (h : w.step m = some v) (found : w.callers[id]? = some c)
    (other : m ≠ .caller id) : v.callers[id]? = some c ∨ v.callers[id]? = some .gone := by
  obtain same | own | gone | ⟨p, none, -⟩ := step_callers h id
  · exact .inl (same.trans found)
  · exact absurd own other
  · exact .inr gone
  · cases none.symm.trans found

/-! ## Asking for a status -/

/-- The steps of a caller that asks for this status at the desk, the requests that they put into the
mailbox, and what they have come to. -/
inductive Asks (id : Nat) (desired : Status) : List (World × World) → List Request → Ask.Next → Prop where
  | begin : Asks id desired [] [] (.waiting .arriving)
  | step {l sent a x y d new n} (h : Asks id desired l sent (.waiting a))
    (goes : x.warden.desk.step (.caller id) desired a = some (d, n))
    (leaves : y.warden = { x.warden with desk := d }) (posts : x.warden.desk.Posts d new)
    (proceeds : x.warden.desk.Proceeds desired a new n) :
    Asks id desired (l ++ [(x, y)]) (sent ++ new) n

/-- What a client has sent that wants this status and has taken these steps, and what it has come to: one
request, if it has read a status that calls for one and found the watch open; its result is the reply. -/
inductive Sought (steps : List (World × World)) (desired : Status) : List Request → Ask.Next → Prop where
  | arriving : Sought steps desired [] (.waiting .arriving)
  | queued : Sought steps desired [] (.waiting .queued)
  | reading : Sought steps desired [] (.waiting .reading)
  | sending {p r} (there : p ∈ steps) (calls : desired.Calls p.1.scene.status r) :
    Sought steps desired [] (.waiting (.sending r))
  | awaiting {p r} (there : p ∈ steps) (calls : desired.Calls p.1.scene.status r) :
    Sought steps desired [r] (.waiting (.awaiting r.ticket))
  | needless {p} (there : p ∈ steps) (enough : desired.Serves p.1.scene.status) :
    Sought steps desired [] (.done (.ok (.already p.1.scene.status)))
  | invalid (invalid : desired = .crashed) :
    Sought steps desired [] (.done (.error (.invalidStatus desired)))
  | unsent {p} (there : p ∈ steps) (closed : p.1.watch.isOpen = false) :
    Sought steps desired [] (.done (.error .terminated))
  | answered {p q r s} (there : p ∈ steps) (calls : desired.Calls p.1.scene.status r)
    (later : q ∈ steps) (given : q.1.scene.replies[r.ticket]? = some (.given s)) :
    Sought steps desired [r] (.done (.ok (.changed s)))
  | unanswered {p q r} (there : p ∈ steps) (calls : desired.Calls p.1.scene.status r)
    (later : q ∈ steps) (lost : q.1.scene.replies[r.ticket]? = some .lost) :
    Sought steps desired [r] (.done (.error .terminated))

theorem Asks.sought {desired : Status} {steps : List (World × World)} {sent : List Request}
    {n : Ask.Next} (h : Asks id desired steps sent n) : Sought steps desired sent n := by
  induction h with
  | begin => exact .arriving
  | @step l sent a x y d new n _ _ _ _ proceeds ih =>
    have last : (x, y) ∈ l ++ [(x, y)] := List.mem_append_right l List.mem_cons_self
    cases proceeds with
    | join => cases ih with
      | arriving => exact .queued
    | turn => cases ih with
      | queued => exact .reading
    | spare enough => cases ih with
      | reading => exact .needless last enough
    | refuse invalid => cases ih with
      | reading => exact .invalid invalid
    | write calls _ => cases ih with
      | reading => exact .sending last calls
    | miss closed => cases ih with
      | sending _ _ => exact .unsent last closed
    | post => cases ih with
      | sending there calls => exact .awaiting (List.mem_append_left _ there) calls
    | hear given => cases ih with
      | awaiting there calls => exact .answered (List.mem_append_left _ there) calls last given
    | lose lost => cases ih with
      | awaiting there calls => exact .unanswered (List.mem_append_left _ there) calls last lost

/-- A caller has asked for this status with these steps and requests, and this is the result. -/
structure Asked (id : Nat) (desired : Status) (steps : List (World × World)) (sent : List Request)
    (result : Except CallFault StatusOutcome) : Prop where
  asks : Asks id desired steps sent (.done result)
  sought : Sought steps desired sent (.done result)

/-- A call is held up at the desk only. -/
theorem caller_goes {c : Caller} (found : w.callers[id]? = some c) :
    (w.step (.caller id)).isSome = true ∨ c.isOver = true ∨
      ∃ desired a, c.ask? = some (desired, a) ∧ w.warden.desk.Detains (.caller id) a := by
  have asks : ∀ {desired a waiting done}, (w.ask id desired a waiting done).isSome = true ∨
      w.warden.desk.Detains (.caller id) a := fun {desired a _ _} => by
    unfold ask
    rw [Option.isSome_map]
    cases stuck : w.warden.desk.step (.caller id) desired a with
    | none => exact .inr (Desk.detains_of_step stuck)
    | some x => exact .inl rfl
  show (w.caller? id).isSome = true ∨ _
  rw [caller?, found]
  cases c with
  | asking _ _ | stopping _ _ | starting _ _ => exact asks.imp_right fun held => .inr ⟨_, _, rfl, held⟩
  | storing _ | stored _ _ => exact .inl rfl
  | done _ | gone => exact .inr (.inl rfl)

/-! ## Storing settings -/

/-- The first two steps of a call that stores settings in place of the old ones, and those that follow. -/
def Begins (new old : Settings) (steps rest : List (World × World)) : Prop :=
  ∃ x y x' y', steps = (x, y) :: (x', y') :: rest ∧ x.scene.settings = old ∧
    y.warden = x.warden.update (·.replace new) ∧
    y'.warden = { x'.warden with
      periodChanged := x'.warden.periodChanged || decide (old.updatePeriod ≠ new.updatePeriod) }

theorem Begins.concat {new old : Settings} {steps rest : List (World × World)}
    (h : Begins new old steps rest) (p : World × World) : Begins new old (steps ++ [p]) (rest ++ [p]) := by
  obtain ⟨x, y, x', y', rfl, found, stores, tells⟩ := h
  exact ⟨x, y, x', y', rfl, found, stores, tells⟩

/-- How a call for a change of settings goes on once the settings are stored and the refresher is told, which
requests it sends, and with what result it ends. -/
inductive Concludes (id : Nat) (new old : Settings) :
    List (World × World) → List Request → Except CallFault SettingsOutcome → Prop where
  | unchanged (same : new = old) : Concludes id new old [] [] (.ok .unchanged)
  | periodChanged (differ : new ≠ old) (period : new.DifferInPeriod old) :
    Concludes id new old [] [] (.ok .periodChanged)
  | notStopped {stops sent f} (more : ¬ new.DifferInPeriod old)
    (stop : Asked id .stopped stops sent (.error f)) : Concludes id new old stops sent (.error f)
  | disabled {stops sent o} (more : ¬ new.DifferInPeriod old)
    (stop : Asked id .stopped stops sent (.ok o)) (unwanted : new.enabled = false) :
    Concludes id new old stops sent (.ok .disabled)
  | restarted {stops first o starts second started} (more : ¬ new.DifferInPeriod old)
    (stop : Asked id .stopped stops first (.ok o)) (wanted : new.enabled = true)
    (start : Asked id .running starts second started) :
    Concludes id new old (stops ++ starts) (first ++ second) (started.map .restarted)

theorem compare_eq (w : World) (id : Nat) (new old : Settings) :
    w.compare id new old = World.setCaller { w with warden := { w.warden with
        periodChanged := w.warden.periodChanged || decide (old.updatePeriod ≠ new.updatePeriod) } } id
      (if new = old then .done (.settings (.ok .unchanged))
        else if new.sameButPeriod old then .done (.settings (.ok .periodChanged))
        else .stopping new .arriving) := by
  unfold compare
  by_cases same : old = new
  · subst same
    simp
  · by_cases period : old.updatePeriod = new.updatePeriod
    · simp [same, Ne.symm same, period]
      split_ifs <;> rfl
    · simp [same, Ne.symm same, period]
      split_ifs <;> rfl

theorem callers_compare {new old : Settings} (found : w.callers[id]? = some (.stored new old)) :
    (w.compare id new old).callers[id]? = some (if new = old then .done (.settings (.ok .unchanged))
      else if new.sameButPeriod old then .done (.settings (.ok .periodChanged))
      else .stopping new .arriving) := by
  rw [compare_eq]
  exact getElem?_setCaller (w := w) found rfl _

end World

open World

/-- What the steps of a call for these settings have been by the time it has come so far. -/
def Caller.Stage (id : Nat) (new : Settings) (steps : List (World × World)) : Caller → Prop
  | .storing s => s = new ∧ steps = []
  | .stored s old => s = new ∧ ∃ x y, steps = [(x, y)] ∧ x.scene.settings = old ∧
      y.warden = x.warden.update (·.replace new)
  | .stopping s a => s = new ∧ ∃ old stops sent, Begins new old steps stops ∧
      ¬ new.DifferInPeriod old ∧ Asks id .stopped stops sent (.waiting a)
  | .starting s a => s = new ∧ new.enabled = true ∧ ∃ old stops first o starts second,
      Begins new old steps (stops ++ starts) ∧ ¬ new.DifferInPeriod old ∧
      Asked id .stopped stops first (.ok o) ∧ Asks id .running starts second (.waiting a)
  | .done (.settings result) => ∃ old rest sent, Begins new old steps rest ∧
      Concludes id new old rest sent result
  | .gone => True
  | .asking _ _ | .done (.status _) => False

namespace Caller

variable {w v u : World} {id : Nat} {ms : List Move} {steps : List (World × World)}
  {new : Settings} {c : Caller}

section

variable {s old : Settings} {a : Ask} {d : Desk} {n : Ask.Next}

theorem Stage.stored (h : Stage id new steps (.stored s old))
    (found : w.callers[id]? = some (.stored s old)) :
    ∃ c, (w.compare id s old).callers[id]? = some c ∧
      Stage id new (steps ++ [(w, w.compare id s old)]) c := by
  obtain ⟨rfl, x, y, rfl, here, stores⟩ := h
  have begins : Begins s old ([(x, y)] ++ [(w, w.compare id s old)]) [] :=
    ⟨x, y, w, _, rfl, here, stores, congrArg World.warden (w.compare_eq id s old)⟩
  refine ⟨_, callers_compare found, ?_⟩
  split_ifs with same only
  · exact ⟨old, [], [], begins, .unchanged same⟩
  · exact ⟨old, [], [], begins, .periodChanged same (Settings.sameButPeriod_iff.1 only)⟩
  · exact ⟨rfl, old, [], [], begins, fun only' => only (Settings.sameButPeriod_iff.2 only'), .begin⟩

theorem Stage.stopping (h : Stage id new steps (.stopping s a))
    (step : w.warden.desk.step (.caller id) .stopped a = some (d, n))
    (leaves : v.warden = { w.warden with desk := d }) :
    Stage id new (steps ++ [(w, v)]) (n.stage (.stopping s) (afterStop s)) := by
  obtain ⟨rfl, old, stops, sent, begins, more, asks⟩ := h
  obtain ⟨requests, posts, proceeds⟩ := Desk.step_proceeds step
  have asks := asks.step step leaves posts proceeds
  have begins := begins.concat (w, v)
  rcases n with a' | f | o
  · exact ⟨rfl, old, _, _, begins, more, asks⟩
  · exact ⟨old, _, _, begins, .notStopped more ⟨asks, asks.sought⟩⟩
  · unfold Ask.Next.stage afterStop
    dsimp only
    split_ifs with wanted
    · exact ⟨rfl, wanted, old, _, _, o, [], [], by rwa [List.append_nil], more, ⟨asks, asks.sought⟩,
        .begin⟩
    · exact ⟨old, _, _, begins, .disabled more ⟨asks, asks.sought⟩ (Bool.of_not_eq_true wanted)⟩

theorem Stage.starting (h : Stage id new steps (.starting s a))
    (step : w.warden.desk.step (.caller id) .running a = some (d, n))
    (leaves : v.warden = { w.warden with desk := d }) :
    Stage id new (steps ++ [(w, v)]) (n.stage (.starting s) afterStart) := by
  obtain ⟨rfl, wanted, old, stops, first, o, starts, second, begins, more, stop, asks⟩ := h
  obtain ⟨requests, posts, proceeds⟩ := Desk.step_proceeds step
  have asks := asks.step step leaves posts proceeds
  have begins := begins.concat (w, v)
  rw [List.append_assoc] at begins
  rcases n with a' | f | o'
  · exact ⟨rfl, wanted, old, stops, first, o, _, _, begins, more, stop, asks⟩
  · exact ⟨old, _, _, begins, .restarted more stop wanted ⟨asks, asks.sought⟩⟩
  · exact ⟨old, _, _, begins, .restarted more stop wanted ⟨asks, asks.sought⟩⟩

end

/-- A caller takes its next step. -/
theorem Stage.own (h : Stage id new steps c) (found : w.callers[id]? = some c)
    (goes : w.step (.caller id) = some v) :
    ∃ c', v.callers[id]? = some c' ∧ Stage id new (steps ++ [(w, v)]) c' := by
  have goes : w.caller? id = some v := goes
  unfold caller? at goes
  rw [found] at goes
  cases c with
  | asking _ _ => exact h.elim
  | done _ | gone => cases goes
  | storing s =>
    obtain ⟨rfl, rfl⟩ := h
    cases goes
    exact ⟨_, getElem?_setCaller found rfl _, rfl, w, _, rfl, rfl, rfl⟩
  | stored s old =>
    cases goes
    exact Stage.stored h found
  | stopping s a =>
    obtain ⟨d, n, step, leaves, next⟩ := ask_eq found goes
    exact ⟨_, next, Stage.stopping h step leaves⟩
  | starting s a =>
    obtain ⟨d, n, step, leaves, next⟩ := ask_eq found goes
    exact ⟨_, next, Stage.starting h step leaves⟩

/-- However far a call for a change of settings has come, its steps have been those of that stage. -/
theorem stage_of_run (h : w.run ms = some u) (arrived : w.callers[id]? = some (.storing new)) :
    ∃ c, u.callers[id]? = some c ∧ Stage id new (w.stepsOf id ms) c := by
  refine run_history (J := fun ms x => ∃ c, x.callers[id]? = some c ∧ Stage id new (w.stepsOf id ms) c) h
    ⟨_, arrived, rfl, rfl⟩ fun before m x y hx hy hJ => ?_
  obtain ⟨c, found, stage⟩ := hJ
  rw [stepsOf_concat hx hy]
  split_ifs with own
  · subst own
    exact stage.own found hy
  · rw [List.append_nil]
    obtain same | gone := step_other hy found own
    · exact ⟨c, same, stage⟩
    · exact ⟨.gone, gone, trivial⟩

end Caller

namespace World

variable {w x y u : World} {id : Nat} {new old : Settings} {ms before : List Move}
  {rest : List (World × World)} {sent : List Request} {desired : Status} {n : Ask.Next}
  {result : Except CallFault SettingsOutcome}

/-! ## The whole change -/

/-- Nothing was asked of the watch, and neither the status nor a process nor DNS was changed. -/
structure Untouched (x y : World) : Prop where
  queue : y.warden.desk.queue = x.warden.desk.queue
  phase : y.watch.phase = x.watch.phase
  mailbox : y.watch.mailbox = x.watch.mailbox
  status : y.scene.status = x.scene.status
  processes : y.scene.processes = x.scene.processes
  replies : y.scene.replies = x.scene.replies
  deals : y.scene.deals = x.scene.deals
  calls : y.scene.journal.calls = x.scene.journal.calls

theorem Untouched.of_replace (stores : y.warden = x.warden.update (·.replace new)) : Untouched x y := by
  obtain ⟨o, callers⟩ := y
  obtain rfl : o = _ := stores
  exact ⟨rfl, rfl, rfl, rfl, rfl, rfl, rfl, rfl⟩

theorem Untouched.of_desk (same : y.warden.desk = x.warden.desk) : Untouched x y := by
  obtain ⟨⟨d, r, c, p⟩, callers⟩ := y
  obtain rfl : d = _ := same
  exact ⟨rfl, rfl, rfl, rfl, rfl, rfl, rfl, rfl⟩

/-- The settings are stored as before, and the refresher is told nothing. -/
structure Keeps (x y : World) : Prop where
  settings : y.scene.settings = x.scene.settings
  stored : y.scene.marks.stored = x.scene.marks.stored
  periodChanged : y.warden.periodChanged = x.warden.periodChanged

theorem Asks.keeps (h : Asks id desired rest sent n) : ∀ p ∈ rest, Keeps p.1 p.2 := by
  induction h with
  | begin => rintro p ⟨⟩
  | @step l sent a x y d new n _ goes leaves _ _ ih =>
    intro p mem
    rcases List.mem_append.1 mem with mem | mem
    · exact ih p mem
    · obtain rfl := List.mem_singleton.1 mem
      obtain ⟨premises, stored⟩ := Desk.step_premises goes
      have scene : y.scene = d.scene := congrArg Warden.scene leaves
      refine ⟨?_, ?_, by rw [leaves]⟩
      · rw [scene]
        exact congrArg (fun p => p.2.1) premises
      · rw [scene]
        exact stored

theorem Concludes.keeps (h : Concludes id new old rest sent result) : ∀ p ∈ rest, Keeps p.1 p.2 := by
  cases h with
  | unchanged | periodChanged => rintro p ⟨⟩
  | notStopped _ stop | disabled _ stop => exact stop.asks.keeps
  | restarted _ stop _ start =>
    intro p mem
    exact (List.mem_append.1 mem).elim (stop.asks.keeps p) (start.asks.keeps p)

theorem Concludes.nothing (h : Concludes id new old rest sent result) (period : new.DifferInPeriod old) :
    rest = [] ∧ sent = [] := by
  cases h with
  | unchanged | periodChanged => exact ⟨rfl, rfl⟩
  | notStopped more | disabled more | restarted more => exact absurd period more

/-- A call whose settings differ at most in the period is over with its second step. -/
theorem run_period (arrived : w.callers[id]? = some (.storing new))
    (period : new.DifferInPeriod w.scene.settings) :
    ∃ u, w.run [.caller id, .caller id] = some u ∧ u.callers[id]? = some (.done (.settings (.ok
      (if new = w.scene.settings then .unchanged else .periodChanged)))) := by
  let v := (w.update (·.replace new)).setCaller id (.stored new w.scene.settings)
  have stored : v.callers[id]? = some (.stored new w.scene.settings) := getElem?_setCaller arrived rfl _
  have first : w.step (.caller id) = some v := by
    show w.caller? id = _
    rw [caller?, arrived]
  have second : v.step (.caller id) = some (v.compare id new w.scene.settings) := by
    show v.caller? id = _
    rw [caller?, stored]
  have ran : w.run [.caller id] = some v := by
    rw [run_cons, first]
    rfl
  refine ⟨_, run_concat ran second, ?_⟩
  rw [callers_compare stored, if_pos (Settings.sameButPeriod_iff.2 period)]
  split_ifs <;> rfl

/--
A call that stores settings, whatever the watch, the refresher and other callers do meanwhile.  It is held
up at the desk only, and not at all if the settings differ at most in the period.  Once it is over, even
with an error, its settings are stored unless others have been since; it has told the refresher exactly if
the period differs; and unless nothing else differs it has asked for the resolver to be stopped, and then,
exactly if this succeeded and a resolver is wanted, to be started.  It asks with one request each time, unless
the status is as good or the watch has gone, and its first two steps send none.
-/
theorem settings_change_goes {policy : Policy} {settings : Settings} {draws : Nat → Nat}
    (h : (World.initial policy settings draws).run before = some w)
    (arrived : w.callers[id]? = some (.storing new)) :
    (new.DifferInPeriod w.scene.settings →
      ∃ u, w.run [.caller id, .caller id] = some u ∧ u.callers[id]? = some (.done (.settings (.ok
        (if new = w.scene.settings then .unchanged else .periodChanged))))) ∧
    (∀ ms u c, w.run ms = some u → u.callers[id]? = some c →
      (u.step (.caller id)).isSome = true ∨ c.isOver = true ∨
        ∃ desired a, c.ask? = some (desired, a) ∧ u.warden.desk.Detains (.caller id) a) ∧
    ∀ ms u result, w.run ms = some u → u.callers[id]? = some (.done (.settings result)) →
      ∃ x y x' y' rest sent, w.stepsOf id ms = (x, y) :: (x', y') :: rest ∧
        y.warden = x.warden.update (·.replace new) ∧
        (∃ later, u.scene.marks.stored = later ++ new :: x.scene.marks.stored ∧
          u.scene.settings = later.headD new) ∧
        y'.warden = { x'.warden with
          periodChanged := x'.warden.periodChanged ||
            decide (x.scene.settings.updatePeriod ≠ new.updatePeriod) } ∧
        (∀ p ∈ rest, Keeps p.1 p.2) ∧
        Concludes id new x.scene.settings rest sent result ∧ Untouched x y ∧ Untouched x' y' ∧
        (new.DifferInPeriod x.scene.settings → rest = [] ∧ sent = []) := by
  refine ⟨run_period arrived, fun ms u c _ found => caller_goes found, fun ms u result hu told => ?_⟩
  obtain ⟨c, found, stage⟩ := Caller.stage_of_run hu arrived
  cases Option.some.inj (told.symm.trans found)
  obtain ⟨-, rest, sent, ⟨x, y, x', y', steps, rfl, stores, tells⟩, concludes⟩ := stage
  refine ⟨x, y, x', y', rest, sent, steps, stores, ?_, tells, concludes.keeps, concludes,
    .of_replace stores, .of_desk (by rw [tells]), concludes.nothing⟩
  · have taken : (x, y) ∈ w.stepsOf id ms := steps ▸ List.mem_cons_self
    obtain ⟨first, since, rfl, hx, hy, hu'⟩ := of_mem_stepsOf hu taken
    have made : (World.initial policy settings draws).run (before ++ (first ++ [.caller id])) = some y := by
      rw [run_append, h]
      exact run_concat hx hy
    obtain ⟨later, stored, last⟩ := (run_sound made).run_stored hu'
    have scene : y.scene = x.scene.replace new := congrArg Warden.scene stores
    rw [scene] at stored last
    exact ⟨later, stored, last⟩

/-- Settings with another period, and nameservers to be kept. -/
def hurried : Settings :=
  { enabled := true, plaintextAddress := some .loopback, keepNameserver := true, updatePeriod := .ofSeconds 60 }

/-- The watch is dropped while its resolver is up, and a caller comes to store these settings. -/
def abandoned : List Move := firstSession ++ [.caller 0, .dropWatch, .arrive (.setSettings hurried)]

/-- The resolver cannot be stopped any more; the settings are stored all the same, the refresher is told,
and nothing is started. -/
theorem settings_stored_despite_failure :
    ∃ w u old rest sent, wanted.run abandoned = some w ∧ w.run (List.replicate 6 (.caller 1)) = some u ∧
      u.callers[1]? = some (.done (.settings (.error .terminated))) ∧ u.scene.settings = hurried ∧
      u.warden.periodChanged = true ∧ Concludes 1 hurried old rest sent (.error .terminated) := by
  have ran : ((wanted.run abandoned).any fun w => decide (w.callers[1]? = some (.storing hurried)) &&
      (w.run (List.replicate 6 (.caller 1))).any fun u => decide
        (u.callers[1]? = some (.done (.settings (.error .terminated))) ∧
          u.scene.marks.stored = [hurried] ∧ u.warden.periodChanged = true)) = true := by
    decide +kernel
  obtain ⟨w, hw, ran⟩ := (Option.any_eq_true _ _).1 ran
  obtain ⟨arrived, ran⟩ := Bool.and_eq_true_iff.1 ran
  obtain ⟨u, hu, ran⟩ := (Option.any_eq_true _ _).1 ran
  obtain ⟨told, once, changed⟩ := of_decide_eq_true ran
  obtain ⟨-, -, goes⟩ := settings_change_goes hw (of_decide_eq_true arrived)
  obtain ⟨x, -, -, -, rest, sent, -, -, ⟨later, stored, last⟩, -, -, concludes, -⟩ := goes _ _ _ hu told
  -- Settings were stored once, so that nobody has stored others since.
  have count := congrArg List.length (once.symm.trans stored)
  simp only [List.length_append, List.length_cons, List.length_nil] at count
  obtain rfl : later = [] := List.eq_nil_of_length_eq_zero (by omega)
  exact ⟨w, u, _, rest, sent, hw, hu, told, last, changed, concludes⟩

end World

end DnsWarden
