import DnsWarden.Proofs.Acknowledgement
import DnsWarden.Proofs.Board
import DnsWarden.Proofs.Calls

/-!
# Settings from many callers at once

Callers that store settings store them outside the queue at the desk, and stop and start the resolver
each in a turn of its own.  So the last of them to stop the resolver need not be the one whose settings
are stored in the end, and then it leaves a resolver stopped that is wanted, as
`World.stored_settings_overtaken` shows.  The main statement is `World.resolver_follows_last_change`:
while nothing goes wrong, the resolver follows the settings that are stored in the end, unless the last
caller that was told of a change of the resolver was told that it is disabled.
-/

namespace DnsWarden

/-! ## Peaceful moves -/

namespace World

/-- The change of the resolver that a move has told a caller of. -/
def toldChange? (v : World) : Move → Option SettingsOutcome
  | .caller id => v.callers[id]?.bind Caller.change?
  | _ => none

/-- The last change of the resolver that a caller is told of in the course of the moves. -/
def lastChange? (w : World) : List Move → Option SettingsOutcome
  | [] => none
  | m :: ms => (w.step m).bind fun v => (v.lastChange? ms).or (v.toldChange? m)

/-- Whether by a move something fails, a probe takes too long, a process ends that was not told to, a
task is cancelled, a call given up, a tick heard, or anything asked for but new settings. -/
def disturbs (w : World) : Move → Bool
  | .watch i => i.isFailure
  | .arrive (.setStatus _) => true
  | .exit pid _ => w.scene.processes[pid]?.any fun p => !p.cancelled
  | .refresher i => i = .rang || i = .cancelled
  | .cancelWatch | .dropWatch | .cancelRefresher | .dropRefresher | .leave _ => true
  | _ => false

/-- Whether none of the moves disturbs. -/
def isPeaceful (w : World) : List Move → Bool
  | [] => true
  | m :: ms => !w.disturbs m && (w.step m).all fun v => v.isPeaceful ms

/-- All calls are over and nothing is under way: a resolver is up, or the watch waits for a start. -/
structure AtEase (w : World) : Prop where
  ended : ∀ c ∈ w.callers, c.isOver = true
  quiet : w.warden.restarts = false
  going : w.scene.cancelled = false
  feels : w.stance.Feels .rest ∨ w.stance.Feels .up

theorem initial_atEase (policy : Policy) (settings : Settings) (draws : Nat → Nat) :
    (World.initial policy settings draws).AtEase :=
  ⟨by rintro c ⟨⟩, rfl, rfl, .inl (.down .unborn rfl rfl)⟩

variable {w v : World} {m : Move} {id : Nat} {mood : Mood} {last : Option SettingsOutcome}

/-- The board of a world whose watch is in the mood. -/
def board (w : World) (mood : Mood) (last : Option SettingsOutcome) : Board :=
  ⟨w.callers, last, w.scene.settings.enabled, mood, w.scene.replies⟩

/-! ### The turn of a caller -/

/-- A caller that takes a step at the desk is the only one that is served, unless it joins the queue. -/
theorem serves_of_step (mood : Mood) (last : Option SettingsOutcome) {old : Caller}
    {desired : Status} {a : Ask} {x : Desk × Ask.Next} (turn : InTurn w.queue w.ask?)
    (found : w.callers[id]? = some old) (asked : old.ask? = some (desired, a))
    (h : w.warden.desk.step (.caller id) desired a = some x) (joined : a ≠ .arriving) :
    (w.board mood last).Serves id := by
  have asks : ∀ {i c}, w.callers[i]? = some c → w.ask? (.caller i) = c.ask? := fun here => by
    show w.callers[_]?.bind Caller.ask? = _
    rw [here]
    rfl
  have head : w.queue.head? = some (.caller id) := by
    cases a with
    | arriving => exact absurd rfl joined
    | queued =>
      simp only [Desk.step] at h
      split_ifs at h with head
      exact head
    | reading | sending _ | awaiting _ => exact turn _ _ _ ((asks found).trans asked) rfl
  intro i c here served
  obtain ⟨⟨desired', a'⟩, asked', served⟩ := (Option.any_eq_true _ _).1 served
  have first := turn (.caller i) desired' a' ((asks here).trans asked') served
  cases Option.some.inj (head.symm.trans first)
  rfl

/-- A step of a caller at the desk puts it further on the board. -/
theorem ask_board (last : Option SettingsOutcome) {old : Caller} {desired : Status} {a : Ask}
    {waiting : Ask → Caller} {done : Except CallFault StatusOutcome → Caller}
    (h : w.ask id desired a waiting done = some v) (known : desired ≠ .crashed)
    (found : w.callers[id]? = some old) (asked : old.ask? = some (desired, a))
    (turn : InTurn w.queue w.ask?)
    (feels : w.stance.Feels mood) (suits : a.Suits mood w.scene.replies desired) :
    v.scene.premises = w.scene.premises ∧ ∃ n mood' l, v.stance.Feels mood' ∧
      (a ≠ .arriving → (w.board mood last).Serves id) ∧
      a.Goes desired (mood, w.scene.replies) n (mood', l) ∧
      v.callers = w.callers.set id (n.stage waiting done) ∧
      v.board mood' ((n.stage waiting done).change?.or last) =
        ({ w.board mood last with mood := mood', replies := l } : Board).put id
          (n.stage waiting done) := by
  obtain ⟨⟨d, n⟩, step, hv⟩ := Option.map_eq_some_iff.1 h
  obtain ⟨premises, mood', feels', goes⟩ := Desk.step_goes step known feels suits
  have serves := serves_of_step mood last turn found asked step
  have wanted : d.scene.settings.enabled = w.scene.settings.enabled :=
    congrArg (fun p => p.2.1.enabled) premises
  have put : ∀ c : Caller, (⟨w.callers.set id c, c.change?.or last, d.scene.settings.enabled, mood',
      d.scene.replies⟩ : Board) =
        ({ w.board mood last with mood := mood', replies := d.scene.replies } : Board).put id c := by
    intro c
    rw [wanted]
    rfl
  cases n with
  | waiting a' =>
    cases hv
    exact ⟨premises, _, mood', _, feels', serves, goes, rfl, put _⟩
  | done result =>
    cases hv
    exact ⟨premises, _, mood', _, feels', serves, goes, rfl, put _⟩

/-- The stance of the watch and the board suit each other. -/
def Suited (w : World) (last : Option SettingsOutcome) : Prop :=
  ∃ mood, w.stance.Feels mood ∧ (w.board mood last).Fair

/-- A caller finds out what its settings ask for. -/
theorem compare_cases (w : World) (id : Nat) (new old : Settings) :
    ∃ (x : World) (c : Caller), w.compare id new old = x.setCaller id c ∧
      x.warden.desk = w.warden.desk ∧ x.callers = w.callers ∧
      (new.demands old = true ∧ c = .stopping new .arriving ∨
        new.demands old = false ∧ c.change? = none ∧ ∃ o, c = .done o) := by
  unfold compare Settings.demands
  split_ifs with same period only only
  · exact ⟨_, _, rfl, rfl, rfl, .inr ⟨by simp [same], rfl, _, rfl⟩⟩
  · exact ⟨_, _, rfl, rfl, rfl, .inr ⟨by simp [only], rfl, _, rfl⟩⟩
  · exact ⟨_, _, rfl, rfl, rfl, .inl ⟨by simp [same, only], rfl⟩⟩
  · exact ⟨_, _, rfl, rfl, rfl, .inr ⟨by simp [only], rfl, _, rfl⟩⟩
  · exact ⟨_, _, rfl, rfl, rfl, .inl ⟨by simp [same, only], rfl⟩⟩

theorem told_of_set {old new : Caller} (found : w.callers[id]? = some old)
    (set : v.callers = w.callers.set id new) : v.callers[id]?.bind Caller.change? = new.change? := by
  rw [set, List.getElem?_set_self (List.getElem?_eq_some_iff.1 found).1]
  rfl

/-- A step of a caller leaves the board fair, with the change that the caller is told of. -/
theorem caller_suited (h : w.caller? id = some v) (turn : InTurn w.queue w.ask?)
    (suited : w.Suited last) :
    v.scene.cancelled = w.scene.cancelled ∧
      v.Suited ((v.callers[id]?.bind Caller.change?).or last) := by
  obtain ⟨mood, feels, fair⟩ := suited
  have suits : ∀ {old}, w.callers[id]? = some old → old.Suits mood w.scene.replies :=
    fun found => fair.suits _ (List.mem_of_getElem? found)
  unfold caller? at h
  split at h
  next found => exact False.elim (suits found)
  next new found =>
    cases h
    have near : w.scene.Near (w.scene.replace new) := .of_processes rfl rfl rfl
    refine ⟨rfl, mood, near.feels feels, ?_⟩
    rw [told_of_set found rfl]
    exact fair.store found rfl
  next new old found =>
    cases h
    obtain ⟨x, c, compared, desk, callers, goes⟩ := w.compare_cases id new old
    rw [compared]
    refine ⟨congrArg (fun d => d.scene.cancelled) desk, mood, ?_, ?_⟩
    · show x.warden.desk.watch.stance.Feels mood
      rw [desk]
      exact feels
    · rw [told_of_set found (congrArg (fun l => l.set id c) callers)]
      have put : ((w.board mood last).put id c).Fair := by
        obtain ⟨demands, rfl⟩ | ⟨needless, untold, o, rfl⟩ := goes
        · exact fair.proceed found trivial (by rintro desired t ⟨⟩) (fun _ => rfl)
            (fun starts => (Bool.and_eq_true _ _ ▸ starts).1) rfl (fun _ => rfl) rfl
        · refine fair.proceed found trivial (by rintro desired t ⟨⟩) (fun stops => ?_) (fun starts => ?_)
            rfl (fun _ => rfl) untold
          · cases needless.symm.trans stops
          · cases needless.symm.trans (Bool.and_eq_true _ _ ▸ starts).2
      show Board.Fair ⟨x.callers.set id c, _, x.warden.desk.scene.settings.enabled, mood,
        x.warden.desk.scene.replies⟩
      rw [desk, callers]
      exact put
  next new a found =>
    obtain ⟨premises, n, mood', l, feels', serves, goes, callers, board⟩ :=
      ask_board last h (by rintro ⟨⟩) found rfl turn feels (suits found)
    refine ⟨Scene.cancelled_of_premises premises, mood', feels', ?_⟩
    rw [told_of_set found callers, board]
    exact fair.stopping found serves goes
  next new a found =>
    obtain ⟨premises, n, mood', l, feels', serves, goes, callers, board⟩ :=
      ask_board last h (by rintro ⟨⟩) found rfl turn feels (suits found)
    refine ⟨Scene.cancelled_of_premises premises, mood', feels', ?_⟩
    rw [told_of_set found callers, board]
    exact fair.starting found serves goes
  next => cases h

/-! ### Every move -/

/-- What happens beside the watch and the callers leaves the board as it is. -/
theorem Suited.beside (suited : w.Suited last) (near : w.scene.Near v.scene)
    (phase : v.watch.phase = w.watch.phase) (mailbox : v.watch.mailbox = w.watch.mailbox)
    (callers : v.callers = w.callers) (settings : v.scene.settings = w.scene.settings)
    (replies : v.scene.replies = w.scene.replies) : v.Suited last := by
  obtain ⟨mood, feels, fair⟩ := suited
  refine ⟨mood, ?_, ?_⟩
  · show Stance.Feels mood ⟨.waiting v.watch.phase, v.scene, v.watch.mailbox⟩
    rw [phase, mailbox]
    exact near.feels feels
  · unfold board
    rw [callers, settings, replies]
    exact fair

/-- The watch goes on, and the board with it. -/
theorem Suited.watch {x : Watch} (suited : w.Suited last)
    (goes : ∀ mood, w.stance.Feels mood → mood.Leads w.stance x.stance)
    (settings : x.scene.settings = w.scene.settings) : (w.setWatch x).Suited last := by
  obtain ⟨mood, feels, fair⟩ := suited
  obtain ⟨mood', feels', changes⟩ := goes mood feels
  refine ⟨mood', feels', ?_⟩
  show Board.Fair ⟨w.callers, last, x.scene.settings.enabled, mood', x.scene.replies⟩
  rw [settings]
  exact fair.changes changes

/-- All is as it is while nothing disturbs. -/
structure Poised (last : Option SettingsOutcome) (w : World) : Prop where
  attends : w.Attends
  tends : w.stance.Tends
  quiet : w.warden.restarts = false
  going : w.scene.cancelled = false
  suited : w.Suited last

/-- A refresher that is at no restart and hears no tick takes note of its period at most. -/
theorem resume_quiet {o x : Warden} {i : RefresherInput} (h : o.resume i = some x)
    (quiet : o.restarts = false) (calm : (i = .rang || i = .cancelled : Bool) = false) :
    ∃ period set?, x = ({ o with periodChanged := false } : Warden).scheduled period set? := by
  unfold Warden.restarts at quiet
  unfold Warden.resume at h
  split at h
  next => cases calm
  next =>
    split_ifs at h
    cases h
    exact ⟨_, _, rfl⟩
  next refreshing =>
    rw [refreshing] at quiet
    cases quiet
  next stopping =>
    rw [stopping] at quiet
    cases quiet
  next starting =>
    rw [starting] at quiet
    cases quiet
  next => cases calm
  next => cases h

/-- Where a schedule is set, the refresher waits, and the board is as it was. -/
theorem Suited.scheduled {o : Warden} (suited : w.Suited last) (desk : o.desk = w.warden.desk)
    (period : Duration) (set? : Duration → Option Schedule) :
    ({ w with warden := o.scheduled period set? } : World).Suited last ∧
      (o.scheduled period set?).restarts = false ∧
      (o.scheduled period set?).scene.cancelled = w.scene.cancelled := by
  obtain ⟨d, r, c, p⟩ := o
  cases desk
  unfold Warden.scheduled
  cases set? period with
  | none => exact ⟨suited.beside (.of_processes rfl rfl rfl) rfl rfl rfl rfl rfl, rfl, rfl⟩
  | some s => exact ⟨suited.beside (.of_processes rfl rfl rfl) rfl rfl rfl rfl rfl, rfl, rfl⟩

theorem Suited.onProcess {pid : Nat} {f : Process → Process} (suited : w.Suited last)
    (same : ∀ p, w.scene.processes[pid]? = some p → (f p).cancelled = p.cancelled ∧
      (f p).heard = p.heard ∧ (p.cancelled = false → (f p).stage = p.stage)) :
    (w.update (·.onProcess pid f)).Suited last :=
  suited.beside (.onProcess same) rfl rfl rfl rfl rfl

/-- A move that does not disturb leaves all as it is, with the change that a caller is told of. -/
theorem Poised.step (hw : w.Poised last) (h : w.step m = some v) (calm : w.disturbs m = false) :
    v.Poised ((v.toldChange? m).or last) := by
  have passage := hw.attends.sound.passage h
  suffices v.warden.restarts = false ∧ v.scene.cancelled = w.scene.cancelled ∧
      v.Suited ((v.toldChange? m).or last) from
    ⟨hw.attends.step h, passage.keep Shift.tends hw.tends, this.1, this.2.1.trans hw.going, this.2.2⟩
  cases m with
  | run =>
    simp only [World.step] at h
    split_ifs at h with unborn
    cases h
    have tread := Watch.begin_tread unborn
    refine ⟨hw.quiet, tread.frame.1, hw.suited.watch (fun mood feels => ?_) tread.frame.2⟩
    refine tread.mood hw.tends hw.going feels ?_
    rintro t rfl
    have place := congrArg Stand.waiting unborn
    unfold stance Watch.stance at feels
    rw [place] at feels
    cases feels
  | watch i =>
    obtain ⟨x, goes, rfl⟩ := Option.map_eq_some_iff.1 h
    have frame := (Watch.resume_tread goes).frame
    exact ⟨hw.quiet, frame.1,
      hw.suited.watch (fun _ feels => Watch.resume_mood goes calm hw.tends hw.going feels) frame.2⟩
  | beginRefresher =>
    simp only [World.step] at h
    split_ifs at h
    cases h
    obtain ⟨suited, quiet, going⟩ := hw.suited.scheduled rfl _ _
    exact ⟨quiet, going, suited⟩
  | refresher i =>
    obtain ⟨o, ho, rfl⟩ := Option.map_eq_some_iff.1 h
    obtain ⟨period, set?, rfl⟩ := resume_quiet ho hw.quiet calm
    obtain ⟨suited, quiet, going⟩ :=
      hw.suited.scheduled (o := { w.warden with periodChanged := false }) rfl period set?
    exact ⟨quiet, going, suited⟩
  | arrive p =>
    cases p with
    | setStatus _ => cases calm
    | setSettings new =>
      cases h
      obtain ⟨mood, feels, fair⟩ := hw.suited
      exact ⟨hw.quiet, rfl, mood, feels, fair.arrive new⟩
  | caller id =>
    obtain ⟨going, suited⟩ := caller_suited h hw.attends.turn hw.suited
    refine ⟨?_, going, suited⟩
    unfold Warden.restarts
    rw [caller_refresher h]
    exact hw.quiet
  | exit pid note =>
    obtain ⟨s, hs, rfl⟩ := Option.map_eq_some_iff.1 h
    obtain ⟨p, found, hp⟩ := Option.bind_eq_some_iff.1 hs
    split_ifs at hp
    cases hp
    have told : p.cancelled = true := by
      simpa [disturbs, found] using calm
    refine ⟨hw.quiet, rfl, hw.suited.onProcess fun p' here => ⟨rfl, rfl, fun kept => ?_⟩⟩
    obtain rfl := Option.some.inj (found.symm.trans here)
    cases told.symm.trans kept
  | print pid stream line =>
    obtain ⟨s, hs, rfl⟩ := Option.map_eq_some_iff.1 h
    obtain ⟨p, -, hp⟩ := Option.bind_eq_some_iff.1 hs
    obtain ⟨c, -, rfl⟩ := Option.map_eq_some_iff.1 hp
    exact ⟨hw.quiet, rfl, hw.suited.onProcess fun _ _ => ⟨rfl, rfl, fun _ => rfl⟩⟩
  | hangUp pid stream =>
    cases h
    exact ⟨hw.quiet, rfl, hw.suited.onProcess fun _ _ => ⟨rfl, rfl, fun _ => rfl⟩⟩
  | collect pid n =>
    obtain ⟨s, hs, rfl⟩ := Option.map_eq_some_iff.1 h
    obtain ⟨p, -, hp⟩ := Option.bind_eq_some_iff.1 hs
    obtain ⟨⟨c, line⟩, -, rfl⟩ := Option.map_eq_some_iff.1 hp
    have collected : (w.update (·.onProcess pid ({ · with collector := c }))).Suited last :=
      hw.suited.onProcess fun _ _ => ⟨rfl, rfl, fun _ => rfl⟩
    cases line with
    | none => exact ⟨hw.quiet, rfl, collected⟩
    | some line =>
      exact ⟨hw.quiet, rfl, collected.beside (.of_processes rfl rfl rfl) rfl rfl rfl rfl rfl⟩
  | pass nanos =>
    cases h
    exact ⟨hw.quiet, rfl, hw.suited.beside (.of_processes rfl rfl rfl) rfl rfl rfl rfl rfl⟩
  | cancelWatch | dropWatch | cancelRefresher | dropRefresher | leave _ => cases calm

theorem Poised.run {ms : List Move} (hw : w.Poised last) (h : w.run ms = some v)
    (peaceful : w.isPeaceful ms = true) : v.Poised ((w.lastChange? ms).or last) := by
  induction ms generalizing w last with
  | nil =>
    cases h
    exact hw
  | cons m ms ih =>
    obtain ⟨x, hx, hv⟩ := Option.bind_eq_some_iff.1 h
    unfold isPeaceful at peaceful
    rw [hx, Bool.and_eq_true, Bool.not_eq_true'] at peaceful
    have rest := ih (hw.step hx peaceful.1) hv peaceful.2
    unfold lastChange?
    rw [hx, Option.bind_some, Option.or_assoc]
    exact rest

end World

/-! ## When all calls are over -/

namespace Board.Fair

variable {b : Board}

/-- Where all calls are over and nothing is under way, nothing is left to do. -/
theorem of_over (ended : ∀ c ∈ b.callers, c.isOver = true) (idle : b.mood.request? = none)
    (untold : b.last = none) : b.Fair where
  suits c mem := by
    have past := ended c mem
    cases c with
    | done _ | gone => trivial
    | _ => cases past
  owner r sees := by cases idle.symm.trans sees
  rest _ _ := by
    refine .inr (.inr ⟨by simp [untold], fun c mem => ?_⟩)
    have past := ended c mem
    cases c with
    | done _ | gone => rfl
    | _ => cases past
  unwanted := by
    rintro ⟨t, unwanted⟩
    rw [unwanted] at idle
    cases idle
  up _ _ := by
    refine .inr ⟨untold, fun c mem => ?_⟩
    have past := ended c mem
    cases c with
    | done _ | gone => rfl
    | _ => cases past
  disabled _ disabled := by cases untold.symm.trans disabled

/-- A resolver is up exactly if one is wanted and the last caller was not told that it is disabled. -/
theorem settled (h : b.Fair) (ended : ∀ c ∈ b.callers, c.isOver = true) :
    (b.mood = .rest ∨ b.mood = .up) ∧ (b.last = some .disabled → b.mood = .rest) ∧
      ∀ o, b.last = some (.restarted o) → (b.mood = .up ↔ b.wanted = true) := by
  have none : ∀ {P : Caller → Prop}, (∃ c ∈ b.callers, P c) → (∀ o, ¬ P (.done o)) → ¬ P .gone →
      False := by
    rintro P ⟨c, mem, hc⟩ done gone
    have past := ended c mem
    cases c with
    | done o => exact done o hc
    | gone => exact gone hc
    | _ => cases past
  have idle : b.mood.request? = Option.none := by
    refine Option.eq_none_iff_forall_ne_some.2 fun r sees => ?_
    exact none (h.owner r sees) (by rintro o ⟨⟩) (by rintro ⟨⟩)
  have either : b.mood = .rest ∨ b.mood = .up := by
    cases mood : b.mood with
    | rest => exact .inl rfl
    | up => exact .inr rfl
    | _ =>
      rw [mood] at idle
      cases idle
  refine ⟨either, fun disabled => either.resolve_right fun up => ?_, fun o told => ⟨fun up => ?_, ?_⟩⟩
  · exact none (h.disabled up disabled) (by rintro o ⟨⟩) (by rintro ⟨⟩)
  · refine Bool.of_not_eq_false fun unwanted => ?_
    obtain later | ⟨untold, -⟩ := h.up (.inl up) unwanted
    · exact none later (by rintro o ⟨⟩) (by rintro ⟨⟩)
    · cases told.symm.trans untold
  · refine fun wanted => either.resolve_left fun rest => ?_
    obtain later | stopped | ⟨untold, -⟩ := h.rest rest wanted
    · exact none later (by rintro o ⟨⟩) (by rintro ⟨⟩)
    · exact none stopped (by rintro o ⟨⟩) (by rintro ⟨⟩)
    · exact untold o told

end Board.Fair

namespace World

variable {u w : World} {before ms : List Move} {policy : Policy} {settings : Settings}
  {draws : Nat → Nat}

/-- A resolver runs. -/
def IsUp (w : World) : Prop := w.scene.status = .running ∧ w.scene.live = 1

/-- No resolver runs. -/
def IsStopped (w : World) : Prop := w.scene.status = .stopped ∧ w.scene.live = 0

/-- A resolver runs if the stored settings want one, and otherwise none does. -/
def FollowsSettings (w : World) : Prop := if w.scene.settings.enabled then w.IsUp else w.IsStopped

theorem AtEase.poised (h : (World.initial policy settings draws).run before = some u)
    (ease : u.AtEase) : u.Poised none := by
  refine ⟨run_attends h, run_tends h, ease.quiet, ease.going, ?_⟩
  obtain rest | up := ease.feels
  · exact ⟨_, rest, .of_over ease.ended rfl rfl⟩
  · exact ⟨_, up, .of_over ease.ended rfl rfl⟩

/-- All is at ease again once all calls are over, if nothing has disturbed. -/
theorem AtEase.run (h : (World.initial policy settings draws).run before = some u)
    (ease : u.AtEase) (hw : u.run ms = some w) (peaceful : u.isPeaceful ms = true)
    (ended : ∀ c ∈ w.callers, c.isOver = true) : w.AtEase := by
  obtain ⟨-, -, quiet, going, mood, feels, fair⟩ := (ease.poised h).run hw peaceful
  obtain ⟨either, -⟩ := fair.settled ended
  refine ⟨ended, quiet, going, either.imp (fun rest => ?_) fun up => ?_⟩
  · obtain rfl : mood = .rest := rest
    exact feels
  · obtain rfl : mood = .up := up
    exact feels

/--
Let any number of callers store settings at once while nothing goes wrong: no collaborator fails, every
probe is answered in time, no process ends by itself, nothing is cancelled or given up, no tick is heard
and nothing else is asked for.  Once all calls are over, the resolver follows the settings that are
stored then, if the last caller that was told of a change of the resolver was told of a restart; and if
it was told that the resolver is disabled, none runs.
-/
theorem resolver_follows_last_change
    (h : (World.initial policy settings draws).run before = some u) (ease : u.AtEase)
    (hw : u.run ms = some w) (peaceful : u.isPeaceful ms = true)
    (ended : ∀ c ∈ w.callers, c.isOver = true) :
    (∀ o, u.lastChange? ms = some (.restarted o) → w.FollowsSettings) ∧
      (u.lastChange? ms = some .disabled → w.IsStopped) := by
  obtain ⟨-, tends, -, -, mood, feels, fair⟩ := (ease.poised h).run hw peaceful
  rw [Option.or_none] at fair
  obtain ⟨either, disabled, restarted⟩ := fair.settled ended
  have stopped : mood = .rest → w.IsStopped := fun rest => (rest ▸ feels).stopped tends
  have up : mood = .up → w.IsUp := fun up => (up ▸ feels).running tends
  refine ⟨fun o told => ?_, fun told => stopped (disabled told)⟩
  unfold FollowsSettings
  split_ifs with enabled
  · exact up ((restarted o told).2 enabled)
  · exact stopped (either.resolve_right fun up => enabled ((restarted o told).1 up))

/-- Two callers store settings, the first of which want no resolver. -/
def bothStore : List Move :=
  firstSession.take 2 ++
    [.arrive (.setSettings { enabled := false, plaintextAddress := some .loopback }), .caller 0,
      .arrive (.setSettings { enabled := true, plaintextAddress := some .loopback }), .caller 1]

/-- The second caller finds the resolver stopped, has it started and is told so. -/
def secondStarts : List Move :=
  List.replicate 8 (.caller 1) ++ firstSession.drop 7 ++ [.caller 1]

theorem resolver_follows_settings_stored_last :
    ∃ w, wanted.run (bothStore ++ List.replicate 4 (.caller 0) ++ secondStarts) = some w ∧
      wanted.isPeaceful (bothStore ++ List.replicate 4 (.caller 0) ++ secondStarts) = true ∧
      (∀ c ∈ w.callers, c.isOver = true) ∧
      wanted.lastChange? (bothStore ++ List.replicate 4 (.caller 0) ++ secondStarts) =
        some (.restarted (.changed .running)) ∧ w.FollowsSettings := by
  have peaceful : wanted.isPeaceful (bothStore ++ List.replicate 4 (.caller 0) ++ secondStarts) =
      true := by
    decide +kernel
  have told : wanted.lastChange? (bothStore ++ List.replicate 4 (.caller 0) ++ secondStarts) =
      some (.restarted (.changed .running)) := by
    decide +kernel
  have ran : ((wanted.run (bothStore ++ List.replicate 4 (.caller 0) ++ secondStarts)).any fun w =>
      decide (∀ c ∈ w.callers, c.isOver = true)) = true := by
    decide +kernel
  obtain ⟨w, hw, ran⟩ := (Option.any_eq_true _ _).1 ran
  have ended := of_decide_eq_true ran
  obtain ⟨follows, -⟩ :=
    resolver_follows_last_change (run_nil _) (initial_atEase _ _ _) hw peaceful ended
  exact ⟨w, hw, peaceful, ended, told, follows _ told⟩

/-- The resolver of the second caller is stopped by the first one, which is told so. -/
def firstStops : List Move :=
  List.replicate 5 (.caller 0) ++
    [.watch .request, .watch (.answer (.systemPointed none)), .exit 0 .clean, .watch .ended, .caller 0]

/-- A caller has a resolver started that does not answer its probe while there is time. -/
def slowProbe : List Move :=
  firstSession.take 2 ++
    [.arrive (.setSettings
      { enabled := true, plaintextAddress := some .loopback, keepNameserver := true })] ++
    List.replicate 9 (.caller 0) ++ (firstSession.drop 7).dropLast ++ [.pass 60000000000]

/--
The resolver may be left stopped although the settings stored last want one: they were stored by a
caller that had it started before another one, with older settings, had it stopped.  And a resolver that
does not answer its probe in time does not come up, although nothing has failed.
-/
theorem stored_settings_overtaken :
    (∃ w, wanted.run (bothStore ++ secondStarts ++ firstStops) = some w ∧
      wanted.isPeaceful (bothStore ++ secondStarts ++ firstStops) = true ∧
      w.callers = [.done (.settings (.ok .disabled)),
        .done (.settings (.ok (.restarted (.changed .running))))] ∧
      w.scene.settings.enabled = true ∧ w.scene.status = .stopped ∧ w.scene.live = 0) ∧
    ∃ w, wanted.run (slowProbe ++ [.watch .elapsed, .caller 0]) = some w ∧
      wanted.isPeaceful slowProbe = true ∧
      w.callers = [.done (.settings (.ok (.restarted (.changed .crashed))))] ∧
      w.scene.settings.enabled = true ∧ w.scene.status = .crashed := by
  have stopped : ((wanted.run (bothStore ++ secondStarts ++ firstStops)).any fun w =>
      decide (w.callers = [.done (.settings (.ok .disabled)),
        .done (.settings (.ok (.restarted (.changed .running))))] ∧
        w.scene.settings.enabled = true ∧ w.scene.status = .stopped ∧ w.scene.live = 0)) = true := by
    decide +kernel
  have crashed : ((wanted.run (slowProbe ++ [.watch .elapsed, .caller 0])).any fun w =>
      decide (w.callers = [.done (.settings (.ok (.restarted (.changed .crashed))))] ∧
        w.scene.settings.enabled = true ∧ w.scene.status = .crashed)) = true := by
    decide +kernel
  obtain ⟨w, hw, stopped⟩ := (Option.any_eq_true _ _).1 stopped
  obtain ⟨v, hv, crashed⟩ := (Option.any_eq_true _ _).1 crashed
  exact ⟨⟨w, hw, by decide +kernel, of_decide_eq_true stopped⟩,
    ⟨v, hv, by decide +kernel, of_decide_eq_true crashed⟩⟩

end World

end DnsWarden
