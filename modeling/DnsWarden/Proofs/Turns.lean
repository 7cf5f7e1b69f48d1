import DnsWarden.Proofs.Surroundings

/-!
# Turns

Callers and the refresher stand in the queue at the desk, and everything else goes on beside it.  A
`Turn` says what one move is for the clients and for the watch: a tread of the watch, one step of one
client at the desk, or a murmur beside them.  `World.step_turn` finds it for every move, and
`World.run_keep` says that what every shift of the watch keeps is kept by every run.  Where a move gives
up a call or a restart, `World.Departs` says which client goes away and what it leaves as it was.
-/

namespace DnsWarden

/-! ## Clients -/

/-- The change of status that a caller asks for, and how far it has come. -/
def Caller.ask? : Caller → Option (Status × Ask)
  | .asking desired a => some (desired, a)
  | .stopping _ a => some (.stopped, a)
  | .starting _ a => some (.running, a)
  | _ => none

/-- The change of status that the refresher asks for, and how far it has come. -/
def Refresher.ask? : Refresher → Option (Status × Ask)
  | .stopping _ a => some (.stopped, a)
  | .starting _ a => some (.running, a)
  | _ => none

/-- A client with this change of status has not joined the queue. -/
def Ask.Out (o : Option (Status × Ask)) : Prop := ∀ desired a, o = some (desired, a) → a = .arriving

/-- What becomes of a client's change of status after one step of it. -/
def Ask.Next.Leads (n : Ask.Next) (desired : Status) (o : Option (Status × Ask)) : Prop :=
  match n with
  | .waiting a => o = some (desired, a)
  | .done _ => Ask.Out o

theorem Ask.out_none : Ask.Out none := by
  intro desired a h
  cases h

theorem Ask.out_arriving (desired : Status) : Ask.Out (some (desired, .arriving)) := by
  intro desired' a h
  cases h
  rfl

/-- Whether the refresher is at a restart. -/
def Warden.restarts (o : Warden) : Bool :=
  match o.refresher with
  | .refreshing _ _ | .stopping _ _ | .starting _ _ => true
  | _ => false

namespace World

/-- The change of status that a client asks for at the desk, and how far it has come. -/
def ask? (w : World) : Client → Option (Status × Ask)
  | .caller id => w.callers[id]?.bind Caller.ask?
  | .refresher => w.warden.refresher.ask?

/-- The clients in the queue. -/
def queue (w : World) : List Client := w.warden.desk.queue

/-- The stance of the watch. -/
def stance (w : World) : Stance := w.watch.stance

/-- A client's next step ends its change of status with a result. -/
def Settles (w : World) (c : Client) (desired : Status) (result : Except CallFault StatusOutcome) :
    Prop :=
  ∃ a d, w.ask? c = some (desired, a) ∧ w.warden.desk.step c desired a = some (d, .done result)

/-- Whether a move gives up a call, or a restart of the refresher, that has begun. -/
def drops (w : World) : Move → Bool
  | .leave _ => true
  | .refresher .cancelled | .dropRefresher => w.warden.restarts
  | _ => false

end World

/--
A client is told that its change of status is settled where it reads the status and needs no change, or
where the reply that it waits for was given.
-/
theorem Desk.step_ok {d d' : Desk} {c : Client} {desired : Status} {a : Ask} {o : StatusOutcome}
    (h : d.step c desired a = some (d', .done (.ok o))) :
    (a = .reading ∧ o = .already d.scene.status ∧ (desired = .stopped ↔ d.scene.status = .stopped)) ∨
      ∃ t x, a = .awaiting t ∧ o = .changed x ∧ d.scene.replies[t]? = some (.given x) := by
  cases a with
  | arriving => cases h
  | queued =>
    simp only [step] at h
    split_ifs at h
    cases h
  | reading =>
    simp only [step, Option.some.injEq, decide] at h
    cases desired with
    | running =>
      dsimp only at h
      split_ifs at h with stopped <;> cases h
      exact .inl ⟨rfl, rfl, iff_of_false (fun same => by cases same) stopped⟩
    | stopped =>
      dsimp only at h
      split_ifs at h with stopped <;> cases h
      exact .inl ⟨rfl, rfl, iff_of_true rfl stopped⟩
    | crashed => cases h
  | sending r =>
    simp only [step] at h
    split_ifs at h <;> cases h
  | awaiting t =>
    simp only [step] at h
    split at h
    next given =>
      cases h
      exact .inr ⟨t, _, rfl, rfl, given⟩
    next => cases h
    next => cases h

namespace World

theorem ask?_setCaller {w : World} {id : Nat} {old : Caller} (found : w.callers[id]? = some old)
    (new : Caller) : (w.setCaller id new).ask? (.caller id) = new.ask? := by
  have lt : id < w.callers.length := (List.getElem?_eq_some_iff.1 found).1
  have here : (w.callers.set id new)[id]? = some new := List.getElem?_set_self lt
  show (w.callers.set id new)[id]?.bind Caller.ask? = _
  rw [here]
  rfl

theorem ask?_setCaller_of_ne (w : World) {id : Nat} {c : Client} (ne : c ≠ .caller id) (new : Caller) :
    (w.setCaller id new).ask? c = w.ask? c := by
  cases c with
  | caller i =>
    have ne : id ≠ i := fun e => ne (e ▸ rfl)
    show (w.callers.set id new)[i]?.bind Caller.ask? = _
    rw [List.getElem?_set_ne ne]
    rfl
  | refresher => rfl

end World

/-- What a move is for the clients and for the watch. -/
inductive Turn (w : World) (m : Move) (v : World) : Prop where
  /-- The watch goes on to its next wait. -/
  | watch (tread : Tread w.stance v.stance) (queue : v.queue = w.queue) (asks : v.ask? = w.ask?)
  /-- The watch is dropped. -/
  | drop (isOpen : w.watch.isOpen = true) (begun : w.watch.phase ≠ .unborn)
    (dropped : v.watch = w.watch.drop) (queue : v.queue = w.queue) (asks : v.ask? = w.ask?)
  /-- A client takes a step at the desk. -/
  | desk {c desired a d n} (asked : w.ask? c = some (desired, a))
    (step : w.warden.desk.step c desired a = some (d, n)) (queue : v.queue = d.queue)
    (murmurs : Murmurs d.watch.stance v.stance) (leads : n.Leads desired (v.ask? c))
    (others : ∀ c', c' ≠ c → v.ask? c' = w.ask? c')
  /-- Something happens beside the desk. -/
  | beside (murmurs : Murmurs w.stance v.stance) (queue : v.queue = w.queue)
    (asks : ∀ c, v.ask? c = w.ask? c ∨ Ask.Out (w.ask? c) ∧ Ask.Out (v.ask? c))
  /-- A client goes away. -/
  | leave (drops : w.drops m = true) (nudges : Nudges w.stance v.stance)

/-- What a move is for the clients, it is for the watch. -/
theorem Turn.passage {w v : World} {m : Move} (h : Turn w m v) : Passage w.stance v.stance := by
  cases h with
  | watch tread _ _ => exact .tread tread
  | drop isOpen begun dropped _ _ =>
    unfold World.stance
    rw [dropped]
    exact .drop isOpen begun
  | desk _ step _ murmurs _ _ => exact .nudges ((Desk.step_nudges step).trans murmurs.nudges)
  | beside murmurs _ _ => exact .nudges murmurs.nudges
  | leave _ nudges => exact .nudges nudges

/-! ## Callers -/

namespace World

variable {w v : World} {id : Nat} {m : Move}

/-- A caller's step at the desk is a turn. -/
theorem ask_turn {old : Caller} {desired : Status} {a : Ask} {waiting : Ask → Caller}
    {done : Except CallFault StatusOutcome → Caller} (found : w.callers[id]? = some old)
    (asked : old.ask? = some (desired, a)) (hw : ∀ a, (waiting a).ask? = some (desired, a))
    (hd : ∀ result, Ask.Out (done result).ask?) (h : w.ask id desired a waiting done = some v) :
    Turn w m v := by
  obtain ⟨⟨d, n⟩, step, hv⟩ := Option.map_eq_some_iff.1 h
  have asked : w.ask? (.caller id) = some (desired, a) := by
    show w.callers[id]?.bind Caller.ask? = _
    rw [found]
    exact asked
  cases n with
  | waiting a' =>
    cases hv
    refine .desk asked step rfl .refl ?_ fun c ne => ask?_setCaller_of_ne _ ne _
    exact (ask?_setCaller found _).trans (hw a')
  | done result =>
    cases hv
    refine .desk asked step rfl .refl ?_ fun c ne => ask?_setCaller_of_ne _ ne _
    have gone : (w.setCaller id (done result)).ask? (.caller id) = (done result).ask? :=
      ask?_setCaller found _
    show Ask.Out ((w.setCaller id (done result)).ask? (.caller id))
    rw [gone]
    exact hd result

/-- What a caller does beside the desk is a turn. -/
theorem setCaller_turn {old : Caller} (new : Caller) (found : w.callers[id]? = some old)
    (out : Ask.Out old.ask?) (out' : Ask.Out new.ask?) (murmurs : Murmurs w.stance v.stance)
    (queue : v.queue = w.queue) (same : v.ask? = (w.setCaller id new).ask?) : Turn w m v := by
  refine .beside murmurs queue fun c => ?_
  rw [same]
  by_cases here : c = .caller id
  · right
    subst here
    have before : w.ask? (.caller id) = old.ask? := by
      show w.callers[id]?.bind Caller.ask? = _
      rw [found]
      rfl
    rw [before, ask?_setCaller found]
    exact ⟨out, out'⟩
  · exact .inl (ask?_setCaller_of_ne w here new)

theorem compare_turn {new old : Settings} (found : w.callers[id]? = some (.stored new old)) :
    Turn w m (w.compare id new old) := by
  unfold compare
  split_ifs
  · exact setCaller_turn (.done (.settings (.ok .unchanged))) found Ask.out_none Ask.out_none .refl
      rfl rfl
  · exact setCaller_turn (.done (.settings (.ok .periodChanged))) found Ask.out_none Ask.out_none .refl
      rfl rfl
  · exact setCaller_turn (.stopping new .arriving) found Ask.out_none (Ask.out_arriving _) .refl rfl rfl
  · exact setCaller_turn (.done (.settings (.ok .periodChanged))) found Ask.out_none Ask.out_none .refl
      rfl rfl
  · exact setCaller_turn (.stopping new .arriving) found Ask.out_none (Ask.out_arriving _) .refl rfl rfl

theorem afterStop_out (new : Settings) (result : Except CallFault StatusOutcome) :
    Ask.Out (afterStop new result).ask? := by
  cases result with
  | error f => exact Ask.out_none
  | ok o =>
    unfold afterStop
    dsimp only
    split_ifs
    · exact Ask.out_arriving _
    · exact Ask.out_none

theorem afterStart_out (result : Except CallFault StatusOutcome) :
    Ask.Out (afterStart result).ask? := by
  cases result <;> exact Ask.out_none

theorem caller_turn (h : w.caller? id = some v) : Turn w m v := by
  unfold caller? at h
  split at h
  next found =>
    have out : ∀ result, Ask.Out (Caller.done (.status result)).ask? := fun _ => Ask.out_none
    exact ask_turn found rfl (fun _ => rfl) out h
  next new found =>
    cases h
    have stored : Murmur w.stance ⟨w.stance.stand, w.scene.replace new, w.watch.mailbox⟩ :=
      ⟨.replace, rfl, rfl, rfl, rfl⟩
    exact setCaller_turn (.stored new _) found Ask.out_none Ask.out_none (.single stored) rfl rfl
  next found =>
    cases h
    exact compare_turn found
  next new a found =>
    exact ask_turn found rfl (fun _ => rfl) (afterStop_out new) h
  next found => exact ask_turn found rfl (fun _ => rfl) afterStart_out h
  next => cases h

theorem leave_nudges (h : w.leave? id = some v) : Nudges w.stance v.stance := by
  unfold leave? at h
  split at h <;> cases h
  · exact Desk.abandon_nudges _ _ _
  · exact Desk.abandon_nudges _ _ _
  · exact Desk.abandon_nudges _ _ _
  · exact .refl

end World

/-! ## The refresher -/

namespace Warden

/-- Whether the refresher refreshes the files. -/
def isRefreshing (o : Warden) : Bool :=
  match o.refresher with
  | .refreshing _ _ => true
  | _ => false

/-- The stance of the watch. -/
def stance (o : Warden) : Stance := o.desk.watch.stance

/-- The refresher goes on beside the desk, and the watch hears at most murmurs of it. -/
structure Beside (o v : Warden) : Prop where
  murmurs : Murmurs o.stance v.stance
  queue : v.desk.queue = o.desk.queue
  out : Ask.Out v.refresher.ask?

theorem scheduled_beside (o : Warden) (period : Duration) (set? : Duration → Option Schedule) :
    o.Beside (o.scheduled period set?) := by
  unfold scheduled
  cases set? period with
  | none => exact ⟨.refl, rfl, Ask.out_none⟩
  | some s => exact ⟨(o.scene.record_told rfl).murmurs, rfl, Ask.out_none⟩

theorem restart_beside (o : Warden) : o.Beside o.restart := by
  have ticked : o.scene.Told (o.scene.record .ticked) := o.scene.record_told rfl
  unfold restart
  dsimp only
  split_ifs
  · exact ⟨(ticked.trans (Refresh.begin_told _)).murmurs, rfl, Ask.out_none⟩
  · exact ⟨ticked.murmurs, rfl, Ask.out_arriving _⟩

theorem refreshed_beside (o : Warden) (s : Schedule) (failure : Option RefreshFault)
    (late : o.stance.stand.isEarly = false) : o.Beside (o.refreshed s failure) := by
  cases failure with
  | none => exact ⟨.refl, rfl, Ask.out_arriving _⟩
  | some f =>
    have failed : Murmurs o.stance _ := o.scene.refreshFailed_murmurs f late
    exact ⟨failed.trans (Scene.record_told _ rfl).murmurs, rfl, Ask.out_none⟩

theorem stopped_beside (o : Warden) (s : Schedule) (result : Except CallFault StatusOutcome) :
    o.Beside (o.stopped s result) := by
  cases result with
  | ok _ => exact ⟨.refl, rfl, Ask.out_arriving _⟩
  | error f => exact ⟨(o.scene.record_told rfl).murmurs, rfl, Ask.out_arriving _⟩

theorem started_beside (o : Warden) (s : Schedule) (result : Except CallFault StatusOutcome) :
    o.Beside (o.started s result) := by
  unfold started
  cases result with
  | ok _ =>
    have counted : Murmurs o.stance
        (o.update (·.tally fun t => { t with restarts := t.restarts + 1 })).stance :=
      .single ⟨.restarted, rfl, rfl, rfl, rfl⟩
    obtain ⟨murmurs, queue, out⟩ := scheduled_beside
      (o.update (·.tally fun t => { t with restarts := t.restarts + 1 })) _ _
    exact ⟨counted.trans murmurs, queue, out⟩
  | error f =>
    have told : Murmurs o.stance (o.update (·.tell (.cannotStart f))).stance :=
      (o.scene.record_told rfl).murmurs
    obtain ⟨murmurs, queue, out⟩ := scheduled_beside (o.update (·.tell (.cannotStart f))) _ _
    exact ⟨told.trans murmurs, queue, out⟩

theorem abandon_nudges (o : Warden) : Nudges o.stance o.abandon.stance := by
  unfold abandon
  split
  · exact o.desk.abandon_nudges .refresher _
  · exact o.desk.abandon_nudges .refresher _
  · exact .refl

end Warden

namespace World

variable {w v : World} {m : Move}

/-- What the refresher does beside the desk is a turn. -/
theorem beside_turn {o : Warden} {r : Refresher} (before : w.warden.refresher = r)
    (out : Ask.Out r.ask?) (h : w.warden.Beside o) : Turn w m { w with warden := o } := by
  refine .beside h.murmurs h.queue fun c => ?_
  cases c with
  | caller id => exact .inl rfl
  | refresher =>
    subst before
    exact .inr ⟨out, h.out⟩

/-- The refresher's step at the desk, after which it goes on beside the desk, is a turn. -/
theorem refresherAsk_turn {desired : Status} {a : Ask} {n : Ask.Next} {d : Desk} {o : Warden}
    (asked : w.warden.refresher.ask? = some (desired, a))
    (step : w.warden.desk.step .refresher desired a = some (d, n)) (queue : o.desk.queue = d.queue)
    (murmurs : Murmurs d.watch.stance o.stance) (leads : n.Leads desired o.refresher.ask?) :
    Turn w m { w with warden := o } := by
  have asked : w.ask? .refresher = some (desired, a) := asked
  refine .desk asked step queue murmurs leads fun c ne => ?_
  cases c with
  | caller id => rfl
  | refresher => exact absurd rfl ne

/-- The refresher ends where it waits, perhaps in the middle of a restart. -/
theorem abandon_turn {r : Refresher} (out : Ask.Out r.ask?) (drops : w.drops m = w.warden.restarts) :
    Turn w m { w with warden := w.warden.abandon.wait r } := by
  cases restarts : w.warden.restarts with
  | true => exact .leave (drops.trans restarts) w.warden.abandon_nudges
  | false =>
    have idle : Ask.Out w.warden.refresher.ask? ∧ w.warden.abandon = w.warden := by
      unfold Warden.restarts at restarts
      unfold Warden.abandon
      cases refresher : w.warden.refresher with
      | refreshing _ _ | stopping _ _ | starting _ _ =>
        rw [refresher] at restarts
        cases restarts
      | _ => exact ⟨Ask.out_none, rfl⟩
    apply beside_turn rfl idle.1
    rw [idle.2]
    exact ⟨.refl, rfl, out⟩

theorem refresher_turn {i : RefresherInput} {o : Warden} (h : w.warden.resume i = some o)
    (late : w.warden.isRefreshing = true → w.stance.stand.isEarly = false) :
    Turn w (.refresher i) { w with warden := o } := by
  unfold Warden.resume at h
  split at h
  next refresher =>
    split_ifs at h
    cases h
    exact beside_turn refresher Ask.out_none w.warden.restart_beside
  next refresher =>
    split_ifs at h
    cases h
    obtain ⟨murmurs, queue, out⟩ := Warden.scheduled_beside { w.warden with periodChanged := false } _ _
    exact beside_turn refresher Ask.out_none ⟨murmurs, queue, out⟩
  next refreshing =>
    obtain ⟨⟨c, n⟩, hr, hv⟩ := Option.map_eq_some_iff.1 h
    have late := late (by simp [Warden.isRefreshing, refreshing])
    have told : Murmurs w.stance (w.warden.update fun _ => c).stance := (Refresh.resume_told hr).murmurs
    cases n with
    | waiting r' =>
      cases hv
      exact beside_turn refreshing Ask.out_none ⟨told, rfl, Ask.out_none⟩
    | done failure =>
      cases hv
      obtain ⟨murmurs, queue, out⟩ :=
        Warden.refreshed_beside (w.warden.update fun _ => c) _ failure late
      exact beside_turn refreshing Ask.out_none ⟨told.trans murmurs, queue, out⟩
  next stopping =>
    obtain ⟨⟨d, n⟩, hs, hv⟩ := Option.map_eq_some_iff.1 h
    have asked : w.warden.refresher.ask? = some (.stopped, _) := congrArg Refresher.ask? stopping
    cases n with
    | waiting a' =>
      cases hv
      exact refresherAsk_turn asked hs rfl .refl rfl
    | done result =>
      cases hv
      obtain ⟨murmurs, queue, out⟩ := Warden.stopped_beside { w.warden with desk := d } _ result
      exact refresherAsk_turn asked hs queue murmurs out
  next starting =>
    obtain ⟨⟨d, n⟩, hs, hv⟩ := Option.map_eq_some_iff.1 h
    have asked : w.warden.refresher.ask? = some (.running, _) := congrArg Refresher.ask? starting
    cases n with
    | waiting a' =>
      cases hv
      exact refresherAsk_turn asked hs rfl .refl rfl
    | done result =>
      cases hv
      obtain ⟨murmurs, queue, out⟩ := Warden.started_beside { w.warden with desk := d } _ result
      exact refresherAsk_turn asked hs queue murmurs out
  next =>
    split_ifs at h
    cases h
    exact abandon_turn Ask.out_none rfl
  next => cases h

end World

/-! ## Every move -/

namespace World

variable {w v : World} {m : Move}

theorem update_turn {f : Scene → Scene} (murmurs : Murmurs w.stance (w.update f).stance) :
    Turn w m (w.update f) :=
  .beside murmurs rfl fun _ => .inl rfl

/-- A caller that comes has not joined the queue. -/
theorem arrive_turn (p : Errand) : Turn w m { w with callers := w.callers ++ [Errand.stage p] } := by
  refine .beside .refl rfl fun c => ?_
  cases c with
  | refresher => exact .inl rfl
  | caller id =>
    by_cases old : id < w.callers.length
    · left
      show (w.callers ++ [Errand.stage p])[id]?.bind Caller.ask? = _
      rw [List.getElem?_append_left old]
      rfl
    · right
      have before : w.ask? (.caller id) = none := by
        show w.callers[id]?.bind Caller.ask? = none
        rw [List.getElem?_eq_none (Nat.not_lt.1 old)]
        rfl
      rw [before]
      refine ⟨Ask.out_none, fun desired a asked => ?_⟩
      obtain ⟨c, found, asked⟩ := Option.bind_eq_some_iff.1 asked
      obtain rfl : Errand.stage p = c := by
        rw [List.getElem?_append_right (Nat.not_lt.1 old)] at found
        exact List.mem_singleton.1 (List.mem_of_getElem? found) |>.symm
      cases p <;> cases asked
      rfl

/-- Every move is a turn. -/
theorem step_turn (h : w.step m = some v)
    (late : w.warden.isRefreshing = true → w.stance.stand.isEarly = false) : Turn w m v := by
  cases m with
  | run =>
    simp only [step] at h
    split_ifs at h with hp
    cases h
    exact .watch (Watch.begin_tread hp) rfl rfl
  | watch i =>
    obtain ⟨x, hx, rfl⟩ := Option.map_eq_some_iff.1 h
    exact .watch (Watch.resume_tread hx) rfl rfl
  | cancelWatch =>
    cases h
    exact update_turn (.single ⟨.cancel, rfl, rfl, rfl, rfl⟩)
  | dropWatch =>
    simp only [step] at h
    split_ifs at h with hd
    cases h
    simp only [Bool.and_eq_true, ne_eq, decide_not, Bool.not_eq_true', decide_eq_false_iff_not] at hd
    exact .drop hd.1 hd.2 rfl rfl rfl
  | beginRefresher =>
    simp only [step] at h
    split_ifs at h with unborn
    cases h
    exact beside_turn unborn Ask.out_none (w.warden.scheduled_beside _ _)
  | refresher i =>
    obtain ⟨o, ho, rfl⟩ := Option.map_eq_some_iff.1 h
    exact refresher_turn ho late
  | cancelRefresher =>
    cases h
    exact .beside .refl rfl fun _ => .inl rfl
  | dropRefresher =>
    simp only [step] at h
    split_ifs at h
    cases h
    exact abandon_turn Ask.out_none rfl
  | arrive p =>
    cases h
    exact arrive_turn p
  | caller id => exact caller_turn h
  | leave id => exact .leave rfl (leave_nudges h)
  | exit pid note =>
    obtain ⟨s, hs, rfl⟩ := Option.map_eq_some_iff.1 h
    obtain ⟨p, found, hp⟩ := Option.bind_eq_some_iff.1 hs
    split_ifs at hp with up
    cases hp
    exact update_turn (Scene.drift_murmurs found (.exit (of_decide_eq_true up)))
  | print pid stream line =>
    obtain ⟨s, hs, rfl⟩ := Option.map_eq_some_iff.1 h
    obtain ⟨p, found, hp⟩ := Option.bind_eq_some_iff.1 hs
    obtain ⟨c, hc, rfl⟩ := Option.map_eq_some_iff.1 hp
    exact update_turn (Scene.drift_murmurs found (.print hc))
  | hangUp pid stream =>
    cases h
    exact update_turn (w.scene.hangUp_murmurs pid stream)
  | collect pid m =>
    obtain ⟨s, hs, rfl⟩ := Option.map_eq_some_iff.1 h
    obtain ⟨p, found, hp⟩ := Option.bind_eq_some_iff.1 hs
    obtain ⟨⟨c, told⟩, hc, rfl⟩ := Option.map_eq_some_iff.1 hp
    have first : Murmurs w.stance
        (w.update (·.onProcess pid fun p => { p with collector := c })).stance :=
      Scene.drift_murmurs found (.collect hc)
    cases told with
    | none => exact update_turn first
    | some t => exact update_turn (first.trans (Scene.record_told _ rfl).murmurs)
  | pass nanos =>
    cases h
    exact update_turn (.single ⟨.pass, rfl, rfl, rfl, rfl⟩)

/-! ### Soundness -/

theorem compare_refresher (w : World) (id : Nat) (new old : Settings) :
    (w.compare id new old).warden.refresher = w.warden.refresher := by
  unfold compare
  split_ifs <;> rfl

theorem caller_refresher {w v : World} {id : Nat} (h : w.caller? id = some v) :
    v.warden.refresher = w.warden.refresher := by
  have asked : ∀ {desired a waiting done}, w.ask id desired a waiting done = some v →
      v.warden.refresher = w.warden.refresher := by
    intro desired a waiting done h
    obtain ⟨⟨d, n⟩, -, hv⟩ := Option.map_eq_some_iff.1 h
    cases n <;> cases hv <;> rfl
  unfold caller? at h
  split at h
  · exact asked h
  · cases h
    rfl
  · cases h
    exact w.compare_refresher _ _ _
  · exact asked h
  · exact asked h
  · cases h

theorem leave_refresher {w v : World} {id : Nat} (h : w.leave? id = some v) :
    v.warden.refresher = w.warden.refresher := by
  unfold leave? at h
  split at h <;> cases h <;> rfl

end World

namespace Warden

theorem isRefreshing_scheduled (o : Warden) (period : Duration) (set? : Duration → Option Schedule) :
    (o.scheduled period set?).isRefreshing = false := by
  unfold scheduled
  cases set? period <;> rfl

/-- The refresher begins to refresh the files only while the status is running. -/
theorem isRefreshing_resume {o v : Warden} {i : RefresherInput} (h : o.resume i = some v)
    (refreshing : v.isRefreshing = true) : o.isRefreshing = true ∨ o.scene.status = .running := by
  unfold resume at h
  split at h
  · split_ifs at h
    cases h
    unfold restart at refreshing
    dsimp only at refreshing
    split_ifs at refreshing with running
    · exact .inr running
    · cases refreshing
  · split_ifs at h
    cases h
    rw [isRefreshing_scheduled] at refreshing
    cases refreshing
  · next old =>
    left
    simp only [isRefreshing, old]
  · obtain ⟨⟨d, n⟩, -, hv⟩ := Option.map_eq_some_iff.1 h
    cases n with
    | waiting a => cases hv; cases refreshing
    | done result => cases hv; cases result <;> cases refreshing
  · obtain ⟨⟨d, n⟩, -, hv⟩ := Option.map_eq_some_iff.1 h
    cases n with
    | waiting a => cases hv; cases refreshing
    | done result =>
      cases hv
      unfold started at refreshing
      rw [isRefreshing_scheduled] at refreshing
      cases refreshing
  · split_ifs at h
    cases h
    cases refreshing
  · cases h

end Warden

namespace World

theorem step_isRefreshing {w v : World} {m : Move} (h : w.step m = some v)
    (refreshing : v.warden.isRefreshing = true) :
    w.warden.isRefreshing = true ∨ w.scene.status = .running := by
  have same : v.warden.refresher = w.warden.refresher → w.warden.isRefreshing = true := by
    intro same
    unfold Warden.isRefreshing at refreshing ⊢
    rwa [← same]
  cases m with
  | run | dropWatch =>
    simp only [step] at h
    split_ifs at h
    cases h
    exact .inl refreshing
  | watch i | exit _ _ | print _ _ _ | collect _ _ =>
    obtain ⟨x, -, rfl⟩ := Option.map_eq_some_iff.1 h
    exact .inl refreshing
  | cancelWatch | hangUp _ _ | pass _ | cancelRefresher | arrive p =>
    cases h
    exact .inl refreshing
  | beginRefresher =>
    simp only [step] at h
    split_ifs at h
    cases h
    unfold Warden.beginRefresher at refreshing
    rw [Warden.isRefreshing_scheduled] at refreshing
    cases refreshing
  | dropRefresher =>
    simp only [step] at h
    split_ifs at h
    cases h
    cases refreshing
  | refresher i =>
    obtain ⟨o, ho, rfl⟩ := Option.map_eq_some_iff.1 h
    exact Warden.isRefreshing_resume ho refreshing
  | caller id => exact .inl (same (caller_refresher h))
  | leave id => exact .inl (same (leave_refresher h))

/-- Until its first start request the status is stopped, and the files are not refreshed. -/
structure Sound (w : World) : Prop where
  stopped : w.stance.stand.isEarly = true → w.scene.status = .stopped
  late : w.warden.isRefreshing = true → w.stance.stand.isEarly = false

end World

theorem Shift.late (x y : Stance) (h : Shift x y) (hx : x.stand.isEarly = false) :
    y.stand.isEarly = false := by
  cases h with
  | stride h => cases h <;> first | rfl | exact hx
  | nudge h => cases h <;> exact hx
  | drop _ _ => rfl

/-- Until the first start request the status stays stopped. -/
theorem Shift.stopped (x y : Stance) (h : Shift x y)
    (hx : x.stand.isEarly = true → x.scene.status = .stopped) (early : y.stand.isEarly = true) :
    y.scene.status = .stopped := by
  cases h with
  | stride h =>
    cases h with
    | begin | settle | retreat | strand | stopIdle => exact hx early
    | retreated failure => exact (Scene.status_systemPointed _ failure).trans (hx early)
    | _ => cases early
  | nudge h =>
    cases h with
    | told told => exact told.status.trans (hx early)
    | refreshFailed late =>
      rw [late] at early
      cases early
    | forsake => exact (Scene.status_forsake _ _).trans (hx early)
    | _ => exact hx early
  | drop _ _ => cases early

namespace World

theorem Sound.turn {w v : World} {m : Move} (sound : w.Sound) (h : w.step m = some v) : Turn w m v :=
  step_turn h sound.late

theorem Sound.passage {w v : World} {m : Move} (sound : w.Sound) (h : w.step m = some v) :
    Passage w.stance v.stance :=
  (sound.turn h).passage

theorem Sound.step {w v : World} {m : Move} (sound : w.Sound) (h : w.step m = some v) : v.Sound := by
  have passage := sound.passage h
  refine ⟨passage.keep Shift.stopped sound.stopped, fun refreshing => ?_⟩
  have late : w.stance.stand.isEarly = false := by
    obtain refreshing | running := step_isRefreshing h refreshing
    · exact sound.late refreshing
    · refine eq_false_of_ne_true fun early => ?_
      have stopped := sound.stopped early
      rw [running] at stopped
      cases stopped
  exact passage.keep Shift.late late

theorem initial_sound (policy : Policy) (settings : Settings) (draws : Nat → Nat) :
    (World.initial policy settings draws).Sound :=
  ⟨fun _ => rfl, nofun⟩

/-- What every shift keeps, every run keeps. -/
theorem Sound.run {J : Stance → Prop} (shift : ∀ x y, Shift x y → J x → J y) {w v : World}
    {ms : List Move} (sound : w.Sound) (h : w.run ms = some v) (hw : J w.stance) :
    v.Sound ∧ J v.stance := by
  induction ms generalizing w with
  | nil =>
    cases h
    exact ⟨sound, hw⟩
  | cons m ms ih =>
    obtain ⟨u, hu, hv⟩ := Option.bind_eq_some_iff.1 h
    exact ih (sound.step hu) hv ((sound.passage hu).keep shift hw)

variable {policy : Policy} {settings : Settings} {draws : Nat → Nat} {ms : List Move} {w : World}

theorem run_sound (h : (World.initial policy settings draws).run ms = some w) : w.Sound :=
  ((initial_sound policy settings draws).run (J := fun _ => True) (fun _ _ _ hx => hx) h trivial).1

theorem run_keep {J : Stance → Prop} (shift : ∀ x y, Shift x y → J x → J y)
    (h : (World.initial policy settings draws).run ms = some w)
    (initial : J (World.initial policy settings draws).stance) : J w.stance :=
  ((initial_sound policy settings draws).run shift h initial).2

end World

/-! ## Clients that go away -/

namespace World

variable {w v : World} {m : Move} {c : Client}

/-- A client goes away: it gives up its place at the desk, if it has one. -/
structure Departs (w : World) (c : Client) (v : World) : Prop where
  out : Ask.Out (v.ask? c)
  others : ∀ c', c' ≠ c → v.ask? c' = w.ask? c'
  desk : (∃ desired a, w.ask? c = some (desired, a) ∧ v.warden.desk = w.warden.desk.abandon c a) ∨
    v.warden.desk = w.warden.desk

theorem leave_departs {id : Nat} (h : w.leave? id = some v) : w.Departs (.caller id) v := by
  have goes : ∀ old desired a, w.callers[id]? = some old → old.ask? = some (desired, a) →
      w.Departs (.caller id) ((w.abandon id a).setCaller id .gone) := by
    intro old desired a found asked
    have gone : ((w.abandon id a).setCaller id .gone).ask? (.caller id) = none :=
      ask?_setCaller (w := w.abandon id a) found _
    have asked : w.ask? (.caller id) = some (desired, a) := by
      show w.callers[id]?.bind Caller.ask? = _
      rw [found]
      exact asked
    exact ⟨gone ▸ Ask.out_none, fun c ne => ask?_setCaller_of_ne (w.abandon id a) ne _,
      .inl ⟨desired, a, asked, rfl⟩⟩
  unfold leave? at h
  split at h <;> cases h
  next found => exact goes _ _ _ found rfl
  next found => exact goes _ _ _ found rfl
  next found => exact goes _ _ _ found rfl
  next found =>
    have gone : (w.setCaller id .gone).ask? (.caller id) = none := ask?_setCaller found _
    exact ⟨gone ▸ Ask.out_none, fun c ne => ask?_setCaller_of_ne w ne _, .inr rfl⟩

theorem abandon_departs {r : Refresher} (out : Ask.Out r.ask?) :
    w.Departs .refresher { w with warden := w.warden.abandon.wait r } := by
  refine ⟨out, fun c ne => ?_, ?_⟩
  · cases c with
    | caller id => rfl
    | refresher => exact absurd rfl ne
  · show (∃ desired a, w.warden.refresher.ask? = some (desired, a) ∧
      w.warden.abandon.desk = w.warden.desk.abandon .refresher a) ∨ w.warden.abandon.desk = _
    unfold Warden.abandon
    cases w.warden.refresher with
    | stopping s a => exact .inl ⟨.stopped, a, rfl, rfl⟩
    | starting s a => exact .inl ⟨.running, a, rfl, rfl⟩
    | _ => exact .inr rfl

/-- A move that gives up a call or a restart is that of one client that goes away. -/
theorem step_departs (h : w.step m = some v) (drops : w.drops m = true) : ∃ c, w.Departs c v := by
  cases m with
  | leave id => exact ⟨_, leave_departs h⟩
  | dropRefresher =>
    simp only [step] at h
    split_ifs at h
    cases h
    exact ⟨_, abandon_departs Ask.out_none⟩
  | refresher i =>
    cases i with
    | cancelled =>
      obtain ⟨o, ho, rfl⟩ := Option.map_eq_some_iff.1 h
      simp only [Warden.resume] at ho
      split_ifs at ho
      cases ho
      exact ⟨_, abandon_departs Ask.out_none⟩
    | _ => cases drops
  | _ => cases drops

end World

end DnsWarden
