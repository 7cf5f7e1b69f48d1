import DnsWarden.Proofs.Acknowledgement
import DnsWarden.Proofs.Answers
import DnsWarden.Proofs.Board
import DnsWarden.Proofs.Calls
import DnsWarden.Proofs.Trails

/-!
# Restarts with new settings

A change of settings that restarts the resolver returns once its start request is answered, maybe
many attempts later, while others call as well.  The request was written after the settings were
stored, so that the attempt with which it is answered began after that, and unless others have
stored settings meanwhile, these are all the settings that the attempt has found:
`World.restart_uses_new_settings`.
-/

namespace DnsWarden

/-! ## The settings that are stored -/

namespace World

variable {w x y u : World} {ms first rest : List Move}

/-- Settings stored later come before those stored so far, and the last of them are those that are stored
now; without any the same are stored. -/
theorem Sound.run_stored (sound : w.Sound) (h : w.run ms = some u) :
    ∃ new, u.scene.marks.stored = new ++ w.scene.marks.stored ∧
      u.scene.settings = new.headD w.scene.settings := by
  refine (sound.run (J := fun x => ∃ new, x.scene.marks.stored = new ++ w.scene.marks.stored ∧
    x.scene.settings = new.headD w.scene.settings) (fun x y shift hx => ?_) h ⟨[], rfl, rfl⟩).2
  obtain ⟨new, stored, last⟩ := hx
  obtain ⟨settings, stored'⟩ | stored' := shift.stored
  · exact ⟨new, stored'.trans stored, settings.trans last⟩
  · exact ⟨y.scene.settings :: new, by rw [stored', stored]; rfl, rfl⟩

/-- Where no settings are stored in the course of a run, the same are stored all along. -/
theorem Sound.settings_of_stored (sound : w.Sound) (hy : w.run first = some y)
    (hu : y.run rest = some u) (unreplaced : u.scene.marks.stored = w.scene.marks.stored) :
    y.scene.settings = w.scene.settings := by
  have sound' : y.Sound := sound.of_run hy
  obtain ⟨new, stored, same⟩ := sound.run_stored hy
  obtain ⟨later, stored', -⟩ := sound'.run_stored hu
  rw [stored', stored, ← List.append_assoc, List.append_left_eq_self] at unreplaced
  obtain ⟨-, rfl⟩ := List.append_eq_nil_iff.1 unreplaced
  exact same

end World

/-! ## The requests of one client -/

namespace Book.Balances

variable {b : Book} {l : Ledger}

/-- The answer to a request that was sent, and to which the reply was given, is that reply. -/
theorem answered (h : b.Balances l) {r : Request} {s : Status} (sent : r ∈ b.sent)
    (given : b.replies[r.ticket]? = some (.given s)) : (r.ticket, s) ∈ b.answers := by
  rw [h.sent_eq] at sent
  simp only [List.mem_append, List.mem_map] at sent
  obtain lost | waiting | dropped | held | ⟨p, settled, rfl⟩ := sent
  · cases given.symm.trans (h.lost r (List.mem_append_left _ lost))
  · cases given.symm.trans (h.awaited r (List.mem_append_left _ waiting))
  · cases given.symm.trans (h.lost r (List.mem_append_right _ dropped))
  · cases given.symm.trans (h.awaited r (List.mem_append_right _ held))
  · cases given.symm.trans (h.given p settled)
    rw [h.answers]
    exact List.mem_map_of_mem settled

/-- What was answered was sent, and a start request unless the status is stopped. -/
theorem sent_of_answered (h : b.Balances l) {t : Ticket} {s : Status} (answered : (t, s) ∈ b.answers)
    (started : s ≠ .stopped) : .start t ∈ b.sent := by
  rw [h.answers] at answered
  obtain ⟨⟨r, s'⟩, settled, same⟩ := List.mem_map.1 answered
  cases same
  have sent : r ∈ b.sent := by
    rw [h.sent_eq]
    simp only [List.mem_append]
    exact .inr (.inr (.inr (.inr (List.mem_map_of_mem settled))))
  cases r with
  | start t => exact sent
  | stop t => exact absurd (h.stops _ settled t rfl) started

end Book.Balances

/-- The requests `old` were sent, and the client waits for the reply to none of them. -/
structure Hall.Renews (old : List Request) (c : Client) (h : Hall) : Prop where
  accounts : h.Accounts
  sent : ∀ r ∈ old, r ∈ h.stance.book.sent
  new : ∀ desired t, h.asks c = some (desired, .awaiting t) → t ∉ old.map Request.ticket

/-- No request is forgotten. -/
theorem Doing.sent {h h' : Hall} (doing : Doing h h') (fits : h.stance.Fits) :
    ∀ r ∈ h.stance.book.sent, r ∈ h'.stance.book.sent := by
  intro r sent
  cases doing with
  | stride goes =>
    rw [goes.sent fits]
    exact sent
  | @drop _ w _ _ =>
    rw [w.book_drop]
    exact sent
  | murmur heard =>
    rw [heard.book]
    exact sent
  | proceed | compose => exact sent
  | post => exact List.mem_cons_of_mem _ sent
  | @withdraw _ _ _ s _ _ _ r' =>
    show r ∈ (s.forsake r'.ticket).deals.filterMap Deal.sent?
    rw [Scene.deals_forsake]
    exact sent

theorem Hall.Renews.doing {old : List Request} {c : Client} {h h' : Hall} (doing : Doing h h')
    (hh : h.Renews old c) : h'.Renews old c := by
  refine ⟨hh.accounts.doing doing, fun r here => doing.sent hh.accounts.fits r (hh.sent r here),
    fun desired t asked => ?_⟩
  cases doing with
  | stride | drop | murmur => exact hh.new desired t asked
  | proceed fewer => exact hh.new desired t (fewer c desired _ rfl asked)
  | @compose _ _ _ _ _ c' _ _ _ leads others =>
    by_cases same : c = c'
    · subst same
      cases leads.symm.trans asked
    · exact hh.new desired t ((others c same).symm.trans asked)
  | @post _ _ _ _ c' _ r asked' _ leads others =>
    by_cases same : c = c'
    · subst same
      cases leads.symm.trans asked
      -- A request that was not posted is not among those sent before.
      intro here
      obtain ⟨r', old, ticket⟩ := List.mem_map.1 here
      exact (hh.accounts.known.sending c _ r asked').1 (ticket ▸ List.mem_map_of_mem (hh.sent r' old))
    · exact hh.new desired t ((others c same).symm.trans asked)
  | @withdraw _ _ _ _ _ c' _ _ _ out others =>
    by_cases same : c = c'
    · subst same
      cases out _ _ asked
    · exact hh.new desired t ((others c same).symm.trans asked)

/-! ## The callers -/

/-- The settings that a call has stored, until it is over. -/
def Caller.kept? : Caller → Option Settings
  | .stored new _ | .stopping new _ | .starting new _ => some new
  | _ => none

namespace World

variable {w v x : World} {m : Move} {id : Nat}

/-- The settings that a caller has stored, until its call is over. -/
def kept? (w : World) (id : Nat) : Option Settings := w.callers[id]?.bind Caller.kept?

/-- A caller's step changes no other caller. -/
theorem caller_callers (h : w.caller? id = some v) : ∃ c, v.callers = w.callers.set id c := by
  have asks : ∀ {desired a waiting done}, w.ask id desired a waiting done = some v →
      ∃ c, v.callers = w.callers.set id c := fun h => by
    obtain ⟨⟨d, n⟩, -, hv⟩ := Option.map_eq_some_iff.1 h
    cases n <;> cases hv <;> exact ⟨_, rfl⟩
  unfold caller? at h
  split at h
  · exact asks h
  · cases h
    exact ⟨_, rfl⟩
  · cases h
    unfold compare
    split_ifs <;> exact ⟨_, rfl⟩
  · exact asks h
  · exact asks h
  · cases h

/-- A caller comes, takes its own steps and goes away; nobody else changes it. -/
theorem step_callers (h : w.step m = some v) (id : Nat) :
    v.callers[id]? = w.callers[id]? ∨ m = .caller id ∨ v.callers[id]? = some .gone ∨
      ∃ p, w.callers[id]? = none ∧ v.callers[id]? = some (Errand.stage p) := by
  cases m with
  | run | dropWatch | beginRefresher | dropRefresher =>
    simp only [step] at h
    split_ifs at h
    cases h
    exact .inl rfl
  | watch _ | refresher _ | exit _ _ | print _ _ _ | collect _ _ =>
    obtain ⟨x, -, rfl⟩ := Option.map_eq_some_iff.1 h
    exact .inl rfl
  | cancelWatch | cancelRefresher | hangUp _ _ | pass _ =>
    cases h
    exact .inl rfl
  | arrive p =>
    cases h
    show (w.callers ++ [Errand.stage p])[id]? = _ ∨ _ ∨ (w.callers ++ [Errand.stage p])[id]? = _ ∨
      ∃ p', _ ∧ (w.callers ++ [Errand.stage p])[id]? = _
    rcases Nat.lt_trichotomy id w.callers.length with old | rfl | more
    · exact .inl (List.getElem?_append_left old)
    · exact .inr (.inr (.inr ⟨p, List.getElem?_eq_none (Nat.le_refl _), by simp⟩))
    · have out : (w.callers ++ [Errand.stage p]).length ≤ id := by
        rw [List.length_append]
        exact more
      exact .inl ((List.getElem?_eq_none out).trans (List.getElem?_eq_none (Nat.le_of_lt more)).symm)
  | caller i =>
    obtain ⟨c, set⟩ := caller_callers h
    by_cases same : i = id
    · exact .inr (.inl (by rw [same]))
    · exact .inl (by rw [set, List.getElem?_set_ne same])
  | leave i =>
    have gone : v.callers = w.callers.set i .gone ∧ i < w.callers.length := by
      have h : w.leave? i = some v := h
      unfold leave? at h
      split at h
      all_goals cases h
      all_goals exact ⟨rfl, (List.getElem?_eq_some_iff.1 ‹_›).1⟩
    rw [gone.1]
    by_cases same : i = id
    · exact .inr (.inr (.inl (same ▸ List.getElem?_set_self gone.2)))
    · exact .inl (List.getElem?_set_ne same)

/-- A caller's step at the desk. -/
theorem ask_eq {old : Caller} {desired : Status} {a : Ask} {waiting : Ask → Caller}
    {done : Except CallFault StatusOutcome → Caller} (found : w.callers[id]? = some old)
    (h : w.ask id desired a waiting done = some v) :
    ∃ d n, w.warden.desk.step (.caller id) desired a = some (d, n) ∧
      v.warden = { w.warden with desk := d } ∧ v.callers[id]? = some (n.stage waiting done) := by
  have lt : id < w.callers.length := (List.getElem?_eq_some_iff.1 found).1
  obtain ⟨⟨d, n⟩, step, hv⟩ := Option.map_eq_some_iff.1 h
  cases n with
  | waiting a' =>
    cases hv
    exact ⟨d, _, step, rfl, List.getElem?_set_self lt⟩
  | done result =>
    cases hv
    exact ⟨d, _, step, rfl, List.getElem?_set_self lt⟩

/-- A caller at the desk waits there for its next step, or has its result. -/
theorem ask_next {old : Caller} {desired : Status} {a : Ask} {waiting : Ask → Caller}
    {done : Except CallFault StatusOutcome → Caller} (found : w.callers[id]? = some old)
    (h : w.ask id desired a waiting done = some v) :
    (∃ a', v.callers[id]? = some (waiting a')) ∨ ∃ d result,
      w.warden.desk.step (.caller id) desired a = some (d, .done result) ∧
        v.callers[id]? = some (done result) := by
  obtain ⟨d, n, step, -, next⟩ := ask_eq found h
  cases n with
  | waiting a' => exact .inl ⟨a', next⟩
  | done result => exact .inr ⟨d, result, step, next⟩

/-- Settings come to be kept by the call that stores them. -/
theorem step_kept {s : Settings} (h : w.step m = some v) (new : w.kept? id ≠ some s)
    (kept : v.kept? id = some s) : m = .caller id ∧ w.callers[id]? = some (.storing s) := by
  have here : ∀ {c}, v.callers[id]? = some c → c.kept? = some s := fun {c} found => by
    unfold kept? at kept
    rwa [found] at kept
  have not : ∀ {c}, w.callers[id]? = some c → c.kept? ≠ some s := fun {c} found same => by
    unfold kept? at new
    rw [found] at new
    exact new same
  obtain same | rfl | gone | ⟨p, -, arrived⟩ := step_callers h id
  · unfold kept? at new kept
    exact absurd (same ▸ kept) new
  · have h : w.caller? id = some v := h
    unfold caller? at h
    split at h
    next found =>
      obtain ⟨a', next⟩ | ⟨d, result, -, next⟩ := ask_next found h <;> cases here next
    next found =>
      cases h
      cases here (getElem?_setCaller found rfl _)
      exact ⟨rfl, found⟩
    next found =>
      cases h
      unfold compare at here
      split_ifs at here
      all_goals cases here (getElem?_setCaller found rfl _)
      all_goals exact (not found rfl).elim
    next found =>
      obtain ⟨a', next⟩ | ⟨d, result, -, next⟩ := ask_next found h
      · have stays := here next
        exact (not found stays).elim
      · have ended := here next
        rcases result with f | o
        · cases ended
        · unfold afterStop at ended
          dsimp only at ended
          split_ifs at ended
          · exact (not found ended).elim
          · cases ended
    next found =>
      obtain ⟨a', next⟩ | ⟨d, result, -, next⟩ := ask_next found h
      · have stays := here next
        exact (not found stays).elim
      · have ended := here next
        cases result <;> cases ended
    next => cases h
  · cases here gone
  · have arrives := here arrived
    cases p <;> cases arrives

/-- A call comes to be told the status at which the resolver has arrived where the reply was given
for which it waits. -/
theorem step_restarted {s : Status} (h : w.step m = some v)
    (new : w.callers[id]? ≠ some (.done (.settings (.ok (.restarted (.changed s))))))
    (told : v.callers[id]? = some (.done (.settings (.ok (.restarted (.changed s)))))) :
    m = .caller id ∧ ∃ kept t, w.callers[id]? = some (.starting kept (.awaiting t)) ∧
      w.scene.replies[t]? = some (.given s) := by
  obtain same | rfl | gone | ⟨p, -, arrived⟩ := step_callers h id
  · exact absurd (same ▸ told) new
  · have h : w.caller? id = some v := h
    unfold caller? at h
    split at h
    next found =>
      obtain ⟨result, -, same⟩ := ask_ends found h told nofun
      cases same
    next found =>
      cases h
      cases (getElem?_setCaller found rfl _).symm.trans told
    next found =>
      cases h
      unfold compare at told
      split_ifs at told
      all_goals cases (getElem?_setCaller found rfl _).symm.trans told
    next found =>
      obtain ⟨result, -, same⟩ := ask_ends found h told nofun
      rcases result with f | o
      · cases same
      · unfold afterStop at same
        dsimp only at same
        split_ifs at same
        cases same
    next kept a found =>
      obtain ⟨result, step, same⟩ := ask_ends found h told nofun
      rcases result with f | o
      · cases same
      · cases same
        obtain ⟨-, same, -⟩ | ⟨t, x, rfl, same, given⟩ := Desk.step_ok step
        · cases same
        · cases same
          exact ⟨rfl, kept, t, found, given⟩
    next => cases h
  · cases gone.symm.trans told
  · cases p <;> cases arrived.symm.trans told

theorem step_storing {s : Settings} (storing : w.callers[id]? = some (.storing s))
    (h : w.step (.caller id) = some v) :
    v = (w.update (·.replace s)).setCaller id (.stored s w.scene.settings) := by
  have h : w.caller? id = some v := h
  unfold caller? at h
  rw [storing] at h
  exact (Option.some.inj h).symm

end World

/-! ## What an attempt does with the same settings all along -/

/-- What an attempt does up to its probe while these settings are stored, if these blocklists are
built for it, and the system is pointed at the resolver with such a failure or none. -/
def Settings.deeds (s : Settings) (resolver : IpAddress) (lists : BuiltLists)
    (failure : Option NameserverFault) : List Deed :=
  [⟨.answer (.filesSetUp none), [.buildLists s.blocklistChoice], s⟩,
    ⟨.answer (.listsBuilt lists), [.writeConfig { s.resolver with blocklist := lists.blocklist }], s⟩,
    ⟨.answer (.configWritten none), [.start s.resolver.detail], s⟩,
    ⟨.answer (.started none),
      [.pointInternally resolver .encrypted, .pointSystem resolver s.keepNameserver], s⟩,
    ⟨.answer (.systemPointed failure), [.probe], s⟩]

namespace World

variable {w u z : World} {began course : List Move} {k : Move}

theorem BeganWith.run (h : w.BeganWith began k z course u) : w.run (began ++ [k]) = some z := by
  obtain ⟨y, hy, hz, -⟩ := h.began
  exact run_concat hy hz

/-- Unless settings were stored meanwhile, an attempt that has come to its probe has done everything
with the settings that were stored before it began. -/
theorem UnderWay.deeds_eq {pid deadline : Nat}
    (h : w.UnderWay began k z course u (.probing pid deadline)) (sound : w.Sound)
    (unreplaced : u.scene.marks.stored = w.scene.marks.stored) :
    ∃ lists failure,
      z.deeds course = w.scene.settings.deeds u.scene.policy.resolverAddress lists failure := by
  have found : z.scene.settings = w.scene.settings :=
    sound.settings_of_stored h.run h.follows unreplaced
  have all : ∀ d ∈ z.deeds course, d.settings = w.scene.settings := fun d done => by
    obtain ⟨first, rest, y, rfl, hy, same⟩ := settings_of_mem_deeds h.follows done
    have hy' : w.run (began ++ [k] ++ first) = some y := by rw [run_append, h.run]; exact hy
    have hu : y.run rest = some u := by
      have follows := h.follows
      rw [run_append, hy] at follows
      exact follows
    exact same.symm.trans (sound.settings_of_stored hy' hu unreplaced)
  obtain ⟨lists, failure, s₁, s₂, s₃, s₄, s₅, same⟩ := h.trail.of_probing
  rw [same] at all
  simp only [List.forall_mem_cons] at all
  obtain ⟨rfl, rfl, rfl, rfl, rfl, -⟩ := all
  exact ⟨lists, failure, by rw [same, found, h.policy]; rfl⟩

/-! ## Runs -/

variable {v y x : World} {ms : List Move} {id : Nat} {t : Ticket} {s : Status}

/-- A start request that was not sent is not held. -/
theorem not_pending (accounts : w.hall.Accounts) (new : .start t ∉ w.stance.book.sent) :
    w.scene.pending ≠ some t := by
  intro pending
  obtain ⟨l, balances, -⟩ := accounts.balance
  have held : .start t ∈ w.hall.stance.book.held := by
    show _ ∈ w.scene.pending.toList.map Request.start ++ _
    rw [pending]
    exact List.mem_append_left _ (List.mem_singleton_self _)
  have sent : .start t ∈ w.hall.stance.book.sent := by
    rw [balances.sent_eq]
    simp only [List.mem_append]
    exact .inr (.inr (.inr (.inl held)))
  exact new sent

/-- The reply that a client waits for, which had no request at first, was given in the course of the
run, unless it says that the resolver is stopped: there the start request was answered. -/
theorem run_answered {desired : Status} (sound : w.Sound) (accounts : w.hall.Accounts)
    (out : w.ask? (.caller id) = none) (h : w.run ms = some y)
    (waits : y.ask? (.caller id) = some (desired, .awaiting t))
    (given : y.scene.replies[t]? = some (.given s)) (started : s ≠ .stopped) :
    .start t ∉ w.stance.book.sent ∧
    ∃ between m later u v, ms = between ++ m :: later ∧ w.run between = some u ∧ u.step m = some v ∧
      v.run later = some y ∧ (t, s) ∉ u.scene.journal.answers ∧ (t, s) ∈ v.scene.journal.answers := by
  have renews : y.hall.Renews w.stance.book.sent (.caller id) :=
    sound.uphold (fun _ _ => Hall.Renews.doing) h ⟨accounts, fun _ old => old,
      fun desired t asked => by cases out.symm.trans asked⟩
  have new : .start t ∉ w.stance.book.sent := fun old =>
    renews.new desired t waits (List.mem_map_of_mem (f := Request.ticket) old)
  refine ⟨new, ?_⟩
  have answered : (t, s) ∈ y.scene.journal.answers := by
    obtain ⟨r, sent, rfl⟩ :=
      List.mem_map.1 (renews.accounts.known.awaiting (.caller id) desired t waits)
    obtain ⟨l, balances, -⟩ := renews.accounts.balance
    exact balances.answered sent given
  have unanswered : (t, s) ∉ w.scene.journal.answers := fun early => by
    obtain ⟨l, balances, -⟩ := accounts.balance
    exact new (balances.sent_of_answered early started)
  obtain ⟨between, m, later, u, v, rfl, hu, hv, hy, before, after⟩ :=
    run_first (P := fun w => (t, s) ∈ w.scene.journal.answers) h unanswered answered
  exact ⟨between, m, later, u, v, rfl, hu, hv, hy, before, after⟩

/-- Where a start request is answered that the resolver is up, a probe is passed. -/
theorem step_passes {m : Move} (sound : u.Sound) (accounts : u.hall.Accounts)
    (accounts' : v.hall.Accounts) (hv : u.step m = some v)
    (new : (t, .running) ∉ u.scene.journal.answers)
    (answered : (t, .running) ∈ v.scene.journal.answers) :
    m = .watch (.answer (.probed none)) ∧ u.scene.pending = some t ∧
      ∃ pid deadline, u.watch.phase = .attempting (.probing pid deadline) := by
  have unstopped : .stop t ∉ v.scene.journal.received := fun stop => by
    obtain ⟨l, balances, -⟩ := accounts'.balance
    have sent : .start t ∈ v.hall.stance.book.sent := balances.sent_of_answered answered nofun
    have sent' : .stop t ∈ v.hall.stance.book.sent := by
      rw [balances.sent]
      exact List.mem_append_right _ (List.mem_append_right _ stop)
    cases balances.ticket_inj sent sent' rfl
  obtain ⟨-, reason, own⟩ :=
    step_answers (s := .running) hv sound accounts nofun unstopped new answered
  cases reason with
  | passed was leads held =>
    have phase := Stand.waiting.inj was
    exact ⟨probed_of_serves phase (Stand.waiting.inj leads) own, held, _, _, phase⟩

variable {policy : Policy} {settings : Settings} {draws : Nat → Nat}

/-- A call that is told the status at which the resolver has arrived with new settings has stored
these settings, and has waited for the reply to its start request. -/
theorem run_restarted (h : (World.initial policy settings draws).run ms = some w)
    (told : w.callers[id]? = some (.done (.settings (.ok (.restarted (.changed s)))))) :
    ∃ new t before since rest x stored y, ms = before ++ .caller id :: (since ++ .caller id :: rest) ∧
      (World.initial policy settings draws).run before = some x ∧
      x.callers[id]? = some (.storing new) ∧ x.step (.caller id) = some stored ∧
      stored.run since = some y ∧ y.callers[id]? = some (.starting new (.awaiting t)) ∧
      y.scene.replies[t]? = some (.given s) := by
  obtain ⟨first, m, rest, y, v, rfl, hy, hv, -, untold, told⟩ :=
    run_first (P := fun w =>
      w.callers[id]? = some (.done (.settings (.ok (.restarted (.changed s)))))) h nofun told
  obtain ⟨rfl, new, t, waits, given⟩ := step_restarted hv untold told
  have keeps : y.kept? id = some new := by
    unfold kept?
    rw [waits]
    rfl
  obtain ⟨before, m, since, x, stored, rfl, hx, hs, hy', unkept, kept⟩ :=
    run_first (P := fun w => w.kept? id = some new) hy nofun keeps
  obtain ⟨rfl, storing⟩ := step_kept hs unkept kept
  exact ⟨new, t, before, since, rest, x, stored, y, by simp, hx, storing, hs, hy', waits, given⟩

/--
A call that changes the settings and is told that the resolver was restarted with them and is up:
its start request was answered where a probe was passed, and the attempt that had come to that probe
began after the settings were stored.  Unless settings were stored again before the answer, that
attempt has had the blocklists built that these settings choose, has written a configuration with
what was built in place of their own list, has started the process with as much detail as they say,
and has pointed the system at the resolver with the nameserver kept if they say so.
-/
theorem restart_uses_new_settings (h : (World.initial policy settings draws).run ms = some w)
    (told : w.callers[id]? = some (.done (.settings (.ok (.restarted (.changed .running)))))) :
    ∃ new t before between later rest x stored u v y,
      ms = before ++ .caller id ::
        (between ++ .watch (.answer (.probed none)) :: later ++ .caller id :: rest) ∧
      (World.initial policy settings draws).run before = some x ∧
      x.callers[id]? = some (.storing new) ∧ x.step (.caller id) = some stored ∧
      stored.run between = some u ∧ u.scene.pending = some t ∧
      (∃ pid deadline, u.watch.phase = .attempting (.probing pid deadline)) ∧
      u.step (.watch (.answer (.probed none))) = some v ∧
      (t, .running) ∉ u.scene.journal.answers ∧ (t, .running) ∈ v.scene.journal.answers ∧
      v.run later = some y ∧ y.callers[id]? = some (.starting new (.awaiting t)) ∧
      ∃ began k z course, between = began ++ k :: course ∧ stored.BeganWith began k z course u ∧
        (u.scene.marks.stored = stored.scene.marks.stored → ∃ lists failure,
          z.deeds course = new.deeds u.scene.policy.resolverAddress lists failure) := by
  obtain ⟨new, t, before, since, rest, x, stored, y, rfl, hx, storing, hs, hy, waits, given⟩ :=
    run_restarted h told
  have reached : ∀ {ns z}, stored.run ns = some z →
      (World.initial policy settings draws).run (before ++ [.caller id] ++ ns) = some z := by
    intro ns z hz
    rw [run_append, run_concat hx hs]
    exact hz
  have made := run_concat hx hs
  have sound := run_sound made
  have stores := step_storing storing hs
  have out : stored.ask? (.caller id) = none := by
    rw [stores]
    exact ask?_setCaller (w := x.update _) storing _
  have asks : y.ask? (.caller id) = some (.running, .awaiting t) := by
    show y.callers[id]?.bind Caller.ask? = _
    rw [waits]
    rfl
  obtain ⟨unsent, between, m, later, u, v, rfl, hu, hv, hy', unanswered, answered⟩ :=
    run_answered sound (run_accounts made) out hy asks given nofun
  obtain ⟨rfl, held, pid, deadline, probing⟩ := step_passes (run_sound (reached hu))
    (run_accounts (reached hu)) (run_accounts (run_concat (reached hu) hv)) hv unanswered answered
  obtain ⟨began, k, z, course, rfl, under⟩ | same := run_underWay sound hu probing rfl
  · refine ⟨new, t, before, began ++ k :: course, later, rest, x, stored, u, v, y, rfl, hx, storing,
      hs, hu, held, ⟨pid, deadline, probing⟩, hv, unanswered, answered, hy', waits, began, k, z, course, rfl,
      under.toBeganWith, fun unreplaced => ?_⟩
    have same : stored.scene.settings = new := by
      rw [stores]
      rfl
    exact same ▸ under.deeds_eq sound unreplaced
  · exact absurd (same.symm.trans held) (not_pending (run_accounts made) unsent)

/-- Settings that want a resolver to be started with more detail, and nameservers to be kept. -/
def keepingSettings : Settings :=
  { enabled := true, plaintextAddress := some .loopback, keepNameserver := true,
    resolver := { detail := 3 } }

/-- The moves of a call that stores these settings in a first session, up to its end. -/
def keepingRestart : List Move :=
  firstSession ++ [.caller 0, .arrive (.setSettings keepingSettings), .caller 1, .caller 1, .caller 1,
    .caller 1, .caller 1, .caller 1, .watch .request, .watch (.answer (.systemPointed none)),
    .exit 0 .clean, .watch .ended, .caller 1, .caller 1, .caller 1, .caller 1, .caller 1,
    .watch .request, .hangUp 0 .out, .hangUp 0 .err, .collect 0 (.read .out),
    .collect 0 (.read .err), .watch .ended] ++ (firstSession.drop 8 ++ [.caller 1])

theorem restart_uses_keeping_settings :
    ∃ (w z u : World) (course : List Move) (lists : BuiltLists) (failure : Option NameserverFault),
      wanted.run keepingRestart = some w ∧
      w.callers[1]? = some (.done (.settings (.ok (.restarted (.changed .running))))) ∧
      z.run course = some u ∧
      z.deeds course = keepingSettings.deeds u.scene.policy.resolverAddress lists failure := by
  have ran : ((wanted.run keepingRestart).any fun w => decide
      (w.callers[1]? = some (.done (.settings (.ok (.restarted (.changed .running))))) ∧
        w.scene.marks.stored = [keepingSettings])) = true := by
    decide
  obtain ⟨w, hw, ran⟩ := (Option.any_eq_true _ _).1 ran
  obtain ⟨told, once⟩ := of_decide_eq_true ran
  obtain ⟨new, t, before, between, later, rest, x, stored, u, v, y, moves, hx, storing, hs, hu, -,
    -, hv, -, -, hy, -, began, k, z, course, -, begins, uses⟩ := restart_uses_new_settings hw told
  have made : wanted.run (before ++ [.caller 1]) = some stored := run_concat hx hs
  have sound : stored.Sound := run_sound made
  -- Settings were stored once, so that they are those of the call.
  have stores : stored.scene.marks.stored = new :: x.scene.marks.stored := by
    rw [step_storing storing hs]
    rfl
  have rest' : u.run (.watch (.answer (.probed none)) :: later ++ .caller 1 :: rest) = some w := by
    have all := hw
    rw [moves, List.append_cons, run_append, made, List.append_assoc] at all
    simpa [run_append, hu] using all
  obtain ⟨since, stored₁, -⟩ := sound.run_stored hu
  have sound' : u.Sound := sound.of_run hu
  obtain ⟨since', stored₂, -⟩ := sound'.run_stored rest'
  rw [stored₁, stores, once] at stored₂
  have lengths := congrArg List.length stored₂
  simp only [List.length_append, List.length_cons, List.length_nil] at lengths
  obtain rfl : since = [] := List.eq_nil_of_length_eq_zero (by omega)
  obtain rfl : since' = [] := List.eq_nil_of_length_eq_zero (by omega)
  obtain ⟨rfl, -⟩ := List.cons.inj stored₂
  obtain ⟨lists, failure, deeds⟩ := uses stored₁
  exact ⟨w, z, u, course, lists, failure, hw, told, begins.follows, deeds⟩

end World

end DnsWarden
