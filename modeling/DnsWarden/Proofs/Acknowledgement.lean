import DnsWarden.Proofs.Outcomes
import DnsWarden.Proofs.Stopping

/-!
# Stops that were acknowledged

Where a client is told that the resolver is stopped, the watch is at a place of rest and no request is
under way.  This needs no plaintext nameserver.  A client that waits for the reply to a stop request
learns it also where others have given up before: `World.rests_of_given`.  One that finds the status
stopped learns it in a run in which nobody gives up, since every request under way has then somebody who
waits for its reply: `World.rests_of_told`.
-/

namespace DnsWarden

section

variable {x y : Stance}

theorem Stand.rests_of_isOver {st : Stand} (h : st.isOver = true) (s : Scene) : st.Rests s := by
  cases st with
  | waiting p =>
    cases p with
    | returned | dropped => trivial
    | _ => cases h
  | _ => cases h

/-! ## Stop requests that the watch has served -/

/-- The request that the watch holds is the one that it received last, and if it holds none and the last
one was for a stop, the watch is at a place of rest. -/
structure Stance.Heeds (x : Stance) : Prop where
  tends : x.Tends
  fits : x.Fits
  newest : ∀ r ∈ x.book.held, x.book.received.head? = some r
  rests : ∀ t, x.book.held = [] → x.book.received.head? = some (.stop t) → x.stand.Rests x.scene

theorem Stance.Heeds.stride (h : Stride x y) (hx : x.Heeds) : y.Heeds := by
  refine ⟨h.tends hx.tends, Shift.fits x y (.stride h) hx.fits, ?_, ?_⟩
  · cases h.business hx.fits with
    | nothing same => rw [same]; exact hx.newest
    | receives _ _ took =>
      rw [took]
      intro r here
      obtain rfl := List.mem_singleton.1 here
      rfl
    | answersStart _ _ gave | answersStop _ gave _ | answersEarly _ _ gave _ =>
      rw [gave]
      exact nofun
    | returns ended =>
      rw [(h.returns hx.fits ended).2]
      exact nofun
  · intro t free last
    cases h.business hx.fits with
    | nothing same =>
      rw [same] at free last
      obtain place | ⟨t', sent, taken⟩ := h.rests_place hx.tends (hx.rests t free last)
      · exact place
      · have kept : y.mailbox = x.mailbox := congrArg Book.mailbox same
        rw [taken, sent] at kept
        cases kept
    | receives _ _ took =>
      rw [took] at free
      cases free
    | @answersStart t' status held gave =>
      -- The request that was answered is the last one, and it was not for a stop.
      have here : Request.start t' ∈ x.book.held := by
        show Request.start t' ∈ x.held
        rw [held]
        exact List.mem_singleton_self _
      rw [gave] at last
      cases (hx.newest _ here).symm.trans last
    | answersStop _ _ place | answersEarly _ _ _ place => exact place
    | returns ended => exact Stand.rests_of_isOver ended _

/-- What others do changes neither the requests that the watch holds nor those that it has received. -/
theorem Nudge.received (h : Nudge x y) :
    y.book.held = x.book.held ∧ y.book.received = x.book.received := by
  have received : y.scene.deals = x.scene.deals → y.book.received = x.book.received :=
    congrArg (List.filterMap Deal.received?)
  constructor
  · show y.held = x.held
    unfold Stance.held
    rw [h.pending, h.stand]
  · cases h with
    | told told => exact received told.deals
    | refreshFailed _ => exact received (by simp)
    | forsake => exact received (Scene.deals_forsake _ _)
    | _ => rfl

theorem Stance.Heeds.shift (x y : Stance) (h : Shift x y) (hx : x.Heeds) : y.Heeds := by
  have tends := h.tends x y hx.tends
  have fits := h.fits x y hx.fits
  cases h with
  | stride h => exact hx.stride h
  | nudge h =>
    obtain ⟨held, received⟩ := h.received
    refine ⟨tends, fits, by rw [held, received]; exact hx.newest, fun t free last => ?_⟩
    rw [held] at free
    rw [received] at last
    exact h.rests_place (hx.rests t free last)
  | @drop w _ _ =>
    have closed : w.drop.stance.book = w.stance.book.close := w.book_drop
    refine ⟨tends, fits, ?_, fun _ _ _ => trivial⟩
    rw [closed]
    exact nofun

/-! ## The request that was sent last -/

theorem Stride.sent (h : Stride x y) (fits : x.Fits) : y.book.sent = x.book.sent := by
  cases h.business fits with
  | nothing same => rw [same]
  | receives _ _ took => rw [took]; rfl
  | answersStart _ _ gave | answersStop _ gave _ | answersEarly _ _ gave _ => rw [gave]; rfl
  | returns ended => rw [(h.returns fits ended).2]; rfl

/-- No stride brings a request under way that was not. -/
theorem Stride.under_way_before (h : Stride x y) (fits : x.Fits) {r : Request}
    (here : r ∈ y.book.mailbox.toList ++ y.book.held) : r ∈ x.book.mailbox.toList ++ x.book.held := by
  cases h.business fits with
  | nothing same => rwa [same] at here
  | @receives r' sent free took =>
    rw [took] at here
    show r ∈ x.mailbox.toList ++ x.held
    rw [sent, free]
    exact here
  | answersStart _ _ gave | answersStop _ gave _ =>
    rw [gave, List.append_nil] at here
    exact List.mem_append_left _ here
  | answersEarly _ _ gave _ =>
    rw [gave] at here
    cases here
  | returns ended =>
    rw [(h.returns fits ended).2] at here
    cases here

theorem Tread.sent (h : Tread x y) (fits : x.Fits) :
    y.book.sent = x.book.sent ∧
      ∀ r ∈ y.book.mailbox.toList ++ y.book.held, r ∈ x.book.mailbox.toList ++ x.book.held := by
  have kept : y.Fits ∧ y.book.sent = x.book.sent ∧
      ∀ r ∈ y.book.mailbox.toList ++ y.book.held, r ∈ x.book.mailbox.toList ++ x.book.held := by
    refine h.keep (J := fun z => z.Fits ∧ z.book.sent = x.book.sent ∧
      ∀ r ∈ z.book.mailbox.toList ++ z.book.held, r ∈ x.book.mailbox.toList ++ x.book.held)
      (fun z z' goes hz => ?_) ⟨fits, rfl, fun _ => id⟩
    obtain ⟨fits, sent, before⟩ := hz
    exact ⟨Shift.fits z z' (.stride goes) fits, (goes.sent fits).trans sent, fun r here =>
      before r (goes.under_way_before fits here)⟩
  exact kept.2

theorem Murmurs.book (h : Murmurs x y) : y.book = x.book := by
  induction h with
  | refl => rfl
  | tail _ last ih => exact last.book.trans ih

end

/-- What a step at the desk does with requests: it sends the one that the client has written, or none. -/
theorem Desk.step_sends {d d' : Desk} {c : Client} {desired : Status} {a : Ask} {n : Ask.Next}
    (h : d.step c desired a = some (d', n)) :
    (d'.watch.stance.book.sent = d.watch.stance.book.sent ∧
      d'.watch.stance.book.mailbox = d.watch.stance.book.mailbox ∧
      d'.watch.stance.book.held = d.watch.stance.book.held ∧ (∀ t, n ≠ .waiting (.awaiting t)) ∧
      ∀ r, n = .waiting (.sending r) → r.desired = desired) ∨
    ∃ r, a = .sending r ∧ n = .waiting (.awaiting r.ticket) ∧
      d'.watch.stance.book.sent = r :: d.watch.stance.book.sent ∧
      d'.watch.stance.book.mailbox = some r ∧
      d'.watch.stance.book.held = d.watch.stance.book.held := by
  cases a with
  | arriving =>
    cases h
    exact .inl ⟨rfl, rfl, rfl, by rintro t ⟨⟩, by rintro r ⟨⟩⟩
  | queued =>
    simp only [step] at h
    split_ifs at h
    cases h
    exact .inl ⟨rfl, rfl, rfl, by rintro t ⟨⟩, by rintro r ⟨⟩⟩
  | reading =>
    left
    simp only [step, Option.some.injEq, decide] at h
    cases desired with
    | running | stopped =>
      dsimp only at h
      split_ifs at h <;> cases h
      all_goals refine ⟨rfl, rfl, rfl, by rintro t ⟨⟩, ?_⟩
      all_goals rintro r same
      all_goals cases same
      all_goals rfl
    | crashed =>
      cases h
      exact ⟨rfl, rfl, rfl, by rintro t ⟨⟩, by rintro r ⟨⟩⟩
  | sending r =>
    simp only [step] at h
    split_ifs at h <;> cases h
    · refine .inl ⟨?_, rfl, ?_, by rintro t ⟨⟩, by rintro r ⟨⟩⟩
      · exact congrArg (List.filterMap Deal.sent?) (Scene.deals_forsake _ _)
      · show Stance.held ⟨_, d.watch.scene.forsake r.ticket, d.watch.mailbox⟩ = _
        unfold Stance.held
        rw [Scene.pending_forsake]
        rfl
    · exact .inr ⟨r, rfl, rfl, rfl, rfl, rfl⟩
  | awaiting t =>
    simp only [step] at h
    split at h <;> cases h
    · exact .inl ⟨rfl, rfl, rfl, by rintro t ⟨⟩, by rintro r ⟨⟩⟩
    · exact .inl ⟨rfl, rfl, rfl, by rintro t ⟨⟩, by rintro r ⟨⟩⟩

/-! ## Clients that go away -/

namespace World

variable {w v : World} {m : Move} {c : Client}

namespace Departs

theorem sent (h : w.Departs c v) : v.stance.book.sent = w.stance.book.sent := by
  show v.warden.desk.watch.stance.book.sent = _
  obtain ⟨desired, a, -, desk⟩ | desk := h.desk
  · rw [desk]
    cases a with
    | sending r => exact congrArg (List.filterMap Deal.sent?) (Scene.deals_forsake _ _)
    | _ => rfl
  · rw [desk]
    rfl

theorem mailbox (h : w.Departs c v) : v.stance.mailbox = w.stance.mailbox := by
  show v.warden.desk.watch.mailbox = _
  obtain ⟨desired, a, -, desk⟩ | desk := h.desk
  · rw [desk]
    cases a <;> rfl
  · rw [desk]
    rfl

theorem inTurn (h : w.Departs c v) (turn : InTurn w.queue w.ask?) : InTurn v.queue v.ask? := by
  have queue : v.queue = w.queue ∨ v.queue = w.queue.erase c := by
    show v.warden.desk.queue = _ ∨ v.warden.desk.queue = _
    obtain ⟨desired, a, -, desk⟩ | desk := h.desk
    · right
      rw [desk]
      cases a <;> rfl
    · left
      rw [desk]
      rfl
  intro c' desired a asked served
  by_cases here : c' = c
  · subst here
    rw [h.out.not_served asked] at served
    cases served
  · rw [h.others c' here] at asked
    have head := turn c' desired a asked served
    obtain queue | queue := queue
    · rwa [queue]
    · -- The client that is served stays at the head, whoever leaves behind it.
      obtain ⟨rest, line⟩ := List.head?_eq_some_iff.1 head
      rw [queue, line, List.erase_cons_tail (by simpa using here)]
      rfl

end Departs

/-! ## Clients in attendance -/

/-- Clients stand in turn, also where some have gone away, and one that waits for a reply has sent the
newest request. -/
structure Attends (w : World) : Prop where
  sound : w.Sound
  fits : w.stance.Fits
  turn : InTurn w.queue w.ask?
  writes : ∀ c desired r, w.ask? c = some (desired, .sending r) → r.desired = desired
  newest : ∀ c desired t, w.ask? c = some (desired, .awaiting t) →
    ∃ r, w.stance.book.sent.head? = some r ∧ r.ticket = t ∧ r.desired = desired

/-- Where the clients ask for the same, or have no request, and none is sent, they attend as before. -/
theorem Attends.of_fewer (hw : w.Attends) (sound : v.Sound) (fits : v.stance.Fits)
    (turn : InTurn v.queue v.ask?) (sent : v.stance.book.sent = w.stance.book.sent)
    (asks : ∀ c, v.ask? c = w.ask? c ∨ Ask.Out (v.ask? c)) : v.Attends := by
  refine ⟨sound, fits, turn, fun c desired r asked => ?_, fun c desired t asked => ?_⟩
  · obtain same | out := asks c
    · exact hw.writes c desired r (same.symm.trans asked)
    · cases out _ _ asked
  · rw [sent]
    obtain same | out := asks c
    · exact hw.newest c desired t (same.symm.trans asked)
    · cases out _ _ asked

theorem Attends.step (hw : w.Attends) (h : w.step m = some v) : v.Attends := by
  have sound := hw.sound.step h
  have fits := (hw.sound.passage h).keep Shift.fits hw.fits
  cases hw.sound.turn h with
  | watch tread queue asks =>
    exact hw.of_fewer sound fits (by rw [queue, asks]; exact hw.turn) (tread.sent hw.fits).1
      fun c => .inl (congrFun asks c)
  | drop _ _ dropped queue asks =>
    have closed : v.stance.book = w.stance.book.close := by
      unfold World.stance
      rw [dropped]
      exact w.watch.book_drop
    exact hw.of_fewer sound fits (by rw [queue, asks]; exact hw.turn) (by rw [closed]; rfl)
      fun c => .inl (congrFun asks c)
  | beside murmurs queue asks =>
    refine hw.of_fewer sound fits ?_ (by rw [murmurs.book]) fun c => (asks c).imp_right And.right
    rw [queue]
    intro c desired a asked served
    obtain same | ⟨-, out⟩ := asks c
    · exact hw.turn c desired a (same.symm.trans asked) served
    · rw [out.not_served asked] at served
      cases served
  | leave drops _ =>
    obtain ⟨c, departs⟩ := step_departs h drops
    refine hw.of_fewer sound fits (departs.inTurn hw.turn) departs.sent fun c' => ?_
    by_cases here : c' = c
    · exact .inr (here ▸ departs.out)
    · exact .inl (departs.others c' here)
  | @desk c desired a d n asked step queue murmurs leads others =>
    have turn : InTurn v.queue v.ask? := queue ▸ Desk.step_inTurn step asked hw.turn leads others
    have sends := Desk.step_sends step
    rw [← murmurs.book] at sends
    refine ⟨sound, fits, turn, fun c' desired' r asked' => ?_, fun c' desired' t asked' => ?_⟩
    · by_cases here : c' = c
      · subst here
        cases n with
        | done result => cases leads _ _ asked'
        | waiting a' =>
          rw [leads] at asked'
          cases asked'
          obtain ⟨-, -, -, -, writes⟩ | ⟨r', -, same, -⟩ := sends
          · exact writes r rfl
          · cases same
      · rw [others c' here] at asked'
        exact hw.writes c' desired' r asked'
    · by_cases here : c' = c
      · subst here
        cases n with
        | done result => cases leads _ _ asked'
        | waiting a' =>
          rw [leads] at asked'
          cases asked'
          obtain ⟨-, -, -, none, -⟩ | ⟨r, rfl, same, sent, -⟩ := sends
          · exact absurd rfl (none t)
          · cases same
            exact ⟨r, congrArg List.head? sent, rfl, hw.writes _ _ _ asked⟩
      · rw [others c' here] at asked'
        obtain ⟨sent, -⟩ | ⟨r, rfl, -⟩ := sends
        · rw [sent]
          exact hw.newest c' desired' t asked'
        · -- Only one client is served, so that no other one waits while this one sends.
          exact absurd (hw.turn.oneServed c' c _ _ _ _ asked' rfl asked rfl) here

theorem Attends.run {ms : List Move} (hw : w.Attends) (h : w.run ms = some v) : v.Attends := by
  induction ms generalizing w with
  | nil =>
    cases h
    exact hw
  | cons m ms ih =>
    obtain ⟨u, hu, hv⟩ := Option.bind_eq_some_iff.1 h
    exact ih (hw.step hu) hv

/-! ## Requests with somebody who waits for them -/

/-- Somebody waits for the reply to every request that is under way. -/
def Owned (w : World) : Prop :=
  ∀ r ∈ w.stance.book.mailbox.toList ++ w.stance.book.held,
    ∃ c desired, w.ask? c = some (desired, .awaiting r.ticket)

/-- Where nobody gives up, somebody goes on to wait for the reply to every request under way. -/
theorem Owned.step (hw : w.Owned) (accounts : w.hall.Accounts) (sound : w.Sound) (h : w.step m = some v)
    (patient : w.drops m = false) : v.Owned := by
  cases sound.turn h with
  | watch tread _ asks =>
    intro r here
    rw [asks]
    exact hw r ((tread.sent accounts.fits).2 r here)
  | drop _ _ dropped _ _ =>
    have closed : v.stance.book = w.stance.book.close := by
      unfold World.stance
      rw [dropped]
      exact w.watch.book_drop
    unfold Owned
    rw [closed]
    exact nofun
  | beside murmurs _ asks =>
    intro r here
    rw [murmurs.book] at here
    obtain ⟨c, desired, asked⟩ := hw r here
    obtain same | ⟨out, -⟩ := asks c
    · exact ⟨c, desired, same.trans asked⟩
    · cases out _ _ asked
  | leave drops _ =>
    rw [patient] at drops
    cases drops
  | @desk c desired a d n asked step _ murmurs leads others =>
    -- A client that waits for the reply to a request under way cannot go on.
    have waits : ∀ r ∈ w.stance.book.mailbox.toList ++ w.stance.book.held,
        ∃ c' desired', v.ask? c' = some (desired', .awaiting r.ticket) := by
      intro r here
      obtain ⟨c', desired', asked'⟩ := hw r here
      refine ⟨c', desired', ?_⟩
      by_cases same : c' = c
      · subst same
        obtain ⟨l, balances, -⟩ := accounts.balance
        have awaited : w.warden.desk.scene.replies[r.ticket]? = some .awaited :=
          balances.awaited r here
        rw [asked] at asked'
        cases asked'
        simp only [Desk.step, awaited] at step
        cases step
      · rw [others c' same]
        exact asked'
    intro r here
    rw [murmurs.book] at here
    obtain ⟨-, mailbox, held, -⟩ | ⟨r', rfl, rfl, -, mailbox, held⟩ := Desk.step_sends step
    · rw [mailbox, held] at here
      exact waits r here
    · rw [mailbox, held] at here
      obtain rfl | here := List.mem_cons.1 here
      · exact ⟨c, desired, leads⟩
      · exact waits r (List.mem_append_right _ here)

/-! ## What a client is told -/

end World

/-- Where the head of a list is not in a part in front, there is no such part. -/
theorem head?_append_of_not_mem {α : Type} {front rest : List α} {a : α}
    (head : (front ++ rest).head? = some a) (other : a ∉ front) :
    front = [] ∧ rest.head? = some a := by
  cases front with
  | nil => exact ⟨rfl, head⟩
  | cons b front =>
    cases head
    exact absurd List.mem_cons_self other

/-- Once the reply to the newest request was given, no request is under way, and it was received last. -/
theorem Book.Balances.settled_last {b : Book} {l : Ledger} (h : b.Balances l) {r : Request} {x : Status}
    (newest : b.sent.head? = some r) (given : b.replies[r.ticket]? = some (.given x)) :
    b.mailbox = none ∧ b.held = [] ∧ b.received.head? = some r := by
  have found : r ∉ l.lost ++ l.dropped := by
    intro here
    cases (h.lost r here).symm.trans given
  have settled : r ∉ b.mailbox.toList ++ b.held := by
    intro here
    cases (h.awaited r here).symm.trans given
  rw [List.mem_append, not_or] at found settled
  rw [h.sent] at newest
  obtain ⟨-, newest⟩ := head?_append_of_not_mem newest found.1
  obtain ⟨mailbox, last⟩ := head?_append_of_not_mem newest settled.1
  have before := last
  rw [h.received] at before
  obtain ⟨-, before⟩ := head?_append_of_not_mem before found.2
  obtain ⟨held, -⟩ := head?_append_of_not_mem before settled.2
  exact ⟨Option.toList_eq_nil_iff.1 mailbox, held, last⟩

/-- No request is under way, and nothing but a start request leads to an attempt. -/
def Stance.IsQuiet (x : Stance) : Prop := x.mailbox = none ∧ x.held = [] ∧ x.stand.Rests x.scene

namespace World

variable {policy : Policy} {settings : Settings} {draws : Nat → Nat} {ms : List Move} {w : World}
  {c : Client}

theorem run_heeds (h : (World.initial policy settings draws).run ms = some w) : w.stance.Heeds :=
  run_keep Stance.Heeds.shift h ⟨run_tends (run_nil _), ⟨fun _ => rfl, nofun⟩, nofun, nofun⟩

theorem run_attends (h : (World.initial policy settings draws).run ms = some w) : w.Attends := by
  have none : ∀ c, (World.initial policy settings draws).ask? c = none := by
    intro c
    cases c <;> rfl
  have start : (World.initial policy settings draws).Attends := by
    refine ⟨initial_sound _ _ _, ⟨fun _ => rfl, nofun⟩, fun c desired a asked => ?_,
      fun c desired r asked => ?_, fun c desired t asked => ?_⟩
    · cases (none c).symm.trans asked
    · cases (none c).symm.trans asked
    · cases (none c).symm.trans asked
  exact start.run h

/-- In a run in which nobody gives up, somebody waits for the reply to every request under way. -/
theorem run_owned (h : (World.initial policy settings draws).run ms = some w)
    (patient : (World.initial policy settings draws).isPatient ms = true) : w.Owned := by
  have onward : ∀ (rest : List Move) (u : World), u.hall.Accounts → u.Sound → u.Owned →
      u.run rest = some w → u.isPatient rest = true → w.Owned := by
    intro rest
    induction rest with
    | nil =>
      rintro u - - owned hw -
      cases hw
      exact owned
    | cons m rest ih =>
      intro u accounts sound owned hw patient
      obtain ⟨v, hv, hw⟩ := Option.bind_eq_some_iff.1 hw
      unfold isPatient at patient
      rw [hv, Bool.and_eq_true, Bool.not_eq_true'] at patient
      exact ih v ((step_doings hv sound).keep (fun _ _ => Hall.Accounts.doing) accounts)
        (sound.step hv) (owned.step accounts sound hv patient.1) hw patient.2
  exact onward ms _ (run_accounts (run_nil _)) (initial_sound _ _ _) (by rintro r ⟨⟩) h patient

/-- Once the reply to a stop request was given for which a client waits, all is quiet. -/
theorem rests_of_given (h : (World.initial policy settings draws).run ms = some w) {t : Ticket}
    {x : Status} (asked : w.ask? c = some (.stopped, .awaiting t))
    (given : w.scene.replies[t]? = some (.given x)) : w.stance.IsQuiet := by
  obtain ⟨r, newest, rfl, stops⟩ := (run_attends h).newest c .stopped t asked
  obtain ⟨l, balances, -⟩ := (run_accounts h).balance
  obtain ⟨mailbox, held, last⟩ := balances.settled_last newest given
  cases r with
  | start t => cases stops
  | stop t => exact ⟨mailbox, held, (run_heeds h).rests t held last⟩

/-- In a run in which nobody gives up, all is quiet where a client reads that the status is stopped. -/
theorem rests_of_read (h : (World.initial policy settings draws).run ms = some w)
    (patient : (World.initial policy settings draws).isPatient ms = true) {desired : Status}
    (asked : w.ask? c = some (desired, .reading)) (stopped : w.scene.status = .stopped) :
    w.stance.IsQuiet := by
  have one := (run_attends h).turn.oneServed
  have none : w.stance.book.mailbox.toList ++ w.stance.book.held = [] := by
    rw [List.eq_nil_iff_forall_not_mem]
    intro r here
    obtain ⟨c', desired', waits⟩ := run_owned h patient r here
    obtain rfl := one c c' _ _ _ _ asked rfl waits rfl
    cases asked.symm.trans waits
  obtain ⟨mailbox, held⟩ := List.append_eq_nil_iff.1 none
  have held : w.stance.held = [] := held
  refine ⟨Option.toList_eq_nil_iff.1 mailbox, held, ?_⟩
  obtain ⟨pending, owed⟩ := List.append_eq_nil_iff.1 held
  exact Phase.rests_of_stopped (run_agrees h).status stopped (by simpa using pending) owed

/-- In a run in which nobody gives up, all is quiet where a client is told that the resolver is
stopped. -/
theorem rests_of_told (h : (World.initial policy settings draws).run ms = some w)
    (patient : (World.initial policy settings draws).isPatient ms = true) {o : StatusOutcome}
    (stopped : w.Settles c .stopped (.ok o)) : w.stance.IsQuiet := by
  obtain ⟨a, d, asked, step⟩ := stopped
  obtain ⟨rfl, -, same⟩ | ⟨t, x, rfl, -, given⟩ := Desk.step_ok step
  · exact rests_of_read h patient asked (same.1 rfl)
  · exact rests_of_given h asked given

end World

end DnsWarden
