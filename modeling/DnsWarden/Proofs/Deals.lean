import DnsWarden.Proofs.Owing

/-!
# What is done with requests

The journal says which requests were sent, received and answered.  Together with the mailbox, the
requests that the watch holds and the replies this is the `Book` of requests.  `Stride.business` lists
what a stride can do there: the watch receives the request in the mailbox, answers the one that it holds,
or returns.  A `Dealing` is one such thing, and `Stride.dealings` says that a watch which goes on does
nothing else, and never loses a request that it has received.
-/

namespace DnsWarden

/-! ## The journal of requests -/

/-- What is done with a request. -/
inductive Deal where
  | sent (r : Request)
  | received (r : Request)
  | answered (t : Ticket) (s : Status)

namespace Deal

def sent? : Deal → Option Request
  | sent r => some r
  | _ => none

def received? : Deal → Option Request
  | received r => some r
  | _ => none

def answer? : Deal → Option (Ticket × Status)
  | answered t s => some (t, s)
  | _ => none

end Deal

/-- What an event does with a request, if it does anything. -/
def Event.deal? : Event → Option Deal
  | .sent r => some (.sent r)
  | .received r => some (.received r)
  | .answered t s => some (.answered t s)
  | _ => none

theorem Event.deal?_of_isAside {e : Event} (h : e.isAside = true) : e.deal? = none := by
  cases e with
  | sent _ | received _ | answered _ _ => cases h
  | _ => rfl

namespace Journal

def deals (j : Journal) : List Deal := j.filterMap fun e => e.event.deal?

/-- The requests that were sent, the newest first. -/
def sent (j : Journal) : List Request := j.deals.filterMap Deal.sent?

/-- The requests that the watch has received, the newest first. -/
def received (j : Journal) : List Request := j.deals.filterMap Deal.received?

/-- The answers that the watch has given, the newest first. -/
def answers (j : Journal) : List (Ticket × Status) := j.deals.filterMap Deal.answer?

theorem deals_append {new : Journal} (h : ∀ e ∈ new, e.event.isAside = true) (j : Journal) :
    deals (new ++ j) = j.deals := by
  unfold deals
  rw [List.filterMap_append, List.filterMap_eq_nil_iff.2 fun e he => Event.deal?_of_isAside (h e he)]
  rfl

end Journal

namespace Scene

def deals (s : Scene) : List Deal := s.journal.deals

section

variable (s : Scene)

@[simp] theorem deals_received (r : Request) :
    (s.record (.received r)).deals = .received r :: s.deals := rfl

@[simp] theorem deals_attemptEnded (f : Option SessionFault) :
    (s.record (.attemptEnded f)).deals = s.deals := rfl

@[simp] theorem deals_tell (n : Notice) : (s.tell n).deals = s.deals := rfl

@[simp] theorem deals_ready : s.ready.deals = s.deals := rfl

@[simp] theorem deals_call (c : Call) : (s.call c).deals = s.deals := rfl

@[simp] theorem deals_tally (f : Tallies → Tallies) : (s.tally f).deals = s.deals := rfl

@[simp] theorem deals_setStatus (x : Status) : (s.setStatus x).deals = s.deals := by
  unfold setStatus
  split <;> rfl

@[simp] theorem deals_answer (t : Ticket) (x : Status) :
    (s.answer t x).deals = .answered t x :: s.deals := rfl

@[simp] theorem deals_forsake (t : Ticket) : (s.forsake t).deals = s.deals := by
  unfold forsake
  split <;> rfl

theorem deals_answerPending (x : Status) :
    (s.answerPending x).deals = s.pending.elim s.deals fun t => .answered t x :: s.deals := by
  cases h : s.pending <;> simp [answerPending, h, answer, deals, Journal.deals, Event.deal?]

@[simp] theorem deals_hold (t : Option Ticket) : (s.hold t).deals = s.deals := by
  unfold hold
  split
  · rfl
  · exact s.deals_forsake _

@[simp] theorem deals_pointAt (ip : IpAddress) (route : Route) (keep : Bool) :
    (s.pointAt ip route keep).deals = s.deals := rfl

@[simp] theorem deals_tallyRetreat (failed : Bool) : (s.tallyRetreat failed).deals = s.deals := rfl

@[simp] theorem deals_pause (f : SessionFault) : (s.pause (some f)).1.deals = s.deals := rfl

@[simp] theorem deals_attempt : (Attempt.begin s).1.deals = s.deals := rfl

@[simp] theorem deals_systemPointed (failure : Option NameserverFault) :
    (s.systemPointed failure).deals = s.deals := by
  cases failure <;> rfl

end

theorem Told.deals {s s' : Scene} (h : s.Told s') : s'.deals = s.deals := by
  obtain ⟨new, hn, rfl⟩ := h
  exact Journal.deals_append hn s.journal

theorem Handled.deals {s s' : Scene} (h : s.Handled s') : s'.deals = s.deals := by
  obtain ⟨ps, -, rfl⟩ := h
  rfl

end Scene

/-! ## Forsaken replies -/

/-- The replies once nobody is left to give one of them: it is lost if it was awaited. -/
def forsaken (t : Ticket) (replies : List Reply) : List Reply :=
  if replies[t]? = some .awaited then replies.set t .lost else replies

theorem Scene.replies_forsake (s : Scene) (t : Ticket) :
    (s.forsake t).replies = forsaken t s.replies := by
  unfold forsake forsaken
  split <;> rfl

theorem getElem?_forsaken (t t' : Ticket) (replies : List Reply) :
    (forsaken t replies)[t']? =
      if t' = t ∧ replies[t']? = some .awaited then some .lost else replies[t']? := by
  unfold forsaken
  by_cases same : t' = t
  · subst same
    by_cases awaited : replies[t']? = some .awaited
    · have lt : t' < replies.length := (List.getElem?_eq_some_iff.1 awaited).1
      rw [if_pos awaited, if_pos ⟨rfl, awaited⟩, List.getElem?_set_self lt]
    · rw [if_neg awaited, if_neg (awaited ·.2)]
  · have other : (replies.set t .lost)[t']? = replies[t']? := List.getElem?_set_ne (Ne.symm same)
    have kept : (if replies[t]? = some .awaited then replies.set t .lost else replies)[t']? =
        replies[t']? := by
      split
      · exact other
      · rfl
    rw [kept, if_neg fun h => same h.1]

theorem getElem?_foldr_forsaken (ts : List Ticket) (t : Ticket) (replies : List Reply) :
    (ts.foldr forsaken replies)[t]? =
      if t ∈ ts ∧ replies[t]? = some .awaited then some .lost else replies[t]? := by
  induction ts with
  | nil => simp
  | cons t' ts ih =>
    rw [List.foldr_cons, getElem?_forsaken, ih]
    by_cases awaited : replies[t]? = some .awaited
    · by_cases there : t ∈ ts <;> simp [there, awaited]
    · simp [awaited]

/-! ## Requests that are held -/

/-- Whether a start request can wait there for the outcome of an attempt. -/
def AfterRetreat.canHold : AfterRetreat → Bool
  | .attempt | .pause _ | .disable => true
  | .idle | .halt _ _ | .recover _ _ => false

def Phase.canHold : Phase → Bool
  | .retreating after => after.canHold
  | .attempting _ | .pausing _ .attempt => true
  | _ => false

def Stand.canHold : Stand → Bool
  | .waiting p => p.canHold
  | .retreating _ after | .resuming after => after.canHold
  | .cycling | .attempting => true
  | .clearing _ _ | .ending _ | .finishing => false

/-- Whether the watch has returned or was dropped. -/
def Stand.isOver : Stand → Bool
  | .waiting .returned | .waiting .dropped => true
  | _ => false

/-- The requests that the watch has taken: the start request that waits for an attempt, and the request
with which the watch stands. -/
def Stance.held (x : Stance) : List Request :=
  x.scene.pending.toList.map Request.start ++ x.stand.owed

/-- A start request waits only on the way to an attempt and there, and the mailbox of a watch that is
over is empty. -/
structure Stance.Fits (x : Stance) : Prop where
  pending : x.stand.canHold = false → x.scene.pending = none
  mailbox : x.stand.isOver = true → x.mailbox = none

theorem Stand.isOver_waiting {p : Phase} (isOpen : p ≠ .returned ∧ p ≠ .dropped) :
    (Stand.waiting p).isOver = false := by
  cases p with
  | returned => exact absurd rfl isOpen.1
  | dropped => exact absurd rfl isOpen.2
  | _ => rfl

theorem Watch.isOver_stance (w : Watch) : w.stance.stand.isOver = !w.isOpen := by
  obtain ⟨s, p, m⟩ := w
  cases p <;> rfl

section

variable {x y : Stance}

theorem Stance.Fits.held (h : x.Fits) (free : x.stand.canHold = false) : x.held = x.stand.owed := by
  unfold Stance.held
  rw [h.pending free]
  rfl

/-- A watch that is done has no request. -/
theorem Stance.Fits.nothing_left (h : x.Fits) (ended : x.stand.isOver = true) :
    x.mailbox = none ∧ x.held = [] := by
  refine ⟨h.mailbox ended, ?_⟩
  obtain ⟨st, s, m⟩ := x
  cases st with
  | waiting p => cases p <;> first | exact h.held rfl | cases ended
  | _ => cases ended

theorem Stride.pending (h : Stride x y) (fits : x.Fits) (free : y.stand.canHold = false) :
    y.scene.pending = none := by
  have fits := fits.pending
  cases h with
  | begin | settle | cancelIdle | wakeLost | cancelServing | clearEmpty | endFinish | pauseLost
  | stopIdle | startServing | stopServing | retreat | strand => exact fits free
  | retreated failure => exact (Scene.pending_systemPointed _ failure).trans (fits free)
  | disable | giveUp | giveUpAttempt | ready | finish | finishRequest => simp
  | @halt s m t session =>
    exact (s.cancelSession_handled session).pending.trans (fits rfl)
  | @haltQuiet s m t session =>
    simpa using (s.cancelSession_handled session).pending.trans (fits rfl)
  | @halted s m t session => simpa using (s.hear_handled session).pending.trans (fits rfl)
  | @lostCancelled s m session =>
    have handled := (s.hear_handled session).trans (Scene.cancelSession_handled _ session)
    exact handled.pending.trans (fits rfl)
  | @lost s m session =>
    have handled := (s.hear_handled session).trans (Scene.cancelSession_handled _ session)
    simpa using handled.pending.trans (fits rfl)
  | clear ends => exact (Teardown.begin_handled ends).pending.trans (fits rfl)
  | clearing ends | cleared ends => exact (Teardown.resume_handled ends).pending.trans (fits rfl)
  | _ => cases free

theorem Nudge.pending (h : Nudge x y) : y.scene.pending = x.scene.pending := by
  cases h with
  | told told => exact told.pending
  | refreshFailed _ => simp
  | forsake => exact Scene.pending_forsake _ _
  | _ => rfl

theorem Shift.fits (x y : Stance) (h : Shift x y) (fits : x.Fits) : y.Fits := by
  cases h with
  | stride goes =>
    refine ⟨goes.pending fits, fun ended => ?_⟩
    cases goes with
    | finish | finishRequest => rfl
    | _ => cases ended
  | nudge nudge =>
    refine ⟨fun free => nudge.pending.trans (fits.pending (nudge.stand ▸ free)), fun ended => ?_⟩
    cases nudge with
    | post isOpen => cases (Stand.isOver_waiting isOpen).symm.trans ended
    | _ => exact fits.mailbox ended
  | @drop w _ _ => exact ⟨fun _ => w.pending_drop, fun _ => w.mailbox_drop⟩

end

/-! ## Dealings -/

/-- What matters of a stance to requests. -/
structure Book where
  deals : List Deal
  mailbox : Option Request
  held : List Request
  replies : List Reply

def Stance.book (x : Stance) : Book := ⟨x.scene.deals, x.mailbox, x.held, x.scene.replies⟩

/-- The book once the watch is done: all requests under way are lost. -/
def Book.close (b : Book) : Book :=
  ⟨b.deals, none, [], ((b.mailbox.toList ++ b.held).map Request.ticket).foldr forsaken b.replies⟩

/-- One thing that the watch does with a request. -/
inductive Dealing : Book → Book → Prop where
  | receive {deals r replies} :
    Dealing ⟨deals, some r, [], replies⟩ ⟨.received r :: deals, none, [r], replies⟩
  | answer {deals mailbox r replies} (status : Status) (stops : ∀ t, r = .stop t → status = .stopped) :
    Dealing ⟨deals, mailbox, [r], replies⟩
      ⟨.answered r.ticket status :: deals, mailbox, [], replies.set r.ticket (.given status)⟩

abbrev Dealings : Book → Book → Prop := Relation.ReflTransGen Dealing

/-- What a stride does with requests. -/
inductive Business (x y : Stance) : Prop where
  | nothing (same : y.book = x.book)
  | receives {r : Request} (sent : x.mailbox = some r) (free : x.held = [])
    (took : y.book = ⟨.received r :: x.scene.deals, none, [r], x.scene.replies⟩)
  /-- The start request that waits is answered. -/
  | answersStart {t : Ticket} (status : Status) (held : x.held = [.start t])
    (gave : y.book = ⟨.answered t status :: x.scene.deals, x.mailbox, [],
      x.scene.replies.set t (.given status)⟩)
  /-- A stop request is answered, and the watch comes to a place of rest. -/
  | answersStop {t : Ticket} (held : x.held = [.stop t])
    (gave : y.book = ⟨.answered t .stopped :: x.scene.deals, x.mailbox, [],
      x.scene.replies.set t (.given .stopped)⟩)
    (rests : y.stand.Rests y.scene)
  /-- A stop request is answered where it is received, since nothing runs yet. -/
  | answersEarly {t : Ticket} (sent : x.mailbox = some (.stop t)) (free : x.held = [])
    (gave : y.book = ⟨.answered t .stopped :: .received (.stop t) :: x.scene.deals, none, [],
      x.scene.replies.set t (.given .stopped)⟩)
    (rests : y.stand.Rests y.scene)
  | returns (ended : y.stand.isOver = true)

namespace Business

variable {x y : Stance}

theorem of_same (stand : y.stand.owed = x.stand.owed) (mailbox : y.mailbox = x.mailbox)
    (pending : y.scene.pending = x.scene.pending) (deals : y.scene.deals = x.scene.deals)
    (replies : y.scene.replies = x.scene.replies) : Business x y := by
  refine .nothing ?_
  unfold Stance.book Stance.held
  rw [stand, mailbox, pending, deals, replies]

/-- A stride that answers the start request that waits, if there is one. -/
theorem of_answerPending (status : Status) (stand : x.stand.owed = []) (stand' : y.stand.owed = [])
    (mailbox : y.mailbox = x.mailbox) (pending : y.scene.pending = none)
    (deals : y.scene.deals =
      x.scene.pending.elim x.scene.deals fun t => .answered t status :: x.scene.deals)
    (replies : y.scene.replies =
      x.scene.pending.elim x.scene.replies fun t => x.scene.replies.set t (.given status)) :
    Business x y := by
  cases held : x.scene.pending with
  | none =>
    rw [held] at deals replies
    exact of_same (stand'.trans stand.symm) mailbox (pending.trans held.symm) deals replies
  | some t =>
    rw [held] at deals replies
    have waits : x.held = [.start t] := by
      unfold Stance.held
      rw [held, stand]
      rfl
    refine .answersStart status waits ?_
    unfold Stance.book Stance.held
    rw [stand', mailbox, pending, deals, replies]
    rfl

/-- A stride that answers the stop request for which the watch has stopped a process. -/
theorem of_answer {t : Ticket} (none : x.scene.pending = none) (stand : x.stand.owed = [.stop t])
    (stand' : y.stand.owed = []) (mailbox : y.mailbox = x.mailbox)
    (pending : y.scene.pending = x.scene.pending)
    (deals : y.scene.deals = .answered t .stopped :: x.scene.deals)
    (replies : y.scene.replies = x.scene.replies.set t (.given .stopped))
    (rests : y.stand.Rests y.scene) : Business x y := by
  have waits : x.held = [.stop t] := by
    unfold Stance.held
    rw [none, stand]
    rfl
  refine .answersStop waits ?_ rests
  unfold Stance.book Stance.held
  rw [stand', mailbox, pending, none, deals, replies]
  rfl

/-- A stride that receives the request in the mailbox. -/
theorem of_receive {r : Request} (sent : x.mailbox = some r) (free : x.held = [])
    (mailbox : y.mailbox = none) (held : y.held = [r])
    (deals : y.scene.deals = .received r :: x.scene.deals)
    (replies : y.scene.replies = x.scene.replies) : Business x y := by
  refine .receives sent free ?_
  unfold Stance.book
  rw [mailbox, held, deals, replies]

end Business

/-- A stride receives or answers a request, or leaves the book as it is, or the watch returns. -/
theorem Stride.business {x y : Stance} (h : Stride x y) (fits : x.Fits) : Business x y := by
  cases h with
  | begin | retreat | strand | retreated | settle | venture | pause | pauseLost | cancelIdle | cycle
  | attempt | unwanted | pointed | wake | wakeLost | cancelServing | clearEmpty | endFinish =>
    exact .of_same rfl rfl (by simp) (by simp) (by simp)
  | @halt s m t session _ =>
    have handled := s.cancelSession_handled session
    exact .of_same rfl rfl handled.pending handled.deals handled.replies
  | @lostCancelled s m session =>
    have handled := (s.hear_handled session).trans (Scene.cancelSession_handled _ session)
    exact .of_same rfl rfl handled.pending handled.deals handled.replies
  | @lost s m session =>
    have handled := (s.hear_handled session).trans (Scene.cancelSession_handled _ session)
    exact .of_same rfl rfl (by simpa using handled.pending) (by simpa using handled.deals)
      (by simpa using handled.replies)
  | started => exact .of_same rfl rfl rfl rfl rfl
  | refresh goes | request goes =>
    have told := Refresh.resume_told goes
    exact .of_same rfl rfl told.pending told.deals told.replies
  | refreshFailed goes =>
    have told := Refresh.resume_told goes
    exact .of_same rfl rfl (by simpa using told.pending) (by simpa using told.deals)
      (by simpa using told.replies)
  | clear ends =>
    have handled := Teardown.begin_handled ends
    exact .of_same rfl rfl handled.pending handled.deals handled.replies
  | clearAttempt ends | clearing ends | cleared ends | clearedAttempt ends =>
    have handled := Teardown.resume_handled ends
    exact .of_same rfl rfl (by simpa using handled.pending) (by simpa using handled.deals)
      (by simpa using handled.replies)
  -- The start request that waits is answered
  | disable =>
    exact .of_answerPending .stopped rfl rfl rfl (by simp) (by simp [Scene.deals_answerPending])
      (by simp [Scene.replies_answerPending])
  | giveUp | giveUpAttempt =>
    exact .of_answerPending .stopped rfl rfl rfl (by simp) (Scene.deals_answerPending _ _)
      (Scene.replies_answerPending _ _)
  | @refused s m pid keep f =>
    have handled := s.onProcess_handled pid fun p => { p with stage := .refused, cancelled := true }
    exact .of_answerPending .crashed rfl rfl rfl (by simp)
      (by simp [Scene.deals_answerPending, handled.pending, handled.deals])
      (by simp [Scene.replies_answerPending, handled.pending, handled.replies])
  | probeFailed ends =>
    have handled := Teardown.begin_handled ends
    exact .of_answerPending .crashed rfl rfl rfl (by simpa using handled.pending)
      (by simpa [Scene.deals_answerPending] using handled.deals)
      (by simpa [Scene.replies_answerPending] using handled.replies)
  | ready =>
    exact .of_answerPending .running rfl rfl rfl (by simp) (by simp [Scene.deals_answerPending])
      (by simp [Scene.replies_answerPending])
  -- The request in the mailbox is taken
  | @startIdle s t =>
    have pending : s.pending = none := fits.pending rfl
    exact .of_receive rfl (fits.held rfl) rfl (by simp [Stance.held, Stand.owed]) (by simp)
      (by simp [Scene.replies_hold, pending])
  | @startServing s t session =>
    have pending : s.pending = none := fits.pending rfl
    exact .of_receive rfl (fits.held rfl) rfl
      (by simp [Stance.held, Stand.owed, AfterSession.owed, pending]) (by simp) (by simp)
  | @stopServing s t session =>
    have pending : s.pending = none := fits.pending rfl
    exact .of_receive rfl (fits.held rfl) rfl
      (by simp [Stance.held, Stand.owed, AfterRetreat.owed, pending]) (by simp) (by simp)
  | @stopIdle s t =>
    have pending : s.pending = none := fits.pending rfl
    refine .answersEarly rfl (fits.held rfl) ?_ trivial
    unfold Stance.book Stance.held
    dsimp only [Stand.owed, Phase.owed]
    rw [Scene.pending_answer, Scene.pending_record, pending]
    rfl
  -- A stop request is answered
  | @haltQuiet s m t session _ =>
    have handled := s.cancelSession_handled session
    exact .of_answer (fits.pending rfl) rfl rfl rfl (by simpa using handled.pending)
      (by simp [handled.deals]) (by simp [Scene.answer, handled.replies])
      (Scene.not_keeps_answered Scene.not_keeps_cancelSession t)
  | @halted s m t session note _ =>
    have handled := s.hear_handled session
    exact .of_answer (fits.pending rfl) rfl rfl rfl (by simpa using handled.pending)
      (by simp [handled.deals]) (by simp [Scene.answer, handled.replies])
      (Scene.not_keeps_answered Scene.not_keeps_hear t)
  -- The start request that the watch has taken waits from here on
  | @endRestart s m reply =>
    have pending : s.pending = none := fits.pending rfl
    refine .nothing ?_
    cases reply <;>
      simp [Stance.book, Stance.held, Stand.owed, AfterSession.owed, Scene.hold, pending] <;> rfl
  | finish | finishRequest => exact .returns rfl

/-- A stride of a watch that does not return receives or answers a request, or leaves the book as it
is. -/
theorem Stride.dealings {x y : Stance} (h : Stride x y) (fits : x.Fits)
    (onward : y.stand.isOver = false) : Dealings x.book y.book := by
  cases h.business fits with
  | nothing same => rw [same]
  | receives sent free took =>
    rw [took]
    unfold Stance.book
    rw [sent, free]
    exact .single .receive
  | @answersStart t status held gave =>
    rw [gave]
    unfold Stance.book
    rw [held]
    exact .single (.answer (r := .start t) status nofun)
  | @answersStop t held gave _ =>
    rw [gave]
    unfold Stance.book
    rw [held]
    exact .single (.answer (r := .stop t) .stopped fun _ _ => rfl)
  | @answersEarly t sent free gave _ =>
    rw [gave]
    unfold Stance.book
    rw [sent, free]
    exact .tail (.single .receive) (.answer (r := .stop t) .stopped fun _ _ => rfl)
  | returns ended =>
    rw [ended] at onward
    cases onward

/-- A watch that returns holds no request, and loses one in its mailbox. -/
theorem Stride.returns {x y : Stance} (h : Stride x y) (fits : x.Fits) (ended : y.stand.isOver = true) :
    x.held = [] ∧ y.book = x.book.close := by
  cases h with
  | @finish s =>
    have pending : s.pending = none := fits.pending rfl
    refine ⟨fits.held rfl, ?_⟩
    simp [Stance.book, Stance.held, Book.close, Stand.owed, Phase.owed, Scene.replies_hold, pending]
  | @finishRequest s r =>
    have pending : s.pending = none := fits.pending rfl
    refine ⟨fits.held rfl, ?_⟩
    simp [Stance.book, Stance.held, Book.close, Stand.owed, Phase.owed, Scene.replies_hold,
      Scene.replies_forsake, pending]
  | _ => cases ended

/-- A watch that is done takes no stride. -/
theorem Stride.under_way {x y : Stance} (h : Stride x y) : x.stand.isOver = false := by
  cases h <;> rfl

/-! ## Where the watch is dropped -/

namespace Watch

/-- Where the watch is dropped, it lets go of the requests with which it stands. -/
theorem release_owed (s : Scene) (p : Phase) :
    ∃ s', s.Handled s' ∧ release s p = p.owed.foldr (fun r s => s.forsake r.ticket) s' := by
  cases p with
  | retreating after =>
    cases after with
    | halt session t => exact ⟨_, s.releaseSession_handled session, rfl⟩
    | recover session f => exact ⟨_, s.releaseSession_handled session, rfl⟩
    | _ => exact ⟨s, .refl s, rfl⟩
  | attempting a => exact ⟨_, a.release_handled s, rfl⟩
  | pausing deadline after =>
    cases after with
    | attempt => exact ⟨s, .refl s, rfl⟩
    | recover session => exact ⟨_, s.releaseSession_handled session, rfl⟩
  | serving session => exact ⟨_, s.releaseSession_handled session, rfl⟩
  | halting session t => exact ⟨_, s.releaseSession_handled session, rfl⟩
  | clearing t after =>
    rcases after with _ | _ | reply
    · exact ⟨_, t.release_handled s, rfl⟩
    · exact ⟨_, t.release_handled s, rfl⟩
    · exact ⟨_, t.release_handled s, rfl⟩
  | _ => exact ⟨s, .refl s, rfl⟩

/-- Forsaken one after another, the replies are all that changes. -/
theorem foldr_forsake (rs : List Request) (s : Scene) :
    let s' := rs.foldr (fun r s => s.forsake r.ticket) s
    s'.deals = s.deals ∧ s'.pending = s.pending ∧
      s'.replies = (rs.map Request.ticket).foldr forsaken s.replies := by
  induction rs with
  | nil => exact ⟨rfl, rfl, rfl⟩
  | cons r rs ih =>
    obtain ⟨deals, pending, replies⟩ := ih
    refine ⟨(Scene.deals_forsake _ _).trans deals, (Scene.pending_forsake _ _).trans pending, ?_⟩
    simp only [List.foldr_cons, List.map_cons, Scene.replies_forsake, replies]

theorem book_close (w : Watch) :
    w.close.scene.deals = w.scene.deals ∧ w.close.scene.replies =
      (w.mailbox.toList.map Request.ticket ++ w.scene.pending.toList).foldr forsaken
        w.scene.replies := by
  have held : (w.scene.hold none).replies = w.scene.pending.toList.foldr forsaken w.scene.replies := by
    rw [Scene.replies_hold]
    cases w.scene.pending with
    | none => rfl
    | some t => exact w.scene.replies_forsake t
  unfold close
  dsimp only
  cases w.mailbox with
  | none => exact ⟨Scene.deals_hold _ _, held⟩
  | some r =>
    refine ⟨(Scene.deals_forsake _ _).trans (Scene.deals_hold _ _), ?_⟩
    rw [Scene.replies_forsake, held]
    rfl

/-- Where the watch is dropped, all requests under way are lost. -/
theorem book_drop (w : Watch) : w.drop.stance.book = w.stance.book.close := by
  obtain ⟨s, handled, released⟩ := release_owed w.scene w.phase
  obtain ⟨deals, pending, replies⟩ := foldr_forsake w.phase.owed s
  rw [← released] at deals pending replies
  obtain ⟨closed, lost⟩ := book_close { w with scene := release w.scene w.phase }
  dsimp only at closed lost
  rw [pending, replies, handled.replies, handled.pending] at lost
  rw [deals, handled.deals] at closed
  have all : (w.mailbox.toList ++ w.stance.held).map Request.ticket =
      (w.mailbox.toList.map Request.ticket ++ w.scene.pending.toList) ++
        w.phase.owed.map Request.ticket := by
    unfold Stance.held
    simp [Function.comp_def, Request.ticket]
    rfl
  have held : w.drop.stance.held = [] := by
    unfold Stance.held
    rw [show w.drop.stance.scene.pending = none from w.pending_drop]
    rfl
  have deals : w.drop.stance.scene.deals = w.scene.deals := closed
  have mailbox : w.drop.stance.mailbox = none := w.mailbox_drop
  have replies : w.drop.stance.scene.replies =
      ((w.mailbox.toList ++ w.stance.held).map Request.ticket).foldr forsaken w.scene.replies := by
    rw [all, List.foldr_append]
    exact lost
  unfold Stance.book Book.close
  rw [deals, mailbox, held, replies]
  rfl

end Watch

end DnsWarden
