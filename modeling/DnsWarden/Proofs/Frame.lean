import DnsWarden.Warden.World

/-!
# What operations leave alone

Most operations on the scene only talk: they tell the operator something, count, answer a request
or store the status.  `Scene.premises` and `Scene.marks` are what talk leaves alone: what is there,
and what the journal says of the few events that matter later.  `Scene.Told` relates two scenes
between which only asides were told, and `Scene.Handled` two between which only something was done to
processes.
-/

namespace DnsWarden

namespace Event

/-- Whether an event leaves a mark: it points DNS, starts a process, stores settings or asks for a
start. -/
def isMark : Event → Bool
  | .call (.pointInternally _ _) | .call (.pointSystem _ _) | .call (.start _) => true
  | .replaced _ | .sent (.start _) => true
  | _ => false

/-- Whether the engine was asked for a process. -/
def isStart : Event → Bool
  | .call (.start _) => true
  | _ => false

/-- Whether a start request was sent. -/
def asksStart : Event → Bool
  | .sent (.start _) => true
  | _ => false

/-- The settings that an event stores, if it stores any. -/
def stored? : Event → Option Settings
  | .replaced s => some s
  | _ => none

/-- Whether an event is an aside: it says neither what the watch does nor what is asked of it. -/
def isAside : Event → Bool
  | .notice (.statusChanged _ _) | .notice (.refreshFailed _) => false
  | .notice _ | .scheduled _ | .ticked | .printed _ _ _ => true
  | .call .setUpFiles | .call (.buildLists _) | .call (.writeConfig _) => true
  | _ => false

theorem isMark_of_isAside {e : Event} (h : e.isAside = true) : e.isMark = false := by
  cases e with
  | call c => cases c <;> first | rfl | cases h
  | sent r => cases h
  | replaced s => cases h
  | _ => rfl

end Event

/-- What the journal says of the few events that matter later. -/
structure Marks where
  /-- Where the warden's own lookups were pointed last. -/
  internal : Option (IpAddress × Route)
  /-- Where the system was pointed last. -/
  system : Option IpAddress
  /-- How many processes the engine was asked for. -/
  starts : Nat
  /-- How many start requests were sent. -/
  asks : Nat
  /-- The settings stored so far. -/
  stored : List Settings

namespace Journal

def marks (j : Journal) : Marks where
  internal := j.internalTarget?
  system := j.systemTarget?
  starts := j.count Event.isStart
  asks := j.count Event.asksStart
  stored := j.filterMap fun e => e.event.stored?

theorem marks_cons {e : Entry} (h : e.event.isMark = false) (j : Journal) :
    marks (e :: j) = j.marks := by
  obtain ⟨t, e⟩ := e
  cases e with
  | call c => cases c <;> first | rfl | cases h
  | sent r => cases r <;> first | rfl | cases h
  | replaced s => cases h
  | _ => rfl

theorem marks_append {new : Journal} (h : ∀ e ∈ new, e.event.isMark = false) (j : Journal) :
    marks (new ++ j) = j.marks := by
  induction new with
  | nil => rfl
  | cons e new ih =>
    have rest := ih fun e' he => h e' (List.mem_cons_of_mem e he)
    have first := marks_cons (h e List.mem_cons_self) (new ++ j)
    exact first.trans rest

end Journal

namespace Scene

/-- The processes, the settings, the policy, and whether the loop is to end. -/
def premises (s : Scene) : List Process × Settings × Policy × Bool :=
  (s.processes, s.settings, s.policy, s.cancelled)

/-- What the journal says of the few events that matter later. -/
def marks (s : Scene) : Marks := s.journal.marks

/-- Tells that a resolver is up, and forgets the delays before. -/
def ready (s : Scene) : Scene := { s.tell .ready with backoff := s.backoff.reset }

/-! ## Premises -/

section

variable (s : Scene)

@[simp] theorem premises_record (e : Event) : (s.record e).premises = s.premises := rfl

@[simp] theorem premises_tell (n : Notice) : (s.tell n).premises = s.premises := rfl

@[simp] theorem premises_ready : s.ready.premises = s.premises := rfl

@[simp] theorem premises_call (c : Call) : (s.call c).premises = s.premises := rfl

@[simp] theorem premises_tally (f : Tallies → Tallies) : (s.tally f).premises = s.premises := rfl

@[simp] theorem premises_setStatus (x : Status) : (s.setStatus x).premises = s.premises := by
  unfold setStatus
  split <;> rfl

@[simp] theorem premises_answer (t : Ticket) (x : Status) : (s.answer t x).premises = s.premises :=
  rfl

@[simp] theorem premises_forsake (t : Ticket) : (s.forsake t).premises = s.premises := by
  unfold forsake
  split <;> rfl

@[simp] theorem premises_answerPending (x : Status) : (s.answerPending x).premises = s.premises := by
  unfold answerPending
  split <;> rfl

@[simp] theorem premises_hold (t : Option Ticket) : (s.hold t).premises = s.premises := by
  unfold hold
  split
  · rfl
  · exact s.premises_forsake _

@[simp] theorem premises_pointAt (ip : IpAddress) (route : Route) (keep : Bool) :
    (s.pointAt ip route keep).premises = s.premises := rfl

@[simp] theorem premises_tallyRetreat (failed : Bool) :
    (s.tallyRetreat failed).premises = s.premises := rfl

@[simp] theorem premises_pause (f : SessionFault) : (s.pause (some f)).1.premises = s.premises := by
  unfold pause
  rfl

@[simp] theorem premises_attempt : (Attempt.begin s).1.premises = s.premises := by
  unfold Attempt.begin Refresh.begin
  rfl

@[simp] theorem premises_systemPointed (failure : Option NameserverFault) :
    (s.systemPointed failure).premises = s.premises := by
  cases failure <;> rfl

end

/-! ## Marks -/

section

variable (s : Scene)

@[simp] theorem marks_received (r : Request) : (s.record (.received r)).marks = s.marks := rfl

@[simp] theorem marks_attemptEnded (f : Option SessionFault) :
    (s.record (.attemptEnded f)).marks = s.marks := rfl

@[simp] theorem marks_ready : s.ready.marks = s.marks := rfl

@[simp] theorem marks_probe : (s.call .probe).marks = s.marks := rfl

theorem marks_requestProcess (detail : UInt8) :
    (s.requestProcess detail).1.marks = { s.marks with starts := s.marks.starts + 1 } := by
  have counted : (s.requestProcess detail).1.marks.starts = s.marks.starts + 1 := by
    simp [marks, Journal.marks, Journal.count, requestProcess, call, Event.isStart]
  rw [← counted]
  rfl

@[simp] theorem marks_tell (n : Notice) : (s.tell n).marks = s.marks := rfl

@[simp] theorem marks_tally (f : Tallies → Tallies) : (s.tally f).marks = s.marks := rfl

@[simp] theorem marks_setStatus (x : Status) : (s.setStatus x).marks = s.marks := by
  unfold setStatus
  split <;> rfl

@[simp] theorem marks_answer (t : Ticket) (x : Status) : (s.answer t x).marks = s.marks := rfl

@[simp] theorem marks_forsake (t : Ticket) : (s.forsake t).marks = s.marks := by
  unfold forsake
  split <;> rfl

@[simp] theorem marks_answerPending (x : Status) : (s.answerPending x).marks = s.marks := by
  unfold answerPending
  split <;> rfl

@[simp] theorem marks_hold (t : Option Ticket) : (s.hold t).marks = s.marks := by
  unfold hold
  split
  · rfl
  · exact s.marks_forsake _

@[simp] theorem marks_tallyRetreat (failed : Bool) : (s.tallyRetreat failed).marks = s.marks := rfl

@[simp] theorem marks_pause (f : SessionFault) : (s.pause (some f)).1.marks = s.marks := rfl

@[simp] theorem marks_attempt : (Attempt.begin s).1.marks = s.marks := rfl

@[simp] theorem marks_systemPointed (failure : Option NameserverFault) :
    (s.systemPointed failure).marks = s.marks := by
  cases failure <;> rfl

end

/-! ## The status and the start request that waits -/

section

variable (s : Scene)

@[simp] theorem status_record (e : Event) : (s.record e).status = s.status := rfl

@[simp] theorem status_tell (n : Notice) : (s.tell n).status = s.status := rfl

@[simp] theorem status_tally (f : Tallies → Tallies) : (s.tally f).status = s.status := rfl

@[simp] theorem status_answer (t : Ticket) (x : Status) : (s.answer t x).status = s.status := rfl

@[simp] theorem status_forsake (t : Ticket) : (s.forsake t).status = s.status := by
  unfold forsake
  split <;> rfl

@[simp] theorem status_answerPending (x : Status) : (s.answerPending x).status = s.status := by
  unfold answerPending
  split <;> rfl

@[simp] theorem status_hold (t : Option Ticket) : (s.hold t).status = s.status := by
  unfold hold
  split
  · rfl
  · exact s.status_forsake _

@[simp] theorem status_pointAt (ip : IpAddress) (route : Route) (keep : Bool) :
    (s.pointAt ip route keep).status = s.status := rfl

@[simp] theorem status_tallyRetreat (failed : Bool) : (s.tallyRetreat failed).status = s.status := rfl

@[simp] theorem status_systemPointed (failure : Option NameserverFault) :
    (s.systemPointed failure).status = s.status := by
  cases failure <;> rfl

@[simp] theorem pending_record (e : Event) : (s.record e).pending = s.pending := rfl

@[simp] theorem pending_tell (n : Notice) : (s.tell n).pending = s.pending := rfl

@[simp] theorem pending_ready : s.ready.pending = s.pending := rfl

@[simp] theorem pending_call (c : Call) : (s.call c).pending = s.pending := rfl

@[simp] theorem pending_tally (f : Tallies → Tallies) : (s.tally f).pending = s.pending := rfl

@[simp] theorem pending_setStatus (x : Status) : (s.setStatus x).pending = s.pending := by
  unfold setStatus
  split <;> rfl

@[simp] theorem pending_answer (t : Ticket) (x : Status) : (s.answer t x).pending = s.pending := rfl

@[simp] theorem pending_forsake (t : Ticket) : (s.forsake t).pending = s.pending := by
  unfold forsake
  split <;> rfl

@[simp] theorem pending_pointAt (ip : IpAddress) (route : Route) (keep : Bool) :
    (s.pointAt ip route keep).pending = s.pending := rfl

@[simp] theorem pending_tallyRetreat (failed : Bool) : (s.tallyRetreat failed).pending = s.pending :=
  rfl

@[simp] theorem pending_systemPointed (failure : Option NameserverFault) :
    (s.systemPointed failure).pending = s.pending := by
  cases failure <;> rfl

@[simp] theorem pending_pause (f : SessionFault) : (s.pause (some f)).1.pending = s.pending := rfl

@[simp] theorem pending_attempt : (Attempt.begin s).1.pending = s.pending := rfl

end

/-! ## Replies -/

section

variable (s : Scene)

@[simp] theorem replies_record (e : Event) : (s.record e).replies = s.replies := rfl

@[simp] theorem replies_tell (n : Notice) : (s.tell n).replies = s.replies := rfl

@[simp] theorem replies_ready : s.ready.replies = s.replies := rfl

@[simp] theorem replies_call (c : Call) : (s.call c).replies = s.replies := rfl

@[simp] theorem replies_tally (f : Tallies → Tallies) : (s.tally f).replies = s.replies := rfl

@[simp] theorem replies_setStatus (x : Status) : (s.setStatus x).replies = s.replies := by
  unfold setStatus
  split <;> rfl

@[simp] theorem replies_pointAt (ip : IpAddress) (route : Route) (keep : Bool) :
    (s.pointAt ip route keep).replies = s.replies := rfl

@[simp] theorem replies_tallyRetreat (failed : Bool) : (s.tallyRetreat failed).replies = s.replies :=
  rfl

@[simp] theorem replies_pause (f : SessionFault) : (s.pause (some f)).1.replies = s.replies := rfl

@[simp] theorem replies_attempt : (Attempt.begin s).1.replies = s.replies := rfl

@[simp] theorem replies_systemPointed (failure : Option NameserverFault) :
    (s.systemPointed failure).replies = s.replies := by
  cases failure <;> rfl

end

/-! ## Asides -/

/-- Between the two scenes only asides were told. -/
def Told (s s' : Scene) : Prop :=
  ∃ new : Journal, (∀ e ∈ new, e.event.isAside = true) ∧ s' = { s with journal := new ++ s.journal }

namespace Told

theorem refl (s : Scene) : s.Told s := ⟨[], by simp, rfl⟩

theorem trans {s s' s'' : Scene} (h : s.Told s') (h' : s'.Told s'') : s.Told s'' := by
  obtain ⟨new, hn, rfl⟩ := h
  obtain ⟨new', hn', rfl⟩ := h'
  refine ⟨new' ++ new, fun e he => ?_, by simp only [List.append_assoc]⟩
  rcases List.mem_append.1 he with he | he
  · exact hn' e he
  · exact hn e he

theorem premises {s s' : Scene} (h : s.Told s') : s'.premises = s.premises := by
  obtain ⟨new, -, rfl⟩ := h
  rfl

theorem status {s s' : Scene} (h : s.Told s') : s'.status = s.status := by
  obtain ⟨new, -, rfl⟩ := h
  rfl

theorem pending {s s' : Scene} (h : s.Told s') : s'.pending = s.pending := by
  obtain ⟨new, -, rfl⟩ := h
  rfl

theorem replies {s s' : Scene} (h : s.Told s') : s'.replies = s.replies := by
  obtain ⟨new, -, rfl⟩ := h
  rfl

theorem marks {s s' : Scene} (h : s.Told s') : s'.marks = s.marks := by
  obtain ⟨new, hn, rfl⟩ := h
  exact Journal.marks_append (fun e he => Event.isMark_of_isAside (hn e he)) s.journal

end Told

theorem record_told (s : Scene) {e : Event} (h : e.isAside = true) : s.Told (s.record e) :=
  ⟨[⟨s.now, e⟩], by simpa using h, rfl⟩

theorem tellAll_told (s : Scene) {ns : List Notice} (h : ∀ n ∈ ns, (Event.notice n).isAside = true) :
    s.Told (s.tellAll ns) := by
  induction ns generalizing s with
  | nil => exact .refl s
  | cons n ns ih =>
    have first := s.record_told (h n List.mem_cons_self)
    exact first.trans (ih (s.tell n) fun n' hn => h n' (List.mem_cons_of_mem n hn))

/-! ## Processes -/

/-- Between the two scenes only something was done to processes. -/
def Handled (s s' : Scene) : Prop :=
  ∃ ps : List Process, ps.length = s.processes.length ∧ s' = { s with processes := ps }

namespace Handled

variable {s s' s'' : Scene}

theorem refl (s : Scene) : s.Handled s := ⟨s.processes, rfl, rfl⟩

theorem trans (h : s.Handled s') (h' : s'.Handled s'') : s.Handled s'' := by
  obtain ⟨ps, hl, rfl⟩ := h
  obtain ⟨ps', hl', rfl⟩ := h'
  exact ⟨ps', hl'.trans hl, rfl⟩

theorem marks (h : s.Handled s') : s'.marks = s.marks := by
  obtain ⟨ps, -, rfl⟩ := h
  rfl

theorem status (h : s.Handled s') : s'.status = s.status := by
  obtain ⟨ps, -, rfl⟩ := h
  rfl

theorem pending (h : s.Handled s') : s'.pending = s.pending := by
  obtain ⟨ps, -, rfl⟩ := h
  rfl

theorem replies (h : s.Handled s') : s'.replies = s.replies := by
  obtain ⟨ps, -, rfl⟩ := h
  rfl

theorem cancelled (h : s.Handled s') : s'.cancelled = s.cancelled := by
  obtain ⟨ps, -, rfl⟩ := h
  rfl

end Handled

theorem onProcess_handled (s : Scene) (pid : Nat) (f : Process → Process) :
    s.Handled (s.onProcess pid f) :=
  ⟨_, List.length_modify _ _ _, rfl⟩

theorem hear_handled (s : Scene) (session : Session) : s.Handled (s.hear session) := by
  unfold hear
  split
  · exact .refl s
  · exact s.onProcess_handled _ _

theorem cancelSession_handled (s : Scene) (session : Session) :
    s.Handled (s.cancelSession session) := by
  unfold cancelSession
  split
  · exact .refl s
  · exact s.onProcess_handled _ _

theorem releaseSession_handled (s : Scene) (session : Session) :
    s.Handled (s.releaseSession session) := by
  unfold releaseSession
  split
  · exact .refl s
  · exact s.onProcess_handled _ _

/-! ## Evenness -/

/-- Between the two scenes no process was asked for. -/
structure Calm (s s' : Scene) : Prop where
  processes : s'.processes.length = s.processes.length
  starts : s'.marks.starts = s.marks.starts

/-- Between the two scenes no process was asked for, no start request sent and no settings stored. -/
structure Even (s s' : Scene) : Prop extends Calm s s' where
  asks : s'.marks.asks = s.marks.asks
  stored : s'.marks.stored = s.marks.stored
  settings : s'.settings = s.settings
  policy : s'.policy = s.policy

theorem Calm.refl (s : Scene) : s.Calm s := ⟨rfl, rfl⟩

theorem Calm.trans {s s' s'' : Scene} (h : s.Calm s') (h' : s'.Calm s'') : s.Calm s'' :=
  ⟨h'.processes.trans h.processes, h'.starts.trans h.starts⟩

namespace Even

variable {s s' s'' : Scene}

theorem trans (h : s.Even s') (h' : s'.Even s'') : s.Even s'' where
  toCalm := h.toCalm.trans h'.toCalm
  asks := h'.asks.trans h.asks
  stored := h'.stored.trans h.stored
  settings := h'.settings.trans h.settings
  policy := h'.policy.trans h.policy

theorem of_same (premises : s'.premises = s.premises) (marks : s'.marks = s.marks) : s.Even s' where
  processes := congrArg (fun p => p.1.length) premises
  starts := congrArg Marks.starts marks
  asks := congrArg Marks.asks marks
  stored := congrArg Marks.stored marks
  settings := congrArg (fun p => p.2.1) premises
  policy := congrArg (fun p => p.2.2.1) premises

theorem of_told (h : s.Told s') : s.Even s' := of_same h.premises h.marks

theorem of_handled (h : s.Handled s') : s.Even s' := by
  obtain ⟨ps, hl, rfl⟩ := h
  exact ⟨⟨hl, rfl⟩, rfl, rfl, rfl, rfl⟩

end Even

theorem pointAt_even (s : Scene) (ip : IpAddress) (route : Route) (keep : Bool) :
    s.Even (s.pointAt ip route keep) :=
  ⟨⟨rfl, rfl⟩, rfl, rfl, rfl, rfl⟩

end Scene

namespace Teardown

theorem begin_handled {s s' : Scene} {session : Session} {t : Option Teardown}
    (h : Teardown.begin s session = (s', t)) : s.Handled s' := by
  unfold Teardown.begin at h
  split at h
  · cases h
    exact .refl s
  · dsimp only at h
    split at h <;> cases h
    · exact .trans (s.onProcess_handled _ _) (Scene.onProcess_handled _ _ _)
    · exact s.onProcess_handled _ _

theorem resume_handled {t : Teardown} {s s' : Scene} {t' : Option Teardown}
    (h : t.resume s = some (s', t')) : s.Handled s' := by
  cases t with
  | stopping pid =>
    obtain ⟨note, -, hv⟩ := Option.map_eq_some_iff.1 h
    cases hv
    exact .trans (s.onProcess_handled _ _) (Scene.onProcess_handled _ _ _)
  | joining pid =>
    simp only [Teardown.resume] at h
    split at h
    · cases h
      exact .refl s
    · cases h

theorem release_handled (t : Teardown) (s : Scene) : s.Handled (t.release s) := by
  cases t with
  | stopping pid => exact s.onProcess_handled _ _
  | joining pid => exact .refl s

end Teardown

theorem Attempt.release_handled (a : Attempt) (s : Scene) : s.Handled (a.release s) := by
  cases a with
  | refreshing r => exact .refl s
  | starting pid keep => exact .refl s
  | pointing pid | probing pid _ => exact s.onProcess_handled _ _
  | clearing f t => exact t.release_handled s

/-- Where the watch is dropped, something is done to processes, and perhaps a request is forsaken. -/
theorem Watch.release_handled (s : Scene) (p : Phase) :
    ∃ s', s.Handled s' ∧ (release s p = s' ∨ ∃ t, release s p = s'.forsake t) := by
  cases p with
  | retreating after =>
    cases after with
    | halt session t => exact ⟨_, s.releaseSession_handled session, .inr ⟨t, rfl⟩⟩
    | recover session f => exact ⟨_, s.releaseSession_handled session, .inl rfl⟩
    | _ => exact ⟨s, .refl s, .inl rfl⟩
  | attempting a => exact ⟨_, a.release_handled s, .inl rfl⟩
  | pausing deadline after =>
    cases after with
    | attempt => exact ⟨s, .refl s, .inl rfl⟩
    | recover session => exact ⟨_, s.releaseSession_handled session, .inl rfl⟩
  | serving session => exact ⟨_, s.releaseSession_handled session, .inl rfl⟩
  | halting session t => exact ⟨_, s.releaseSession_handled session, .inr ⟨t, rfl⟩⟩
  | clearing t after =>
    rcases after with _ | _ | reply
    · exact ⟨_, t.release_handled s, .inl rfl⟩
    · exact ⟨_, t.release_handled s, .inl rfl⟩
    · exact ⟨_, t.release_handled s, .inr ⟨reply, rfl⟩⟩
  | _ => exact ⟨s, .refl s, .inl rfl⟩

theorem Watch.premises_drop (w : Watch) :
    w.drop.scene.premises = (release w.scene w.phase).premises := by
  unfold drop close
  dsimp only
  cases w.mailbox with
  | none => exact Scene.premises_hold _ _
  | some r => exact (Scene.premises_forsake _ _).trans (Scene.premises_hold _ _)

theorem Watch.marks_drop (w : Watch) : w.drop.scene.marks = w.scene.marks := by
  have released : (release w.scene w.phase).marks = w.scene.marks := by
    obtain ⟨s, handled, h | ⟨t, h⟩⟩ := release_handled w.scene w.phase
    · rw [h, handled.marks]
    · rw [h, Scene.marks_forsake, handled.marks]
  have held := (Scene.marks_hold (release w.scene w.phase) none).trans released
  unfold drop close
  dsimp only
  cases w.mailbox with
  | none => exact held
  | some r => exact (Scene.marks_forsake _ _).trans held

theorem Watch.status_drop (w : Watch) : w.drop.scene.status = w.scene.status := by
  have released : (release w.scene w.phase).status = w.scene.status := by
    obtain ⟨s, handled, h | ⟨t, h⟩⟩ := release_handled w.scene w.phase
    · rw [h, handled.status]
    · rw [h, Scene.status_forsake, handled.status]
  have held := (Scene.status_hold (release w.scene w.phase) none).trans released
  unfold drop close
  dsimp only
  cases w.mailbox with
  | none => exact held
  | some r => exact (Scene.status_forsake _ _).trans held

theorem Watch.pending_drop (w : Watch) : w.drop.scene.pending = none := by
  unfold drop close
  dsimp only
  cases w.mailbox with
  | none => exact Scene.pending_hold _ _
  | some r => exact (Scene.pending_forsake _ _).trans (Scene.pending_hold _ _)

theorem Watch.mailbox_drop (w : Watch) : w.drop.mailbox = none := by
  unfold drop close
  cases w.mailbox <;> rfl

/-- Where the watch is dropped, no process is asked for. -/
theorem Watch.drop_even (w : Watch) : w.scene.Even w.drop.scene := by
  obtain ⟨s, handled, h⟩ := release_handled w.scene w.phase
  have premises : w.drop.scene.premises = s.premises := by
    rw [w.premises_drop]
    obtain h | ⟨t, h⟩ := h
    · rw [h]
    · rw [h, Scene.premises_forsake]
  exact (Scene.Even.of_handled handled).trans
    (.of_same premises (w.marks_drop.trans handled.marks.symm))

namespace Refresh

theorem begin_told (s : Scene) : s.Told (Refresh.begin s).1 :=
  .trans (s.record_told rfl) (Scene.record_told _ rfl)

theorem resume_told {r : Refresh} {a : Answer} {s s' : Scene} {n : Next}
    (h : r.resume a s = some (s', n)) : s.Told s' := by
  unfold resume at h
  split at h <;> cases h
  · exact .refl _
  · exact .trans (Scene.record_told _ rfl) (Scene.record_told _ rfl)
  · refine .trans (Scene.tellAll_told _ fun n hn => ?_) (Scene.record_told _ rfl)
    obtain ⟨f, -, rfl⟩ := List.mem_map.1 hn
    rfl
  · exact .refl _

end Refresh

end DnsWarden
