import DnsWarden.Proofs.Cancellation
import DnsWarden.Proofs.Owing

/-!
# The moods of the watch

As long as nothing goes wrong, the watch is in one of a few moods: it has no resolver and is asked for
none, it has one, or it sees to a request.  `Stance.Feels` says which mood a stance is one of, and
`Mood.Change` how moods follow one another and which replies that gives.  Strides and answers that are no
failures lead from mood to mood: `Watch.resume_mood`.
-/

namespace DnsWarden

/-- What the watch is about while nothing goes wrong. -/
inductive Mood where
  /-- No resolver is up, and none is asked for. -/
  | rest
  /-- A resolver is up, and nobody has asked to stop it. -/
  | up
  /-- A resolver is asked for, and the watch has not looked whether one is wanted. -/
  | asked (t : Ticket)
  /-- A resolver is asked for, and the watch has seen that none is wanted. -/
  | unwanted (t : Ticket)
  /-- The watch brings the resolver up that is asked for. -/
  | venture (t : Ticket)
  /-- The watch is asked to stop its resolver. -/
  | halting (t : Ticket)

namespace Mood

/-- The request that the watch sees to. -/
def request? : Mood → Option Request
  | .rest | .up => none
  | .asked t | .unwanted t | .venture t => some (.start t)
  | .halting t => some (.stop t)

/-- The mood to which a request leads. -/
def of : Request → Mood
  | .start t => .asked t
  | .stop t => .halting t

/-- How the mood changes with the replies, by whether a resolver is wanted. -/
inductive Change (wanted : Bool) : Mood × List Reply → Mood × List Reply → Prop where
  | decline {t l} (declines : wanted = false) : Change wanted (.asked t, l) (.unwanted t, l)
  | venture {t l} (ventures : wanted = true) : Change wanted (.asked t, l) (.venture t, l)
  | refuse {t l} : Change wanted (.unwanted t, l) (.rest, l.set t (.given .stopped))
  | arrive {t l} : Change wanted (.venture t, l) (.up, l.set t (.given .running))
  | halt {t l} : Change wanted (.halting t, l) (.rest, l.set t (.given .stopped))

/-- Several changes of the mood. -/
abbrev Changes (wanted : Bool) : Mood × List Reply → Mood × List Reply → Prop :=
  Relation.ReflTransGen (Change wanted)

end Mood

/-! ## Running processes -/

namespace Scene

variable {s s' : Scene} {pid : Nat}

/-- A process runs and was not told to stop. -/
def Runs (s : Scene) (pid : Nat) : Prop :=
  ∃ p, s.processes[pid]? = some p ∧ p.stage = .up ∧ p.cancelled = false

theorem Runs.of_processes (h : s.Runs pid) (same : s'.processes = s.processes) : s'.Runs pid := by
  unfold Runs
  rw [same]
  exact h

theorem Runs.of_premises (h : s.Runs pid) (same : s'.premises = s.premises) : s'.Runs pid :=
  h.of_processes (congrArg Prod.fst same)

/-- A process that runs has given no notice of its end. -/
theorem Runs.no_note (h : s.Runs pid) (note : ExitNote) : s.sessionNote? (.of pid) ≠ some note := by
  intro ended
  obtain ⟨p, found, up, -⟩ := h
  obtain ⟨p', found', hn⟩ := Option.bind_eq_some_iff.1 (show s.note? pid = some note from ended)
  obtain rfl := Option.some.inj (found.symm.trans found')
  cases up.symm.trans (Process.note?_eq_some.1 hn).1

theorem Runs.live (h : s.Runs pid) : 0 < s.live := by
  obtain ⟨p, found, up, -⟩ := h
  exact List.countP_pos_iff.2 ⟨p, List.mem_of_getElem? found, by simp [Process.isUp, up]⟩

/-- A process that was asked for runs once it is started. -/
theorem Sole.runs (h : s.Sole (some pid) Process.IsAsked) :
    (s.onProcess pid fun p => { p with stage := .up }).Runs pid := by
  obtain ⟨p, found, asked⟩ := h.held pid rfl
  refine ⟨{ p with stage := .up }, ?_, rfl, asked.2.1⟩
  simp only [Scene.onProcess, List.getElem?_modify_eq, found, Option.map_eq_map, Option.map_some]

end Scene

/-! ## Places -/

/-- The watch waits for a start request, or is on its way to wait for the first one. -/
inductive Stand.IsDown (s : Scene) : Stand → Prop where
  | unborn : IsDown s (.waiting .unborn)
  | retreating {failed} : IsDown s (.retreating failed .idle)
  | pointing : IsDown s (.waiting (.retreating .idle))
  | resuming : IsDown s (.resuming .idle)
  | idle : IsDown s (.waiting .idle)
  | serving {session} (left : ¬ s.Keeps session) : IsDown s (.waiting (.serving session))

/-- The watch ends its session for a start request. -/
inductive Stand.Returns (t : Ticket) : Stand → Prop where
  | clear {session} : Returns t (.clearing session (.restart (some t)))
  | clearing {td} : Returns t (.waiting (.clearing td (.restart (some t))))
  | ending : Returns t (.ending (.restart (some t)))

/-- The watch is about to look whether a resolver is wanted. -/
inductive Stand.Rises : Stand → Prop where
  | cycling : Rises .cycling
  | retreating {failed} : Rises (.retreating failed .attempt)
  | pointing : Rises (.waiting (.retreating .attempt))
  | resuming : Rises (.resuming .attempt)
  | attempting : Rises .attempting

/-- The watch has seen that no resolver is wanted. -/
inductive Stand.Declines : Stand → Prop where
  | retreating {failed} : Declines (.retreating failed .disable)
  | pointing : Declines (.waiting (.retreating .disable))
  | resuming : Declines (.resuming .disable)

/-- The watch stops its process for a stop request. -/
inductive Stand.Halts (t : Ticket) : Stand → Prop where
  | retreating {failed session} : Halts t (.retreating failed (.halt session t))
  | pointing {session} : Halts t (.waiting (.retreating (.halt session t)))
  | resuming {session} : Halts t (.resuming (.halt session t))
  | halting {session} : Halts t (.waiting (.halting session t))

/-- The attempt has not failed, and its process runs once it was started. -/
def Attempt.Ventures (s : Scene) : Attempt → Prop
  | .refreshing _ | .starting _ _ => True
  | .pointing pid | .probing pid _ => s.Runs pid
  | .clearing _ _ => False

/-- The stance is one of the mood. -/
inductive Stance.Feels : Mood → Stance → Prop where
  | down {st s} (place : st.IsDown s) (free : s.pending = none) (stopped : s.status = .stopped) :
    Feels .rest ⟨st, s, none⟩
  | up {s pid} (runs : s.Runs pid) (free : s.pending = none) (running : s.status = .running) :
    Feels .up ⟨.waiting (.serving (.of pid)), s, none⟩
  | asked {st s t} (place : st.IsDown s) (free : s.pending = none) :
    Feels (.asked t) ⟨st, s, some (.start t)⟩
  | returning {st s t} (place : st.Returns t) (free : s.pending = none) : Feels (.asked t) ⟨st, s, none⟩
  | rising {st s t} (place : st.Rises) (held : s.pending = some t) : Feels (.asked t) ⟨st, s, none⟩
  | declining {st s t} (place : st.Declines) (held : s.pending = some t) :
    Feels (.unwanted t) ⟨st, s, none⟩
  | venturing {a s t} (place : a.Ventures s) (held : s.pending = some t) :
    Feels (.venture t) ⟨.waiting (.attempting a), s, none⟩
  | told {s pid t} (runs : s.Runs pid) (free : s.pending = none) :
    Feels (.halting t) ⟨.waiting (.serving (.of pid)), s, some (.stop t)⟩
  | halting {st s t} (place : st.Halts t) (free : s.pending = none) : Feels (.halting t) ⟨st, s, none⟩

/-! ## Strides -/

section

variable {x y : Stance} {s : Scene} {m : Mood} {t : Ticket}

theorem Scene.replies_hold_of_free (free : s.pending = none) (t : Option Ticket) :
    (s.hold t).replies = s.replies := by
  simp only [Scene.hold, free]

theorem Scene.replies_answerPending_of_held (held : s.pending = some t) (x : Status) :
    (s.answerPending x).replies = s.replies.set t (.given x) := by
  simp only [Scene.answerPending, held]
  rfl

/-- From a stance of the mood the watch goes on to one of a mood that follows. -/
def Mood.Leads (m : Mood) (x y : Stance) : Prop :=
  ∃ m', y.Feels m' ∧
    Mood.Changes x.scene.settings.enabled (m, x.scene.replies) (m', y.scene.replies)

theorem Mood.Leads.stay (feels : y.Feels m) (same : y.scene.replies = x.scene.replies) :
    m.Leads x y :=
  ⟨m, feels, same ▸ .refl⟩

theorem Mood.Leads.trans {z : Stance} (h : m.Leads x z)
    (settings : z.scene.settings = x.scene.settings)
    (more : ∀ m', z.Feels m' → m'.Leads z y) : m.Leads x y := by
  obtain ⟨m₁, feels₁, changes⟩ := h
  obtain ⟨m₂, feels₂, further⟩ := more m₁ feels₁
  rw [settings] at further
  exact ⟨m₂, feels₂, changes.trans further⟩

/-! The watch was not told to end, so in each mood only the strides are left that see to it. -/

theorem Stride.mood_down {st : Stand} (h : Stride ⟨st, s, none⟩ y)
    (tends : Stance.Tends ⟨st, s, none⟩) (going : s.cancelled = false) (place : st.IsDown s)
    (free : s.pending = none) (stopped : s.status = .stopped) :
    Mood.rest.Leads ⟨st, s, none⟩ y := by
  cases place with
  | unborn =>
    cases h
    exact .stay (.down .retreating free stopped) rfl
  | retreating =>
    cases h with
    | retreat => exact .stay (.down .pointing free stopped) rfl
    | strand => exact .stay (.down .resuming free stopped) rfl
  | pointing =>
    cases h with
    | retreated => exact .stay (.down .resuming (by simpa) (by simpa)) (by simp)
  | resuming =>
    cases h
    exact .stay (.down .idle free stopped) rfl
  | idle =>
    cases h with
    | cancelIdle cancelled => cases cancelled.symm.trans going
  | serving left =>
    cases h with
    | cancelServing cancelled | lostCancelled _ cancelled => cases cancelled.symm.trans going
    | lost note => exact absurd (Scene.Sole.keeps_of_note tends note) left

theorem Stride.mood_asked {st : Stand} (h : Stride ⟨st, s, some (.start t)⟩ y)
    (tends : Stance.Tends ⟨st, s, some (.start t)⟩) (going : s.cancelled = false)
    (place : st.IsDown s) (free : s.pending = none) :
    (Mood.asked t).Leads ⟨st, s, some (.start t)⟩ y := by
  cases place with
  | unborn =>
    cases h
    exact .stay (.asked .retreating free) rfl
  | retreating =>
    cases h with
    | retreat => exact .stay (.asked .pointing free) rfl
    | strand => exact .stay (.asked .resuming free) rfl
  | pointing =>
    cases h with
    | retreated => exact .stay (.asked .resuming (by simpa)) (by simp)
  | resuming =>
    cases h
    exact .stay (.asked .idle free) rfl
  | idle =>
    cases h with
    | cancelIdle cancelled => cases cancelled.symm.trans going
    | startIdle =>
      have same := Scene.replies_hold_of_free (s := s.record (.received (.start t))) free (some t)
      exact .stay (.rising .cycling (by simp)) same
  | serving left =>
    cases h with
    | cancelServing cancelled | lostCancelled _ cancelled => cases cancelled.symm.trans going
    | lost note => exact absurd (Scene.Sole.keeps_of_note tends note) left
    | startServing => exact .stay (.returning .clear free) rfl

theorem Stride.mood_returning {st : Stand} (h : Stride ⟨st, s, none⟩ y) (place : st.Returns t)
    (free : s.pending = none) : (Mood.asked t).Leads ⟨st, s, none⟩ y := by
  cases place with
  | clear =>
    cases h with
    | clear ends =>
      have handled := Teardown.begin_handled ends
      exact .stay (.returning .clearing (handled.pending.trans free)) handled.replies
    | clearEmpty => exact .stay (.returning .ending free) rfl
  | clearing =>
    cases h with
    | clearing ends =>
      have handled := Teardown.resume_handled ends
      exact .stay (.returning .clearing (handled.pending.trans free)) handled.replies
    | cleared ends =>
      have handled := Teardown.resume_handled ends
      exact .stay (.returning .ending (handled.pending.trans free)) handled.replies
  | ending =>
    cases h
    exact .stay (.rising .cycling (by simp)) (Scene.replies_hold_of_free free _)

theorem Stride.mood_rising {st : Stand} (h : Stride ⟨st, s, none⟩ y) (going : s.cancelled = false)
    (place : st.Rises) (held : s.pending = some t) : (Mood.asked t).Leads ⟨st, s, none⟩ y := by
  cases place with
  | cycling =>
    cases h with
    | giveUp cancelled => cases cancelled.symm.trans going
    | cycle => exact .stay (.rising .retreating held) rfl
  | retreating =>
    cases h with
    | retreat => exact .stay (.rising .pointing held) rfl
    | strand => exact .stay (.rising .resuming held) rfl
  | pointing =>
    cases h with
    | retreated => exact .stay (.rising .resuming (by simpa)) (by simp)
  | resuming =>
    cases h
    exact .stay (.rising .attempting held) rfl
  | attempting =>
    cases h with
    | giveUpAttempt _ cancelled => cases cancelled.symm.trans going
    | attempt enabled => exact ⟨_, .venturing trivial (by simpa), .single (.venture enabled)⟩
    | unwanted enabled => exact ⟨_, .declining .retreating held, .single (.decline enabled)⟩

theorem Stride.mood_declining {st : Stand} (h : Stride ⟨st, s, none⟩ y) (place : st.Declines)
    (held : s.pending = some t) : (Mood.unwanted t).Leads ⟨st, s, none⟩ y := by
  cases place with
  | retreating =>
    cases h with
    | retreat => exact .stay (.declining .pointing held) rfl
    | strand => exact .stay (.declining .resuming held) rfl
  | pointing =>
    cases h with
    | retreated => exact .stay (.declining .resuming (by simpa)) (by simp)
  | resuming =>
    cases h with
    | disable =>
      refine ⟨.rest, .down (.serving (Scene.not_keeps_empty _)) (by simp) (by simp), ?_⟩
      rw [Scene.replies_answerPending_of_held (by simpa), Scene.replies_setStatus]
      exact .single .refuse

/-- Once its process is told to stop, the watch answers the stop request and is at rest. -/
theorem Mood.Leads.halted {st : Stand} {session : Session} {s' : Scene} (handled : s.Handled s')
    (left : ¬ s'.Keeps session) (free : s.pending = none) :
    (Mood.halting t).Leads ⟨st, s, none⟩
      ⟨.waiting (.serving session), (s'.setStatus .stopped).answer t .stopped, none⟩ := by
  refine ⟨.rest, .down (.serving (Scene.not_keeps_answered left t))
    (by simpa using handled.pending.trans free) (by simp), ?_⟩
  show Mood.Changes _ _ (_, (s'.setStatus .stopped).replies.set t _)
  rw [Scene.replies_setStatus, handled.replies]
  exact .single .halt

theorem Stride.mood_halting {st : Stand} (h : Stride ⟨st, s, none⟩ y) (place : st.Halts t)
    (free : s.pending = none) : (Mood.halting t).Leads ⟨st, s, none⟩ y := by
  cases place with
  | retreating =>
    cases h with
    | retreat => exact .stay (.halting .pointing free) rfl
    | strand => exact .stay (.halting .resuming free) rfl
  | pointing =>
    cases h with
    | retreated => exact .stay (.halting .resuming (by simpa)) (by simp)
  | @resuming session =>
    cases h with
    | halt =>
      have handled := s.cancelSession_handled session
      exact .stay (.halting .halting (handled.pending.trans free)) handled.replies
    | haltQuiet =>
      exact .halted (s.cancelSession_handled session) Scene.not_keeps_cancelSession free
  | @halting session =>
    cases h with
    | halted => exact .halted (s.hear_handled session) Scene.not_keeps_hear free

/-- A stride of a watch that was not told to end and is at no attempt leads from mood to mood. -/
theorem Stride.mood (h : Stride x y) (tends : x.Tends) (going : x.scene.cancelled = false)
    (feels : x.Feels m) (early : ∀ t, m ≠ .venture t) : m.Leads x y := by
  cases feels with
  | down place free stopped => exact h.mood_down tends going place free stopped
  | asked place free => exact h.mood_asked tends going place free
  | returning place free => exact h.mood_returning place free
  | rising place held => exact h.mood_rising going place held
  | declining place held => exact h.mood_declining place held
  | venturing => exact absurd rfl (early _)
  | halting place free => exact h.mood_halting place free
  | up runs =>
    cases h with
    | cancelServing cancelled | lostCancelled _ cancelled => cases cancelled.symm.trans going
    | lost note => exact absurd note (runs.no_note _)
  | told runs free =>
    cases h with
    | cancelServing cancelled | lostCancelled _ cancelled => cases cancelled.symm.trans going
    | lost note => exact absurd note (runs.no_note _)
    | stopServing => exact .stay (.halting .retreating free) rfl

/-- On its way to the next wait a watch that was not told to end goes on from mood to mood. -/
theorem Walk.mood (h : Walk x y) (tends : x.Tends) (going : x.scene.cancelled = false)
    (feels : x.Feels m) : m.Leads x y := by
  induction h generalizing m with
  | wait => exact .stay feels rfl
  | go onWay first rest ih =>
    refine (first.mood tends going feels ?_).trans first.settings fun m' feels' =>
      ih (first.tends tends) (first.cancelled.trans going) feels'
    rintro t rfl
    cases feels
    cases onWay

/-- From one wait to the next, unless it is at an attempt, the watch goes on from mood to mood. -/
theorem Tread.mood (h : Tread x y) (tends : x.Tends) (going : x.scene.cancelled = false)
    (feels : x.Feels m) (early : ∀ t, m ≠ .venture t) : m.Leads x y := by
  obtain ⟨z, first, rest⟩ := h
  exact (first.mood tends going feels early).trans first.settings fun m' feels' =>
    rest.mood (first.tends tends) (first.cancelled.trans going) feels'

/-- From one wait to the next no settings are stored, and the watch is not told to end. -/
theorem Tread.frame (h : Tread x y) :
    y.scene.cancelled = x.scene.cancelled ∧ y.scene.settings = x.scene.settings :=
  h.keep (J := fun z => z.scene.cancelled = x.scene.cancelled ∧ z.scene.settings = x.scene.settings)
    (fun _ _ goes same => ⟨goes.cancelled.trans same.1, goes.settings.trans same.2⟩) ⟨rfl, rfl⟩

end

/-! ## Answers -/

/-- Whether an answer says that something failed without which no resolver comes up. -/
def Answer.isFailure : Answer → Bool
  | .filesSetUp failure | .configWritten failure => failure.isSome
  | .started failure => failure.isSome
  | .probed failure => failure.isSome
  | .listsBuilt _ | .systemPointed _ => false

/-- Whether an input says that something failed, or that a probe took too long. -/
def Input.isFailure : Input → Bool
  | .elapsed => true
  | .answer a => a.isFailure
  | _ => false

theorem Refresh.resume_fine {r : Refresh} {a : Answer} {s s' : Scene} {f : RefreshFault}
    (fine : a.isFailure = false) : r.resume a s ≠ some (s', .done (some f)) := by
  intro h
  cases r with
  | settingUp settings =>
    rcases a with (_ | f) | _ | _ | _ | _ | _ <;> cases h
    cases fine
  | building settings => rcases a with _ | _ | _ | _ | _ | _ <;> cases h
  | writing =>
    rcases a with _ | _ | (_ | f) | _ | _ | _ <;> cases h
    cases fine

/-- Unless something fails, an attempt goes on, or the resolver is up and the start request answered. -/
theorem Attempt.resume_fine {a : Attempt} {i : Input} {s s' : Scene} {n : Attempt.Next}
    (h : a.resume i s = some (s', n)) (fine : i.isFailure = false) (place : a.Ventures s)
    (tends : s.Shows a.hand) :
    (∃ a', n = .waiting a' ∧ a'.Ventures s' ∧ s'.pending = s.pending ∧ s'.replies = s.replies) ∨
      ∃ pid, n = .ready pid ∧ s'.Runs pid ∧ s'.pending = none ∧ s'.status = .running ∧
        ∀ t, s.pending = some t → s'.replies = s.replies.set t (.given .running) := by
  cases a with
  | refreshing r =>
    rcases i with _ | _ | _ | _ | a <;> try cases h
    obtain ⟨⟨s₁, n₁⟩, goes, hn⟩ := Option.map_eq_some_iff.1 h
    have told := Refresh.resume_told goes
    rcases n₁ with r' | _ | f <;> cases hn
    · exact .inl ⟨_, rfl, trivial, told.pending, told.replies⟩
    · exact .inl ⟨_, rfl, trivial, told.pending, told.replies⟩
    · exact absurd goes (Refresh.resume_fine fine)
  | starting pid keep =>
    rcases i with _ | _ | _ | _ | a <;> try cases h
    rcases a with _ | _ | _ | (_ | f) | _ | _ <;> cases h
    · exact .inl ⟨_, rfl, (Scene.Sole.runs tends).of_premises (by simp), rfl, rfl⟩
    · cases fine
  | pointing pid =>
    rcases i with _ | _ | _ | _ | a <;> try cases h
    rcases a with _ | _ | _ | _ | failure | _ <;> cases h
    have runs : s.Runs pid := place
    exact .inl ⟨_, rfl, runs.of_premises (by simp), by simp, by simp⟩
  | probing pid deadline =>
    rcases i with _ | _ | _ | _ | a <;> try cases h
    · cases fine
    rcases a with _ | _ | _ | _ | _ | (_ | f) <;> try cases h
    · have runs : s.Runs pid := place
      have premises : ((s.ready.setStatus .running).answerPending .running).premises = s.premises := by
        simp
      refine .inr ⟨pid, rfl, runs.of_premises premises, by simp, by simp, fun t held => ?_⟩
      have same := Scene.replies_answerPending_of_held (s := s.ready.setStatus .running)
        (by simpa using held) .running
      rwa [Scene.replies_setStatus] at same
    · cases fine
  | clearing f t => exact False.elim place

/-- Unless something fails, a watch that was not told to end goes on from mood to mood. -/
theorem Watch.resume_mood {w v : Watch} {i : Input} {m : Mood} (h : w.resume i = some v)
    (fine : i.isFailure = false) (tends : w.stance.Tends) (going : w.scene.cancelled = false)
    (feels : w.stance.Feels m) : m.Leads w.stance v.stance := by
  cases m with
  | venture t =>
    obtain ⟨s, p, mailbox⟩ := w
    obtain ⟨a, rfl, rfl, place, held⟩ : ∃ a, p = .attempting a ∧ mailbox = none ∧ a.Ventures s ∧
        s.pending = some t := by
      cases feels with
      | venturing place held => exact ⟨_, rfl, rfl, place, held⟩
    obtain ⟨⟨s', n⟩, goes, hv⟩ := Option.map_eq_some_iff.1 h
    obtain ⟨a', rfl, place', pending, replies⟩ | ⟨pid, rfl, runs, free, running, replies⟩ :=
      Attempt.resume_fine goes fine place tends
    · cases hv
      refine ⟨.venture t, .venturing place' (pending.trans held), ?_⟩
      show Mood.Changes _ (_, s.replies) (_, s'.replies)
      rw [replies]
    · cases hv
      refine ⟨.up, .up runs free running, ?_⟩
      show Mood.Changes _ (_, s.replies) (_, s'.replies)
      rw [replies t held]
      exact .single .arrive
  | _ => exact (resume_tread h).mood tends going feels (by rintro t ⟨⟩)

/-! ## Rest -/

/-- No process runs where no resolver is up and none is asked for. -/
theorem Stance.Feels.stopped {x : Stance} (feels : x.Feels .rest) (tends : x.Tends) :
    x.scene.status = .stopped ∧ x.scene.live = 0 := by
  cases feels with
  | down place _ stopped =>
    refine ⟨stopped, Scene.Still.live (tends.still ?_ ?_)⟩
    · cases place with
      | serving left => exact left
      | _ => trivial
    · cases place <;> rintro ⟨⟩

/-- One process runs where a resolver is up. -/
theorem Stance.Feels.running {x : Stance} (feels : x.Feels .up) (tends : x.Tends) :
    x.scene.status = .running ∧ x.scene.live = 1 := by
  cases feels with
  | up runs _ running => exact ⟨running, Nat.le_antisymm (Scene.Shows.live_le_one tends) runs.live⟩

/-! ## The surroundings -/

/-- What the moods depend on is the same in two scenes. -/
structure Scene.Near (s s' : Scene) : Prop where
  status : s'.status = s.status
  pending : s'.pending = s.pending
  left : ∀ session, ¬ s.Keeps session → ¬ s'.Keeps session
  runs : ∀ pid, s.Runs pid → s'.Runs pid

namespace Scene.Near

variable {s s' : Scene}

theorem of_processes (processes : s'.processes = s.processes) (status : s'.status = s.status)
    (pending : s'.pending = s.pending) : s.Near s' where
  status := status
  pending := pending
  left _ := mt fun kept => kept.of_processes processes.symm
  runs _ runs := runs.of_processes processes

/-- Something happens to a process, which does not end unless it was told to stop. -/
theorem onProcess {pid : Nat} {f : Process → Process}
    (same : ∀ p, s.processes[pid]? = some p → (f p).cancelled = p.cancelled ∧ (f p).heard = p.heard ∧
      (p.cancelled = false → (f p).stage = p.stage)) : s.Near (s.onProcess pid f) where
  status := rfl
  pending := rfl
  left _ := mt fun ⟨i, q, held, found, kept, unheard⟩ => by
    by_cases here : pid = i
    · subst here
      simp only [Scene.onProcess, List.getElem?_modify_eq] at found
      obtain ⟨p, found', rfl⟩ := Option.map_eq_some_iff.1 found
      obtain ⟨cancelled, heard, -⟩ := same p found'
      exact ⟨pid, p, held, found', cancelled.symm.trans kept, heard.symm.trans unheard⟩
    · simp only [Scene.onProcess, List.getElem?_modify_ne _ _ here] at found
      exact ⟨i, q, held, found, kept, unheard⟩
  runs i runs := by
    obtain ⟨p, found, up, kept⟩ := runs
    by_cases here : pid = i
    · subst here
      obtain ⟨cancelled, -, stage⟩ := same p found
      refine ⟨f p, ?_, (stage kept).trans up, cancelled.trans kept⟩
      simp only [Scene.onProcess, List.getElem?_modify_eq, found, Option.map_eq_map, Option.map_some]
    · refine ⟨p, ?_, up, kept⟩
      simp only [Scene.onProcess, List.getElem?_modify_ne _ _ here, found]

theorem isDown (h : s.Near s') {st : Stand} (place : st.IsDown s) : st.IsDown s' := by
  cases place with
  | serving left => exact .serving (h.left _ left)
  | unborn => exact .unborn
  | retreating => exact .retreating
  | pointing => exact .pointing
  | resuming => exact .resuming
  | idle => exact .idle

theorem ventures (h : s.Near s') {a : Attempt} (place : a.Ventures s) : a.Ventures s' := by
  cases a with
  | refreshing _ | starting _ _ => trivial
  | pointing pid | probing pid _ => exact h.runs pid place
  | clearing _ _ => exact False.elim place

/-- The mood stays where nothing changes on which it depends. -/
theorem feels (h : s.Near s') {m : Mood} {st : Stand} {mailbox : Option Request}
    (feels : Stance.Feels m ⟨st, s, mailbox⟩) : Stance.Feels m ⟨st, s', mailbox⟩ := by
  have free : s.pending = none → s'.pending = none := h.pending.trans
  cases feels with
  | down place none stopped => exact .down (h.isDown place) (free none) (h.status.trans stopped)
  | up runs none running => exact .up (h.runs _ runs) (free none) (h.status.trans running)
  | asked place none => exact .asked (h.isDown place) (free none)
  | returning place none => exact .returning place (free none)
  | rising place held => exact .rising place (h.pending.trans held)
  | declining place held => exact .declining place (h.pending.trans held)
  | venturing place held => exact .venturing (h.ventures place) (h.pending.trans held)
  | told runs none => exact .told (h.runs _ runs) (free none)
  | halting place none => exact .halting place (free none)

end Scene.Near

/-! ## The desk -/

/-- How far a client can have come with a change of status, by the mood and the replies. -/
def Ask.Suits (m : Mood) (l : List Reply) (desired : Status) : Ask → Prop
  | .arriving | .queued => True
  | .reading => m.request? = none
  | .sending r => m.request? = none ∧ (desired = .running ↔ m = .rest) ∧ r.desired = desired ∧
    l[r.ticket]? = some .awaited
  | .awaiting t =>
    (∃ r, m.request? = some r ∧ r.ticket = t ∧ r.desired = desired ∧ l[t]? = some .awaited) ∨
      m.request? = none ∧ (desired = .stopped → m = .rest) ∧ ∃ x, l[t]? = some (.given x)

/-- What one step of a client at the desk is for the mood and the replies. -/
inductive Ask.Goes (desired : Status) :
    Ask → Mood × List Reply → Ask.Next → Mood × List Reply → Prop where
  | join {x} : Goes desired .arriving x (.waiting .queued) x
  | turn {x} : Goes desired .queued x (.waiting .reading) x
  | write {m l r} (ticket : r.ticket = l.length) (same : r.desired = desired)
    (needed : desired = .running ↔ m = .rest) :
    Goes desired .reading (m, l) (.waiting (.sending r)) (m, l ++ [.awaited])
  | already {m l x} (needless : desired = .stopped ↔ m = .rest) :
    Goes desired .reading (m, l) (.done (.ok (.already x))) (m, l)
  | post {m l r} :
    Goes desired (.sending r) (m, l) (.waiting (.awaiting r.ticket)) (.of r, l)
  | told {m l t x} (given : l[t]? = some (.given x)) :
    Goes desired (.awaiting t) (m, l) (.done (.ok (.changed x))) (m, l)

/-- While the watch sees to no request, its status tells whether a resolver is up. -/
theorem Stance.Feels.status {m : Mood} {x : Stance} (feels : x.Feels m) (idle : m.request? = none) :
    x.scene.status = .stopped ↔ m = .rest := by
  cases feels with
  | down _ _ stopped => exact iff_of_true stopped rfl
  | up _ _ running =>
    refine iff_of_false (fun stopped => ?_) (by rintro ⟨⟩)
    cases running.symm.trans stopped
  | _ => cases idle

/-- While the watch sees to no request, it still takes requests. -/
theorem Stance.Feels.isOpen {w : Watch} {m : Mood} (feels : w.stance.Feels m)
    (idle : m.request? = none) : w.isOpen = true := by
  obtain ⟨s, p, mailbox⟩ := w
  have driven : p ≠ .returned ∧ p ≠ .dropped := by
    cases feels with
    | down place => cases place <;> exact ⟨by rintro ⟨⟩, by rintro ⟨⟩⟩
    | up => exact ⟨by rintro ⟨⟩, by rintro ⟨⟩⟩
    | _ => cases idle
  simp [Watch.isOpen, driven]

/-- A request that is put into the mailbox where it is needed leads to its mood. -/
theorem Stance.Feels.post {p : Phase} {s : Scene} {mailbox : Option Request} {m : Mood} {r : Request}
    (feels : Stance.Feels m ⟨.waiting p, s, mailbox⟩) (idle : m.request? = none)
    (needed : r.desired = .running ↔ m = .rest) :
    Stance.Feels (.of r) ⟨.waiting p, s.record (.sent r), some r⟩ := by
  have near : s.Near (s.record (.sent r)) := .of_processes rfl rfl rfl
  cases feels with
  | down place free =>
    cases r with
    | start t => exact near.feels (.asked place free)
    | stop t => cases needed.2 rfl
  | up runs free =>
    cases r with
    | start t => cases needed.1 rfl
    | stop t => exact near.feels (.told runs free)
  | _ => cases idle

/-- A step of a client at the desk does to the mood and the replies what it can do there. -/
theorem Desk.step_goes {d d' : Desk} {c : Client} {desired : Status} {a : Ask} {n : Ask.Next}
    {m : Mood} (h : d.step c desired a = some (d', n)) (known : desired ≠ .crashed)
    (feels : d.watch.stance.Feels m) (suits : a.Suits m d.scene.replies desired) :
    d'.scene.premises = d.scene.premises ∧ ∃ m', d'.watch.stance.Feels m' ∧
      a.Goes desired (m, d.scene.replies) n (m', d'.scene.replies) := by
  cases a with
  | arriving =>
    cases h
    exact ⟨rfl, m, feels, .join⟩
  | queued =>
    simp only [step] at h
    split_ifs at h
    cases h
    exact ⟨rfl, m, feels, .turn⟩
  | reading =>
    have status : d.scene.status = .stopped ↔ m = .rest := feels.status suits
    have opened : d.scene.Near d.scene.openReply.1 := .of_processes rfl rfl rfl
    simp only [step, Option.some.injEq, decide] at h
    cases desired with
    | running =>
      dsimp only at h
      split_ifs at h with stopped <;> cases h
      · exact ⟨rfl, m, opened.feels feels, .write rfl rfl (iff_of_true rfl (status.1 stopped))⟩
      · exact ⟨rfl, m, feels, .already (iff_of_false (by rintro ⟨⟩) (mt status.2 stopped))⟩
    | stopped =>
      dsimp only at h
      split_ifs at h with stopped <;> cases h
      · exact ⟨rfl, m, feels, .already (iff_of_true rfl (status.1 stopped))⟩
      · exact ⟨rfl, m, opened.feels feels,
          .write rfl rfl (iff_of_false (by rintro ⟨⟩) (mt status.2 stopped))⟩
    | crashed => exact absurd rfl known
  | sending r =>
    obtain ⟨idle, needed, rfl, awaited⟩ := suits
    have isOpen := feels.isOpen idle
    obtain ⟨⟨s, p, mailbox⟩, q⟩ := d
    simp only [step, isOpen, Bool.not_true, Bool.false_eq_true, if_false] at h
    split_ifs at h
    cases h
    exact ⟨rfl, .of r, feels.post idle needed, .post⟩
  | awaiting t =>
    obtain ⟨r, -, -, -, awaited⟩ | ⟨-, -, x, given⟩ := suits
    · simp only [step, awaited] at h
      cases h
    · simp only [step, given] at h
      cases h
      exact ⟨rfl, m, feels, .told given⟩

end DnsWarden
