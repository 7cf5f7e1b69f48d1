import DnsWarden.Proofs.AttemptAccounts
import DnsWarden.Proofs.Trails

/-!
# One attempt

What one attempt does, whatever the scene that it begins on, whatever the collaborators answer and however
long they take, and whatever others do meanwhile.  `Attempt.Course` lists what can happen up to the wait
where it stands, or to its end, and `Attempt.Resumes` what one step can be.  `Attempt.Stage` says what is
known at each wait, and `Attempt.Leaves` what a step leaves behind.  The main statement,
`Attempt.ends_in_one_of_four_ways`, says also that every course can be brought to its end, in eight steps
at most.
-/

namespace DnsWarden

/-! ## Stages -/

namespace Attempt

/-- What a failed attempt that had a process has done, whatever has become of the process. -/
structure Failing (s t : Scene) (account : Account) : Prop where
  status : t.status = .crashed
  gave : s.Gave t .crashed
  account : t.account = account.answer .crashed

/-- What is known where an attempt waits that began on the scene `s`. -/
def Stage (s t : Scene) : Attempt → Prop
  | .refreshing _ =>
    t.account = s.account.begun ∧ t.processes.length = s.processes.length ∧ (s.Still → t.Still)
  | .starting pid _ =>
    s.Brought t pid Process.IsAsked ∧ ∃ detail, t.account = s.account.begun.call (.start detail)
  | .pointing pid =>
    s.Brought t pid Process.IsRunning ∧ ∃ detail keep, t.account = s.account.begun.pointed detail keep
  | .probing pid _ =>
    s.Brought t pid Process.IsRunning ∧ ∃ detail keep, t.account = s.account.begun.probed detail keep
  | .clearing _ (.stopping pid) =>
    s.Brought t pid Process.IsStopping ∧ ∃ detail keep, Failing s t (s.account.begun.probed detail keep)
  | .clearing _ (.joining pid) =>
    s.Brought t pid Process.IsJoining ∧ ∃ detail keep, Failing s t (s.account.begun.probed detail keep)

/-- What is known after a step of an attempt that began on the scene `s`. -/
def Leaves (s t : Scene) : Next → Prop
  | .waiting a => s.replies.length ≤ t.replies.length ∧ Stage s t a
  | .failed (.refresh _) =>
    t.status = .crashed ∧ t.account = s.account.begun ∧ t.processes.length = s.processes.length ∧
      (s.Still → t.Still)
  | .failed (.start _) =>
    s.Brought t s.processes.length Process.IsRefused ∧
      ∃ detail, Failing s t (s.account.begun.call (.start detail))
  | .failed (.probe _) =>
    s.Brought t s.processes.length Process.IsJoined ∧
      ∃ detail keep, Failing s t (s.account.begun.probed detail keep)
  | .failed (.ended _) => False
  | .ready pid =>
    s.Brought t pid Process.IsRunning ∧ t.status = .running ∧ s.Gave t .running ∧
      ∃ detail keep, t.account = (s.account.begun.probed detail keep).ready

/-- What can happen in an attempt that begins on the scene `s`, up to the wait where it stands or to its
end, with what has ended its waits.  Meanwhile others work on the scene, but no process ends that was
not told to. -/
inductive Course (s : Scene) : List Input → Scene → Next → Prop where
  | begin : Course s [] (Attempt.begin s).1 (.waiting (Attempt.begin s).2)
  | meanwhile {is a t t' m m'} (h : Course s is t (.waiting a))
    (nudge : Nudge ⟨.waiting (.attempting a), t, m⟩ ⟨.waiting (.attempting a), t', m'⟩)
    (spares : t.Spares t') : Course s is t' (.waiting a)
  | resume {is a i t t' n} (h : Course s is t (.waiting a)) (goes : a.resume i t = some (t', n)) :
    Course s (is ++ [i]) t' n

variable {s t t' : Scene} {a : Attempt} {i : Input} {is : List Input} {n : Next}

theorem Failing.nudge {x y : Stance} {account : Account} (h : Failing s x.scene account)
    (goes : Nudge x y) : Failing s y.scene account := by
  refine ⟨?_, goes.gave h.gave, goes.account.trans h.account⟩
  obtain same | crashed := goes.status_stays
  · exact same.trans h.status
  · exact crashed

theorem Stage.nudge {x y : Stance} (h : Stage s x.scene a) (goes : Nudge x y)
    (spares : x.scene.Spares y.scene) : Stage s y.scene a := by
  cases a with
  | refreshing r =>
    obtain ⟨account, count, still⟩ := h
    exact ⟨goes.account.trans account, goes.calm.processes.trans count, fun hs => goes.still (still hs)⟩
  | starting pid keep =>
    obtain ⟨brought, detail, account⟩ := h
    exact ⟨brought.nudge goes Process.lasts_isAsked, detail, goes.account.trans account⟩
  | pointing pid | probing pid _ =>
    obtain ⟨brought, detail, keep, account⟩ := h
    exact ⟨brought.nudge_running goes spares, detail, keep, goes.account.trans account⟩
  | clearing f td =>
    cases td with
    | stopping pid =>
      obtain ⟨brought, detail, keep, failing⟩ := h
      exact ⟨brought.nudge goes Process.lasts_isStopping, detail, keep, failing.nudge goes⟩
    | joining pid =>
      obtain ⟨brought, detail, keep, failing⟩ := h
      exact ⟨brought.nudge goes Process.lasts_isJoining, detail, keep, failing.nudge goes⟩

/-! ### Steps -/

/-- What a step of an attempt can be. -/
inductive Resumes (t : Scene) : Attempt → Input → Scene × Next → Prop where
  | refreshing {r r' x u} (goes : r.resume x t = some (u, .waiting r')) :
    Resumes t (.refreshing r) (.answer x) (u, .waiting (.refreshing r'))
  | refreshed {r x u failure} (goes : r.resume x t = some (u, .done failure)) :
    Resumes t (.refreshing r) (.answer x) (refreshed u failure)
  | started {pid keep failure} :
    Resumes t (.starting pid keep) (.answer (.started failure)) (started t pid keep failure)
  | pointed {pid failure} : Resumes t (.pointing pid) (.answer (.systemPointed failure))
      (pointed t pid failure)
  | probed {pid deadline i} (failure : Option ProbeFault) :
    Resumes t (.probing pid deadline) i (probed t pid failure)
  | clearing {f td td' u} (goes : td.resume t = some (u, some td')) :
    Resumes t (.clearing f td) .ended (u, .waiting (.clearing f td'))
  | cleared {f td u} (goes : td.resume t = some (u, none)) :
    Resumes t (.clearing f td) .ended (fail u (.probe f))

theorem resumes {x : Scene × Next} (goes : a.resume i t = some x) : Resumes t a i x := by
  cases a with
  | refreshing r =>
    cases i with
    | answer x =>
      obtain ⟨⟨u, n⟩, onward, rfl⟩ := Option.map_eq_some_iff.1 goes
      cases n with
      | waiting r' => exact .refreshing onward
      | done failure => exact .refreshed onward
    | _ => cases goes
  | starting pid keep =>
    rcases i with _ | _ | _ | _ | x <;> try cases goes
    cases x <;> cases goes
    exact .started
  | pointing pid =>
    rcases i with _ | _ | _ | _ | x <;> try cases goes
    cases x <;> cases goes
    exact .pointed
  | probing pid deadline =>
    rcases i with _ | _ | _ | _ | x <;> try cases goes
    · simp only [resume] at goes
      split_ifs at goes
      cases goes
      exact .probed _
    · cases x <;> cases goes
      exact .probed _
  | clearing f td =>
    cases i with
    | ended =>
      obtain ⟨⟨u, td'⟩, onward, rfl⟩ := Option.map_eq_some_iff.1 goes
      cases td' with
      | some td' => exact .clearing onward
      | none => exact .cleared onward
    | _ => cases goes

/-- An attempt whose stage is known leaves its start request and its replies where they were. -/
theorem Failing.answer {account : Account} (held : t.account = account)
    (pending : account.pending = s.pending) (more : s.replies.length ≤ t.replies.length) :
    Failing s ((t.setStatus .crashed).answerPending .crashed) account := by
  have waits : (t.setStatus .crashed).pending = s.pending := by
    rw [Scene.pending_setStatus]
    exact (congrArg Account.pending held).trans pending
  refine ⟨by simp, Scene.gave_answerPending waits (by simpa using more) _, ?_⟩
  rw [Scene.account_answerPending, Scene.account_setStatus, held]

theorem refreshed_leaves {r : Refresh} (h : Stage s t (.refreshing r)) (failure : Option RefreshFault)
    (more : s.replies.length ≤ t.replies.length) :
    Leaves s (refreshed t failure).1 (refreshed t failure).2 := by
  obtain ⟨account, count, still⟩ := h
  cases failure with
  | none =>
    exact ⟨more, .requestProcess count still _, t.settings.resolver.detail,
      congrArg (Account.call · (.start t.settings.resolver.detail)) account⟩
  | some f =>
    have same : (refreshed t (some f)).1.premises = t.premises := by simp [refreshed, fail]
    refine ⟨by simp [refreshed, fail], ?_, ?_, fun quiet => (still quiet).of_premises same⟩
    · exact (Scene.account_attemptEnded _ _).trans ((Scene.account_setStatus _ _).trans account)
    · exact (congrArg (fun q => List.length (Prod.fst q)) same).trans count

theorem started_leaves {pid : Nat} {keep : Bool} (h : Stage s t (.starting pid keep))
    (failure : Option EngineFault) (more : s.replies.length ≤ t.replies.length) :
    Leaves s (started t pid keep failure).1 (started t pid keep failure).2 := by
  obtain ⟨brought, detail, account⟩ := h
  cases failure with
  | none =>
    have resolver : t.policy.resolverAddress = s.policy.resolverAddress :=
      congrArg (fun a : Account => a.policy.resolverAddress) account
    have running := brought.handle (f := fun p => { p with stage := .up }) (R := Process.IsRunning)
      (fun _ hp => ⟨rfl, .inl rfl, hp.2⟩) fun _ => .inl rfl
    refine ⟨more, running.of_premises (Scene.premises_pointAt _ _ _ _), detail, keep, ?_⟩
    dsimp only [started]
    rw [Scene.account_pointAt, Scene.account_onProcess, account]
    simp only [Scene.onProcess, resolver]
    rfl
  | some f =>
    obtain rfl := brought.fresh
    have brought := brought.handle (f := fun p => { p with stage := .refused, cancelled := true })
      (R := Process.IsRefused) (fun _ _ => ⟨rfl, rfl⟩) fun _ => .inl rfl
    obtain ⟨status, gave, account⟩ := Failing.answer (s := s) (t := t.onProcess s.processes.length
      fun p => { p with stage := .refused, cancelled := true }) account rfl more
    exact ⟨brought.of_premises (by simp [started, fail]), detail, status, gave, account⟩

theorem pointed_leaves {pid : Nat} (h : Stage s t (.pointing pid)) (failure : Option NameserverFault)
    (more : s.replies.length ≤ t.replies.length) :
    Leaves s (pointed t pid failure).1 (pointed t pid failure).2 := by
  obtain ⟨brought, detail, keep, account⟩ := h
  refine ⟨by simpa [pointed] using more, brought.of_premises (by simp [pointed]), detail, keep, ?_⟩
  dsimp only [pointed]
  rw [Scene.account_probe, Scene.account_systemPointed, account]
  rfl

theorem probed_leaves {pid deadline : Nat} (h : Stage s t (.probing pid deadline))
    (failure : Option ProbeFault) (more : s.replies.length ≤ t.replies.length) :
    Leaves s (probed t pid failure).1 (probed t pid failure).2 := by
  obtain ⟨brought, detail, keep, account⟩ := h
  cases failure with
  | none =>
    have waits : (t.ready.setStatus .running).pending = s.pending := by
      rw [Scene.pending_setStatus]
      exact congrArg Account.pending account
    refine ⟨brought.of_processes t.processes_vouched, t.status_vouched, ?_, detail, keep, ?_⟩
    · exact Scene.gave_answerPending waits (by simpa using more) _
    · exact t.account_vouched.trans (congrArg Account.ready account)
  | some f =>
    have failing := Failing.answer account rfl more
    have same : ((t.setStatus .crashed).answerPending .crashed).premises = t.premises := by simp
    obtain ⟨p, found, ⟨-, kept⟩, -⟩ := brought.held
    have unheard : (((t.setStatus .crashed).answerPending .crashed).onProcess pid .cancel).heard pid =
        false := by
      have found' : ((t.setStatus .crashed).answerPending .crashed).processes[pid]? = some p :=
        (congrArg (fun q : List Process × Settings × Policy × Bool => q.1[pid]?) same).trans found
      simp [Scene.heard, Scene.onProcess, found', Process.cancel, kept.2.2.1]
    have stopping := (brought.of_premises same).handle (fun _ hp => hp.2.cancel) fun _ => .inl rfl
    have many : s.replies.length ≤ ((t.setStatus .crashed).answerPending .crashed).replies.length := by
      rw [Scene.replies_answerPending]
      cases (t.setStatus .crashed).pending <;> simpa using more
    simp only [probed, Teardown.begin, Session.of, unheard]
    exact ⟨many, stopping, detail, keep, failing.status, failing.gave, failing.account⟩

/-- The process has ended, and its collector is told to close. -/
theorem clearing_leaves {f : ProbeFault} {td td' : Teardown} {u : Scene}
    (h : Stage s t (.clearing f td)) (goes : td.resume t = some (u, some td'))
    (more : s.replies.length ≤ t.replies.length) : Leaves s u (.waiting (.clearing f td')) := by
  cases td with
  | joining pid =>
    simp only [Teardown.resume] at goes
    split_ifs at goes
    cases goes
  | stopping pid =>
    obtain ⟨brought, detail, keep, failing⟩ := h
    obtain ⟨note, ended, same⟩ := Option.map_eq_some_iff.1 goes
    cases same
    refine ⟨more, ?_, detail, keep, failing.status, failing.gave, failing.account⟩
    have heard : s.Brought (t.onProcess pid .hear) pid Process.HasEnded := by
      refine brought.onProcess (fun _ p found hp reached => ⟨?_, reached⟩)
        fun other => absurd rfl other
      obtain ⟨p', found', noted⟩ := Option.bind_eq_some_iff.1 ended
      obtain rfl := Option.some.inj (found'.symm.trans found)
      exact hp.hear noted
    exact heard.handle (fun _ hp => ⟨hp, rfl⟩) fun _ => .inr rfl

/-- The collector has finished. -/
theorem cleared_leaves {f : ProbeFault} {td : Teardown} {u : Scene} (h : Stage s t (.clearing f td))
    (goes : td.resume t = some (u, none)) : Leaves s (fail u (.probe f)).1 (fail u (.probe f)).2 := by
  cases td with
  | stopping pid =>
    obtain ⟨note, -, same⟩ := Option.map_eq_some_iff.1 goes
    cases same
  | joining pid =>
    obtain ⟨brought, detail, keep, failing⟩ := h
    simp only [Teardown.resume] at goes
    split_ifs at goes with collected
    cases goes
    obtain rfl := brought.fresh
    refine ⟨?_, detail, keep, failing.status, failing.gave, failing.account⟩
    obtain ⟨fresh, count, ⟨p, found, hp, reached⟩, others⟩ := brought
    have past : p.collector.isOver = true := by simpa [Scene.collected, found] using collected
    have finished : p.collector.finished = true := by
      simpa [Collector.isOver, hp.1.2.2.2] using past
    exact ⟨fresh, count, ⟨p, found, ⟨hp, finished⟩, reached⟩, others⟩

theorem Stage.refresh {r : Refresh} (r' : Refresh) {x : Answer} {u : Scene} {m : Refresh.Next}
    (goes : r.resume x t = some (u, m)) (h : Stage s t (.refreshing r))
    (more : s.replies.length ≤ t.replies.length) :
    s.replies.length ≤ u.replies.length ∧ Stage s u (.refreshing r') := by
  obtain ⟨account, count, still⟩ := h
  have told := Refresh.resume_told goes
  exact ⟨told.replies ▸ more, told.account.trans account,
    (congrArg List.length (congrArg Prod.fst told.premises)).trans count,
    fun quiet => (still quiet).of_premises told.premises⟩

theorem Stage.resume {x : Scene × Next} (h : Stage s t a) (more : s.replies.length ≤ t.replies.length)
    (step : Resumes t a i x) : Leaves s x.1 x.2 := by
  cases step with
  | refreshing goes => exact Stage.refresh _ goes h more
  | @refreshed r _ _ failure goes =>
    obtain ⟨more, stage⟩ := Stage.refresh r goes h more
    exact refreshed_leaves stage failure more
  | @started _ _ failure => exact started_leaves h failure more
  | @pointed _ failure => exact pointed_leaves h failure more
  | probed failure => exact probed_leaves h failure more
  | clearing goes => exact clearing_leaves h goes more
  | cleared goes => exact cleared_leaves h goes

theorem Course.leaves (h : Course s is t n) : Leaves s t n := by
  induction h with
  | begin => exact ⟨Nat.le_refl _, rfl, rfl, id⟩
  | meanwhile _ nudge spares ih =>
    obtain ⟨more, stage⟩ := ih
    exact ⟨Nat.le_trans more nudge.replies_length, stage.nudge nudge spares⟩
  | resume _ goes ih =>
    obtain ⟨more, stage⟩ := ih
    exact stage.resume more (resumes goes)

/-! ## The way to the end -/

/-- How many steps an attempt still takes at most. -/
def steps : Attempt → Nat
  | .refreshing (.settingUp _) => 8
  | .refreshing (.building _) => 7
  | .refreshing .writing => 6
  | .starting _ _ => 5
  | .pointing _ => 4
  | .probing _ _ => 3
  | .clearing _ (.stopping _) => 2
  | .clearing _ (.joining _) => 1

def Next.steps : Next → Nat
  | .waiting a => a.steps
  | _ => 0

/-- Whether an attempt is over. -/
def Next.isOver : Next → Bool
  | .waiting _ => false
  | _ => true

theorem Resumes.steps {x : Scene × Next} (step : Resumes t a i x) : x.2.steps < a.steps := by
  cases step with
  | @refreshing r _ x _ goes =>
    cases r <;> rcases x with (_ | f) | _ | _ | _ | _ | _ <;> cases goes <;>
      simp [Next.steps, Attempt.steps]
  | @refreshed r _ _ failure _ =>
    cases r <;> cases failure <;> simp [Attempt.refreshed, fail, Next.steps, Attempt.steps]
  | @started _ _ failure =>
    cases failure <;> simp [Attempt.started, fail, Next.steps, Attempt.steps]
  | pointed => exact Nat.lt_succ_self 3
  | @probed pid _ _ failure =>
    cases failure with
    | none => exact Nat.zero_lt_succ 2
    | some f =>
      obtain ⟨td, failed⟩ : ∃ td, (Attempt.probed t pid (some f)).2 = .waiting (.clearing f td) :=
        probed_failed rfl
      rw [failed]
      cases td <;> simp [Next.steps, Attempt.steps]
  | @clearing f td td' u goes =>
    cases td with
    | stopping pid =>
      obtain ⟨note, -, same⟩ := Option.map_eq_some_iff.1 goes
      cases same
      exact Nat.lt_succ_self 1
    | joining pid =>
      simp only [Teardown.resume] at goes
      split_ifs at goes
      cases goes
  | @cleared f td _ _ => cases td <;> simp [fail, Next.steps, Attempt.steps]

/-- An attempt takes eight steps at most. -/
theorem Course.length_le (h : Course s is t n) : is.length + n.steps ≤ 8 := by
  induction h with
  | begin => exact Nat.le_refl 8
  | meanwhile _ _ _ ih => exact ih
  | resume _ goes ih =>
    rw [List.length_append, List.length_singleton, Nat.add_assoc, Nat.add_comm 1]
    exact Nat.le_trans (Nat.add_le_add_left (resumes goes).steps _) ih

end Attempt

/-- The call that an answer is to. -/
def Answer.query : Answer → Query
  | .filesSetUp _ => .setUpFiles
  | .listsBuilt _ => .buildLists
  | .configWritten _ => .writeConfig
  | .started _ => .start
  | .systemPointed _ => .pointSystem
  | .probed _ => .probe

theorem Scene.Spares.onProcess {s : Scene} {pid : Nat} {p q : Process}
    (found : s.processes[pid]? = some p) (allowed : p.cancelled = true ∨ q.stage = p.stage) :
    s.Spares (s.onProcess pid fun _ => q) := by
  intro i p' found' up kept
  by_cases here : pid = i
  · subst here
    obtain rfl := Option.some.inj (found.symm.trans found')
    refine ⟨q, ?_, (allowed.resolve_left (by simp [kept])).trans up⟩
    simp only [Scene.onProcess, List.getElem?_modify_eq, found, Option.map_eq_map, Option.map_some]
  · exact ⟨p', (List.getElem?_modify_ne _ _ here).trans found', up⟩

namespace Attempt

variable {s t t' : Scene} {a : Attempt} {i : Input} {is : List Input} {n : Next}

/-- Every answer to the call that an attempt waits for lets it go on. -/
theorem resume_answer {x : Answer} (asked : a.query? = some x.query) (t : Scene) :
    (a.resume (.answer x) t).isSome = true := by
  cases a with
  | refreshing r => cases r <;> rcases x with (_ | f) | _ | _ | _ | _ | _ <;> first | rfl | cases asked
  | clearing f td => cases asked
  | _ => cases x <;> first | rfl | cases asked

/-- The collector of a process goes on by itself. -/
theorem Course.collects (h : Course s is t (.waiting a)) {pid : Nat} {p : Process} {c : Collector}
    (found : t.processes[pid]? = some p)
    (moves : Relation.ReflTransGen Collector.Moves p.collector c) :
    ∃ u, Course s is u (.waiting a) ∧ u.processes[pid]? = some { p with collector := c } := by
  induction moves with
  | refl => exact ⟨t, h, found⟩
  | @tail b c _ last ih =>
    obtain ⟨u, course, found'⟩ := ih
    obtain ⟨m, line, stepped⟩ := last
    have goes : Course s is _ (.waiting a) :=
      course.meanwhile (m := none) (.drift found' (.collect stepped)) (.onProcess found' (.inr rfl))
    refine ⟨_, goes, ?_⟩
    simp only [Scene.onProcess, List.getElem?_modify_eq, found', Option.map_eq_map, Option.map_some]

/-- What the collaborators answer to each call; only the prober may leave a call unanswered. -/
structure Replies where
  reply : Query → Option Answer
  fits : ∀ q x, reply q = some x → x.query = q
  answers : ∀ q, q ≠ .probe → (reply q).isSome = true

/-- The input is no answer but that of the collaborators. -/
def Replies.Allows (r : Replies) (i : Input) : Prop := ∀ x, i = .answer x → r.reply x.query = some x

/-- An attempt that waits for a collaborator goes on with its answer, or since the time is up. -/
theorem Course.asks (h : Course s is t (.waiting a)) (r : Replies) {q : Query}
    (asked : a.query? = some q) :
    ∃ i u v n, Course s is u (.waiting a) ∧ a.resume i u = some (v, n) ∧ r.Allows i := by
  cases replied : r.reply q with
  | some x =>
    obtain rfl := r.fits q x replied
    obtain ⟨⟨v, n⟩, goes⟩ := Option.isSome_iff_exists.1 (resume_answer asked t)
    refine ⟨_, t, v, n, h, goes, fun x' same => ?_⟩
    cases same
    exact replied
  | none =>
    obtain rfl : q = .probe := by
      by_contra other
      have answered := r.answers q other
      simp [replied] at answered
    cases a with
    | probing pid deadline =>
      have waited : Course s is (t.pass deadline) (.waiting (.probing pid deadline)) :=
        h.meanwhile (m := none) .pass fun _ p found up _ => ⟨p, found, up⟩
      have due : deadline ≤ (t.pass deadline).now := Nat.le_add_left _ _
      exact ⟨.elapsed, _, _, _, waited, if_pos due, nofun⟩
    | refreshing r => cases r <;> cases asked
    | starting | pointing | clearing => cases asked

theorem resume_clearing {f : ProbeFault} {td : Teardown} (ends : (td.resume t).isSome = true) :
    ((clearing f td).resume .ended t).isSome = true := by
  change (Option.map _ (td.resume t)).isSome = true
  rw [Option.isSome_map]
  exact ends

/-- A process that was told to stop ends, and its collector finishes. -/
theorem Course.clears {f : ProbeFault} {td : Teardown} (h : Course s is t (.waiting (.clearing f td))) :
    ∃ u, Course s is u (.waiting (.clearing f td)) ∧ (td.resume u).isSome = true := by
  have stage := h.leaves.2
  cases td with
  | stopping pid =>
    obtain ⟨p, found, ⟨begun, cancelled, unheard, -⟩, -⟩ := stage.1.held
    obtain up | ⟨note, down⟩ := begun
    · have exits : p.Drift { p with stage := .down .clean } := .exit up
      refine ⟨_, h.meanwhile (m := none) (.drift found exits) (.onProcess found (.inl cancelled)), ?_⟩
      simp [Teardown.resume, Scene.note?, Scene.onProcess, found, Process.note?, unheard]
    · exact ⟨t, h, by simp [Teardown.resume, Scene.note?, found, Process.note?, down, unheard]⟩
  | joining pid =>
    obtain ⟨p, found, ⟨⟨-, -, -, kept⟩, told⟩, reached⟩ := stage.1.held
    obtain ⟨c, moves, finished, -⟩ := reached.finishes told kept
    obtain ⟨u, course, found'⟩ := h.collects found moves
    exact ⟨u, course, by simp [Teardown.resume, Scene.collected, found', Collector.isOver, finished]⟩

/-- Every attempt can be brought to its end, whatever the collaborators answer from now on. -/
theorem Course.exists_end (h : Course s is t n) (r : Replies) :
    ∃ js u n', Course s (is ++ js) u n' ∧ n'.isOver = true ∧ ∀ i ∈ js, r.Allows i := by
  obtain ⟨k, hk⟩ : ∃ k, n.steps = k := ⟨_, rfl⟩
  induction k using Nat.strongRecOn generalizing is t n with
  | ind k ih =>
    cases n with
    | ready pid => exact ⟨[], t, .ready pid, by rwa [List.append_nil], rfl, nofun⟩
    | failed f => exact ⟨[], t, .failed f, by rwa [List.append_nil], rfl, nofun⟩
    | waiting a =>
      have step : ∃ i u v n', Course s is u (.waiting a) ∧ a.resume i u = some (v, n') ∧
          r.Allows i := by
        cases asked : a.query? with
        | some q => exact h.asks r asked
        | none =>
          cases a with
          | clearing f td =>
            obtain ⟨u, course, ends⟩ := h.clears
            obtain ⟨⟨v, n'⟩, goes⟩ := Option.isSome_iff_exists.1 (resume_clearing (f := f) ends)
            exact ⟨.ended, u, v, n', course, goes, nofun⟩
          | _ => cases asked
      obtain ⟨i, u, v, n', course, goes, allowed⟩ := step
      obtain ⟨js, w, n'', rest, finished, allowed'⟩ :=
        ih n'.steps (hk ▸ (resumes goes).steps) (course.resume goes) rfl
      refine ⟨i :: js, w, n'', by rwa [List.append_assoc] at rest, finished, fun j hj => ?_⟩
      obtain rfl | hj := List.mem_cons.1 hj
      · exact allowed
      · exact allowed' j hj

end Attempt

/-! ## Endings -/

/-- Where a call points the warden's own lookups. -/
def Call.target? : Call → Option (IpAddress × Route)
  | .pointInternally ip route => some (ip, route)
  | _ => none

theorem Journal.internalTarget?_eq (j : Journal) :
    j.internalTarget? = j.outward.findSome? Call.target? := by
  induction j with
  | nil => rfl
  | cons e j ih =>
    obtain ⟨t, e⟩ := e
    cases e with
    | call c => cases c <;> first | exact ih | rfl
    | _ => exact ih

/-- The start request that waited on the first scene, if there was one, was answered once. -/
structure Scene.Answered (s t : Scene) (status : Status) : Prop where
  pending : t.pending = none
  answers : t.journal.answers =
    s.pending.elim s.journal.answers fun x => (x, status) :: s.journal.answers
  gave : s.Gave t status

namespace Attempt

variable {s t : Scene} {is : List Input} {n : Next}

theorem Failing.answered {account : Account} (h : Failing s t account)
    (pending : account.pending = s.pending) (answers : account.answers = s.journal.answers) :
    s.Answered t .crashed := by
  refine ⟨congrArg Account.pending h.account, ?_, h.gave⟩
  rw [← pending, ← answers]
  exact congrArg Account.answers h.account

/--
A finished attempt has been counted, and has ended in one of four ways.  The refresh of the files failed:
the status is crashed, the start request still waits, and nothing was called outwards.  Or the engine
refused the process: the status is crashed and the start request answered so, and the process that was
asked for was told to stop.  Or the resolver was probed and did not answer: the same, and the process has
ended as it was told to, and its lines were collected.  Or a resolver is up: the status is running and the
start request answered so, the delays begin anew with the first, and DNS points at the resolver, whether or
not the system could be pointed there.  After a failure the delays and the sessions are as before, and DNS is to
fall back if it was pointed anywhere.  No attempt takes more than eight steps, and every attempt can be
brought to its end, whatever the collaborators answer.
-/
theorem ends_in_one_of_four_ways (h : Course s is t n) :
    (n.isOver = true → t.tallies.attempts = s.tallies.attempts + 1 ∧
      ((∃ f, n = .failed (.refresh f) ∧ t.status = .crashed ∧ t.pending = s.pending ∧
          t.journal.answers = s.journal.answers ∧ t.journal.outward = s.journal.outward ∧
          t.processes.length = s.processes.length) ∨
        (∃ f detail p, n = .failed (.start f) ∧ t.status = .crashed ∧ s.Answered t .crashed ∧
          t.journal.outward = .start detail :: s.journal.outward ∧
          t.processes[s.processes.length]? = some p ∧ p.stage = .refused ∧ p.cancelled = true) ∨
        (∃ f p, n = .failed (.probe f) ∧ t.status = .crashed ∧ s.Answered t .crashed ∧
          t.processes[s.processes.length]? = some p ∧ (∃ note, p.stage = .down note) ∧
          p.cancelled = true ∧ p.heard = true ∧ p.collector.told = true ∧
          p.collector.finished = true ∧ p.collector.aborted = false) ∨
        (∃ p, n = .ready s.processes.length ∧ t.status = .running ∧ s.Answered t .running ∧
          t.backoff = { s.backoff with current := s.backoff.first } ∧
          t.tallies.sessions = s.tallies.sessions + 1 ∧
          t.processes[s.processes.length]? = some p ∧ p.stage = .up ∧ p.cancelled = false ∧
          (s.live = 0 → t.live = 1) ∧
          t.journal.internalTarget? = some (s.policy.resolverAddress, .encrypted))) ∧
      ∀ f, n = .failed f → t.backoff = s.backoff ∧ t.tallies.sessions = s.tallies.sessions ∧
        (s.live = 0 → t.live = 0) ∧
        ∀ new, t.journal.outward = new ++ s.journal.outward → (∃ c ∈ new, c.isPointing = true) →
          f.callsForPlaintext = true) ∧
    is.length ≤ 8 ∧
    ∀ r : Replies, ∃ js u n', Course s (is ++ js) u n' ∧ n'.isOver = true ∧ ∀ i ∈ js, r.Allows i := by
  have short : is.length ≤ 8 := Nat.le_trans (Nat.le_add_right _ _) h.length_le
  refine ⟨fun ended => ?_, short, h.exists_end⟩
  have leaves := h.leaves
  cases n with
  | waiting a => cases ended
  | ready pid =>
    obtain ⟨brought, status, gave, detail, keep, account⟩ := leaves
    obtain ⟨p, found, ⟨up, kept⟩, -⟩ := brought.held
    have target : t.journal.internalTarget? = some (s.policy.resolverAddress, .encrypted) := by
      rw [Journal.internalTarget?_eq]
      exact congrArg (fun a : Account => a.outward.findSome? Call.target?) account
    have one := brought.live_eq_one
    obtain rfl := brought.fresh
    exact ⟨congrArg Account.attempts account,
      .inr (.inr (.inr ⟨p, rfl, status,
        ⟨congrArg Account.pending account, congrArg Account.answers account, gave⟩,
        congrArg Account.backoff account, congrArg Account.sessions account, found, up, kept.2.1,
        one, target⟩)),
      nofun⟩
  | failed f =>
    cases f with
    | refresh f =>
      obtain ⟨status, account, count, still⟩ := leaves
      have outward : t.journal.outward = s.journal.outward := congrArg Account.outward account
      refine ⟨congrArg Account.attempts account,
        .inl ⟨f, rfl, status, congrArg Account.pending account, congrArg Account.answers account,
          outward, count⟩, ?_⟩
      rintro - ⟨⟩
      refine ⟨congrArg Account.backoff account, congrArg Account.sessions account,
        fun none => (still (Scene.still_of_live none)).live, fun new made => ?_⟩
      obtain rfl : new = [] := List.self_eq_append_left.1 (outward.symm.trans made)
      rintro ⟨c, ⟨⟩, -⟩
    | start f =>
      obtain ⟨brought, detail, failing⟩ := leaves
      have none := brought.live_eq_zero fun p hp => by simp [Process.isUp, hp.1]
      obtain ⟨p, found, ⟨refused, cancelled⟩, -⟩ := brought.held
      have account := failing.account
      refine ⟨congrArg Account.attempts account,
        .inr (.inl ⟨f, detail, p, rfl, failing.status, failing.answered rfl rfl,
          congrArg Account.outward account, found, refused, cancelled⟩), ?_⟩
      rintro - ⟨⟩
      exact ⟨congrArg Account.backoff account, congrArg Account.sessions account, none,
        fun _ _ _ => rfl⟩
    | probe f =>
      obtain ⟨brought, detail, keep, failing⟩ := leaves
      have none := brought.live_eq_zero fun p hp => hp.1.1.isUp
      obtain ⟨p, found, ⟨⟨⟨down, cancelled, heard, kept⟩, told⟩, finished⟩, -⟩ := brought.held
      have account := failing.account
      refine ⟨congrArg Account.attempts account,
        .inr (.inr (.inl ⟨f, p, rfl, failing.status, failing.answered rfl rfl, found, down, cancelled,
          heard, told, finished, kept⟩)), ?_⟩
      rintro - ⟨⟩
      exact ⟨congrArg Account.backoff account, congrArg Account.sessions account, none,
        fun _ _ _ => rfl⟩
    | ended note => exact leaves.elim

/-! ### An attempt that nobody disturbs -/

/-- What comes of an attempt if nothing happens but what ends its waits. -/
def undisturbed (t : Scene) (n : Next) : List Input → Option (Scene × Next)
  | [] => some (t, n)
  | i :: is =>
    match n with
    | .waiting a => (a.resume i t).bind fun (u, n) => undisturbed u n is
    | _ => none

theorem Course.undisturbed {js : List Input} {u : Scene} {n' : Next} (h : Course s is t n)
    (goes : Attempt.undisturbed t n js = some (u, n')) : Course s (is ++ js) u n' := by
  induction js generalizing is t n with
  | nil =>
    cases goes
    rwa [List.append_nil]
  | cons j js ih =>
    cases n with
    | waiting a =>
      obtain ⟨⟨v, m⟩, first, rest⟩ := Option.bind_eq_some_iff.1 goes
      rw [← List.singleton_append, ← List.append_assoc]
      exact ih (h.resume first) rest
    | _ => cases goes

/-- A scene on which a start request waits, after a first attempt has failed. -/
def heldStart : Scene :=
  { Scene.initial {} { enabled := true } fun _ => 0 with
    status := .crashed
    backoff := (Backoff.starting (.ofSeconds 10) .zero fun _ => 0).advance
    pending := some 0
    replies := [.awaited] }

/-- The system cannot be pointed at the resolver, which stops nothing. -/
theorem ends_ready_with_system_unchanged :
    ∃ t, Course heldStart
        [.answer (.filesSetUp none), .answer (.listsBuilt {}), .answer (.configWritten none),
          .answer (.started none), .answer (.systemPointed (some (.io (.os 13)))),
          .answer (.probed none)] t (.ready 0) ∧
      t.tallies.attempts = 1 ∧ t.status = .running ∧ t.backoff.current = .ofSeconds 10 ∧
      heldStart.Answered t .running ∧ t.live = 1 := by
  obtain ⟨t, goes⟩ : ∃ t, undisturbed (begin heldStart).1 (.waiting (begin heldStart).2)
      [.answer (.filesSetUp none), .answer (.listsBuilt {}), .answer (.configWritten none),
        .answer (.started none), .answer (.systemPointed (some (.io (.os 13)))),
        .answer (.probed none)] = some (t, .ready 0) := ⟨_, rfl⟩
  have course := Course.begin.undisturbed goes
  obtain ⟨counted, ways, -⟩ := (ends_in_one_of_four_ways course).1 rfl
  refine ⟨t, course, counted, ?_⟩
  obtain ⟨f, other, -⟩ | ⟨f, -, -, other, -⟩ | ⟨f, -, other, -⟩ |
    ⟨p, -, status, answered, backoff, -, -, -, -, live, -⟩ := ways
  · cases other
  · cases other
  · cases other
  · exact ⟨status, by rw [backoff]; rfl, answered, live rfl⟩

end Attempt

end DnsWarden
