import DnsWarden.Proofs.AfterReturn
import DnsWarden.Proofs.Answers
import DnsWarden.Proofs.Collecting
import DnsWarden.Proofs.Counters
import DnsWarden.Proofs.Vouching

/-!
# What an attempt accounts for

An attempt counts, calls the engine, the nameserver and the prober, answers the start request that waits
and begins the delays anew: its `Account`.  It asks for one process, `Scene.Brought`, and gives one reply,
`Scene.Gave`.  Each of these is said once for each operation that an attempt is made of, and once for what
others do meanwhile.
-/

namespace DnsWarden

/-! ## The account -/

namespace Call

/-- Whether a call goes to the engine, the nameserver or the prober. -/
def isOutward : Call → Bool
  | .start _ | .pointInternally _ _ | .pointSystem _ _ | .probe => true
  | _ => false

/-- Whether a call goes to the nameserver. -/
def isPointing : Call → Bool
  | .pointInternally _ _ | .pointSystem _ _ => true
  | _ => false

end Call

namespace Journal

/-- The calls of the engine, the nameserver and the prober, the newest first. -/
def outward (j : Journal) : List Call := j.calls.filter Call.isOutward

theorem outward_append {new : Journal} (h : ∀ e ∈ new, e.event.isAside = true) (j : Journal) :
    outward (new ++ j) = j.outward := by
  induction new with
  | nil => rfl
  | cons e new ih =>
    have rest := ih fun e' he => h e' (List.mem_cons_of_mem e he)
    have aside := h e List.mem_cons_self
    obtain ⟨t, e⟩ := e
    cases e with
    | call c => cases c <;> first | exact rest | cases aside
    | _ => exact rest

end Journal

/-- What an attempt accounts for, apart from the status and the processes. -/
structure Account where
  attempts : Nat
  sessions : Nat
  backoff : Backoff
  policy : Policy
  pending : Option Ticket
  answers : List (Ticket × Status)
  /-- The calls of the engine, the nameserver and the prober, the newest first. -/
  outward : List Call

namespace Account

def begun (a : Account) : Account := { a with attempts := a.attempts + 1 }

/-- The account after one more outward call. -/
def call (a : Account) (c : Call) : Account := { a with outward := c :: a.outward }

/-- The account after the start request that waits is answered, if there is one. -/
def answer (a : Account) (status : Status) : Account :=
  { a with pending := none, answers := a.pending.elim a.answers fun t => (t, status) :: a.answers }

/-- The account after a good answer to the probe. -/
def ready (a : Account) : Account :=
  { a.answer .running with sessions := a.sessions + 1, backoff := a.backoff.reset }

/-- The account after a process was asked for and DNS pointed at the resolver. -/
def pointed (a : Account) (detail : UInt8) (keep : Bool) : Account :=
  ((a.call (.start detail)).call (.pointInternally a.policy.resolverAddress .encrypted)).call
    (.pointSystem a.policy.resolverAddress keep)

/-- The account after the resolver was probed. -/
def probed (a : Account) (detail : UInt8) (keep : Bool) : Account := (a.pointed detail keep).call .probe

end Account

namespace Scene

def account (s : Scene) : Account where
  attempts := s.tallies.attempts
  sessions := s.tallies.sessions
  backoff := s.backoff
  policy := s.policy
  pending := s.pending
  answers := s.journal.answers
  outward := s.journal.outward

section

variable (s : Scene)

@[simp] theorem account_tell (n : Notice) : (s.tell n).account = s.account := rfl

@[simp] theorem account_attemptEnded (f : Option SessionFault) :
    (s.record (.attemptEnded f)).account = s.account := rfl

@[simp] theorem account_setStatus (x : Status) : (s.setStatus x).account = s.account := by
  unfold setStatus
  split <;> rfl

@[simp] theorem account_systemPointed (failure : Option NameserverFault) :
    (s.systemPointed failure).account = s.account := by
  cases failure <;> rfl

@[simp] theorem account_onProcess (pid : Nat) (f : Process → Process) :
    (s.onProcess pid f).account = s.account := rfl

@[simp] theorem account_probe : (s.call .probe).account = s.account.call .probe := rfl

@[simp] theorem account_pointAt (ip : IpAddress) (route : Route) (keep : Bool) :
    (s.pointAt ip route keep).account =
      (s.account.call (.pointInternally ip route)).call (.pointSystem ip keep) := rfl

@[simp] theorem account_answerPending (x : Status) :
    (s.answerPending x).account = s.account.answer x := by
  unfold answerPending
  split
  · next held => simp [account, Account.answer, held]
  · next held =>
    simp only [account, Account.answer, held, Option.elim_some]
    rfl

theorem account_vouched : s.vouched.account = s.account.ready := by
  have answered : ((s.ready.setStatus .running).answerPending .running).account =
      s.ready.account.answer .running := by
    simp
  exact congrArg (fun a : Account => { a with sessions := a.sessions + 1 }) answered

end

theorem Told.account {s s' : Scene} (h : s.Told s') : s'.account = s.account := by
  have deals := h.deals
  obtain ⟨new, hn, rfl⟩ := h
  have answers : Journal.answers (new ++ s.journal) = s.journal.answers :=
    congrArg (List.filterMap Deal.answer?) deals
  simp only [Scene.account, answers, Journal.outward_append hn]

end Scene

/-- Others neither answer nor call outwards, and leave the counters of an attempt and its delays alone. -/
theorem Nudge.account {x y : Stance} (h : Nudge x y) : y.scene.account = x.scene.account := by
  cases h with
  | told told => exact told.account
  | refreshFailed _ => simp
  | @forsake st s m t =>
    unfold Scene.forsake
    split <;> rfl
  | _ => rfl

/-! ## The process of an attempt -/

/-- The process runs and is not to end. -/
def Process.IsRunning (p : Process) : Prop := p.stage = .up ∧ p.IsKept

/-- The process is not to be, and never was. -/
def Process.IsRefused (p : Process) : Prop := p.stage = .refused ∧ p.cancelled = true

/-- The process has ended as it was told to, and its lines were collected. -/
def Process.IsJoined (p : Process) : Prop := p.IsJoining ∧ p.collector.finished = true

theorem Process.Drift.reached {p q : Process} (h : p.Drift q) (hp : p.collector.Reached) :
    q.collector.Reached := by
  cases h with
  | exit _ => exact hp
  | print written => exact hp.write? written
  | hangUp => exact hp.hangUp _
  | collect stepped => exact hp.moves ⟨_, _, stepped⟩

namespace Scene

/-- No process ends that was not told to. -/
def Spares (s s' : Scene) : Prop :=
  ∀ (pid : Nat) (p : Process), s.processes[pid]? = some p → p.stage = .up → p.cancelled = false →
    ∃ q, s'.processes[pid]? = some q ∧ q.stage = .up

/-- An attempt that began on the scene `s` has asked for one process, of which `Q` holds. -/
structure Brought (s t : Scene) (pid : Nat) (Q : Process → Prop) : Prop where
  fresh : pid = s.processes.length
  count : t.processes.length = s.processes.length + 1
  held : ∃ p, t.processes[pid]? = some p ∧ Q p ∧ p.collector.Reached
  /-- Where no process was up, no other is. -/
  others : s.Still → ∀ i p, t.processes[i]? = some p → i ≠ pid → p.isUp = false

namespace Brought

variable {s t t' : Scene} {pid : Nat} {Q R : Process → Prop}

theorem of_processes (h : s.Brought t pid Q) (same : t'.processes = t.processes) :
    s.Brought t' pid Q := by
  obtain ⟨fresh, count, held, others⟩ := h
  exact ⟨fresh, by rw [same, count], by rw [same]; exact held, by rw [same]; exact others⟩

theorem of_premises (h : s.Brought t pid Q) (same : t'.premises = t.premises) : s.Brought t' pid Q :=
  h.of_processes (congrArg Prod.fst same)

/-- A process changes; if it is another, then it does not come up. -/
theorem onProcess (h : s.Brought t pid Q) {i : Nat} {f : Process → Process}
    (here : i = pid → ∀ p, t.processes[pid]? = some p → Q p → p.collector.Reached →
      R (f p) ∧ (f p).collector.Reached)
    (there : i ≠ pid → (∀ p, Q p → R p) ∧
      ∀ p, t.processes[i]? = some p → p.isUp = false → (f p).isUp = false) :
    s.Brought (t.onProcess i f) pid R := by
  obtain ⟨fresh, count, ⟨p, found, hp, reached⟩, others⟩ := h
  refine ⟨fresh, ?_, ?_, fun still j q found' hj => ?_⟩
  · rw [Scene.onProcess, List.length_modify, count]
  · by_cases hi : i = pid
    · subst hi
      refine ⟨f p, ?_, here rfl p found hp reached⟩
      simp only [Scene.onProcess, List.getElem?_modify_eq, found, Option.map_eq_map, Option.map_some]
    · refine ⟨p, ?_, (there hi).1 p hp, reached⟩
      rw [Scene.onProcess, List.getElem?_modify_ne _ _ hi, found]
  · by_cases hi : i = j
    · subst hi
      simp only [Scene.onProcess, List.getElem?_modify_eq] at found'
      obtain ⟨q', before, rfl⟩ := Option.map_eq_some_iff.1 found'
      exact (there hj).2 q' before (others still i q' before hj)
    · rw [Scene.onProcess, List.getElem?_modify_ne _ _ hi] at found'
      exact others still j q found' hj

/-- What the watch does to the process. -/
theorem handle (h : s.Brought t pid Q) {f : Process → Process} (hQ : ∀ p, Q p → R (f p))
    (same : ∀ p, (f p).collector = p.collector ∨ (f p).collector = p.collector.tell) :
    s.Brought (t.onProcess pid f) pid R := by
  refine h.onProcess (fun _ p _ hp reached => ⟨hQ p hp, ?_⟩) (fun other => absurd rfl other)
  obtain same | told := same p
  · rw [same]
    exact reached
  · rw [told]
    exact reached.tell

/-- What others do to the process. -/
theorem nudge {x y : Stance} (h : s.Brought x.scene pid Q) (goes : Nudge x y)
    (lasts : Process.Lasts Q) : s.Brought y.scene pid Q := by
  cases goes with
  | told told => exact h.of_premises told.premises
  | @drift st s' m i p q found drifts =>
    refine h.onProcess (fun hi p' here hp reached => ?_) fun _ => ⟨fun _ => id, fun p' here up => ?_⟩
    · subst hi
      obtain rfl := Option.some.inj (found.symm.trans here)
      exact ⟨lasts drifts hp, drifts.reached reached⟩
    · obtain rfl := Option.some.inj (found.symm.trans here)
      exact drifts.isUp up
  | cancel | pass | replace | openReply => exact h.of_processes rfl
  | refreshFailed | restarted | forsake | post => exact h.of_premises (by simp)

/-- A process that runs goes on if none ends that was not told to. -/
theorem nudge_running {x y : Stance} (h : s.Brought x.scene pid Process.IsRunning) (goes : Nudge x y)
    (spares : x.scene.Spares y.scene) : s.Brought y.scene pid Process.IsRunning := by
  obtain ⟨p, found, ⟨up, kept⟩, reached⟩ := h.held
  have still : s.Brought x.scene pid Process.IsKept :=
    ⟨h.fresh, h.count, ⟨p, found, kept, reached⟩, h.others⟩
  obtain ⟨fresh, count, ⟨q, found', kept', reached'⟩, others⟩ := still.nudge goes Process.lasts_isKept
  obtain ⟨q', found'', up'⟩ := spares pid p found up kept.2.1
  obtain rfl := Option.some.inj (found'.symm.trans found'')
  exact ⟨fresh, count, ⟨q, found', ⟨up', kept'⟩, reached'⟩, others⟩

theorem requestProcess (same : t.processes.length = s.processes.length) (still : s.Still → t.Still)
    (detail : UInt8) :
    s.Brought (t.requestProcess detail).1 t.processes.length Process.IsAsked := by
  refine ⟨same, ?_, ⟨{}, List.getElem?_concat_length, ⟨rfl, rfl, rfl, rfl⟩, .new⟩,
    fun quiet i p found hi => ?_⟩
  · exact List.length_append.trans (congrArg (· + 1) same)
  · change (t.processes ++ [({} : Process)])[i]? = some p at found
    have lt : i < (t.processes ++ [({} : Process)]).length := (List.getElem?_eq_some_iff.1 found).1
    have old : i < t.processes.length := by
      rw [List.length_append, List.length_singleton] at lt
      omega
    rw [List.getElem?_append_left old] at found
    exact still quiet p (List.mem_of_getElem? found)

/-- With a process that runs there is one, if there was none. -/
theorem live_eq_one (h : s.Brought t pid Process.IsRunning) (none : s.live = 0) : t.live = 1 := by
  obtain ⟨p, found, ⟨up, -⟩, -⟩ := h.held
  have most : t.live ≤ 1 := countP_le_one (h.others (still_of_live none))
  have least : 0 < t.live := by
    refine List.countP_pos_iff.2 ⟨p, List.mem_of_getElem? found, ?_⟩
    simp [Process.isUp, up]
  omega

/-- With a process that does not run there is none, if there was none. -/
theorem live_eq_zero (h : s.Brought t pid Q) (down : ∀ p, Q p → p.isUp = false) (none : s.live = 0) :
    t.live = 0 := by
  refine Still.live fun p hp => ?_
  obtain ⟨i, found⟩ := List.getElem?_of_mem hp
  by_cases hi : i = pid
  · subst hi
    obtain ⟨p', found', hp', -⟩ := h.held
    obtain rfl := Option.some.inj (found'.symm.trans found)
    exact down p' hp'
  · exact h.others (still_of_live none) i p found hi

end Brought

end Scene

/-! ## Replies -/

/-- The start request that waited on the first scene has this status for a reply on the second. -/
def Scene.Gave (s t : Scene) (status : Status) : Prop :=
  ∀ x ∈ s.pending, x < s.replies.length → t.replies[x]? = some (.given status)

theorem Scene.gave_answerPending {s t : Scene} (held : t.pending = s.pending)
    (more : s.replies.length ≤ t.replies.length) (status : Status) :
    s.Gave (t.answerPending status) status := by
  intro x hx lt
  have held : t.pending = some x := held.trans hx
  simp only [Scene.answerPending, held]
  exact List.getElem?_set_self (Nat.lt_of_lt_of_le lt more)

section

variable {x y : Stance}

theorem Nudge.replies_length (h : Nudge x y) : x.scene.replies.length ≤ y.scene.replies.length := by
  cases h with
  | told told => exact Nat.le_of_eq (congrArg List.length told.replies.symm)
  | openReply => simp [Scene.openReply]
  | refreshFailed _ => simp
  | forsake =>
    rw [Scene.replies_forsake]
    unfold forsaken
    split <;> simp
  | _ => exact Nat.le_refl _

/-- A reply that was given stays so. -/
theorem Nudge.gave (h : Nudge x y) {s : Scene} {status : Status} (gave : s.Gave x.scene status) :
    s.Gave y.scene status := by
  intro t ht lt
  have given := gave t ht lt
  cases h with
  | told told => exact told.replies ▸ given
  | openReply =>
    exact (List.getElem?_append_left (List.getElem?_eq_some_iff.1 given).1).trans given
  | refreshFailed _ => simpa using given
  | forsake =>
    rw [Scene.replies_forsake, getElem?_forsaken]
    simp [given]
  | _ => exact given

end

end DnsWarden
