import DnsWarden.Proofs.OneProcess
import DnsWarden.Simulation.Bench

/-!
# The end of a process is heard once

The notice of a process's end comes through a receiver that must not be asked again once it has given the
notice.  A session holds the receiver, and two kinds of calls ask it: to listen for an end that nobody asked
for, which may be given up at any time, and to end the process, which takes the receiver away.  A `Custody`
is a session with its receiver, the call that goes on and what the calls came to.  Whatever is called and
whatever the process does meanwhile, no receiver is asked too often and no notice is lost:
`Custody.end_heard_once`.
-/

namespace DnsWarden

/-! ## Receivers -/

/-- What the receiver of a process's notice comes to when it is asked. -/
inductive Reception where
  | pending
  | ready (note : ExitNote)
  /-- It has given the notice before, and must not be asked. -/
  | spent

def Reception.note? : Reception → Option ExitNote
  | .ready note => some note
  | _ => none

def Process.reception (p : Process) : Reception :=
  if p.heard then .spent
  else match p.stage with
    | .down note => .ready note
    | _ => .pending

theorem Process.note?_eq (p : Process) : p.note? = p.reception.note? := by
  unfold note? reception
  cases p.heard <;> cases p.stage <;> rfl

namespace Scene

/-- What the receiver of a session comes to when it is asked; without a process there is never a notice. -/
def reception (s : Scene) (session : Session) : Reception :=
  match session.pid?.bind fun pid => s.processes[pid]? with
  | none => .pending
  | some p => p.reception

/-- Whether the process of a session was told to stop, and whether the notice of its end was received. -/
def Stands (s : Scene) (session : Session) (told heard : Bool) : Prop :=
  ∀ pid, session.pid? = some pid →
    ∃ p, s.processes[pid]? = some p ∧ p.cancelled = told ∧ p.heard = heard

variable {s s' : Scene} {session : Session} {told heard : Bool}

theorem sessionNote?_eq (s : Scene) (session : Session) :
    s.sessionNote? session = (s.reception session).note? := by
  obtain ⟨_ | pid⟩ := session
  · rfl
  · show s.processes[pid]?.bind Process.note? = _
    unfold reception
    cases found : s.processes[pid]? with
    | none => simp [found, Reception.note?]
    | some p => simp [found, Process.note?_eq]

/-- Telling the process to stop does not change what its receiver comes to. -/
theorem reception_cancelSession (s : Scene) (session : Session) :
    (s.cancelSession session).reception session = s.reception session := by
  obtain ⟨_ | pid⟩ := session
  · rfl
  · cases found : s.processes[pid]? with
    | none => simp [reception, cancelSession, onProcess, found]
    | some p => simp [reception, cancelSession, onProcess, found, Process.reception, Process.cancel]

namespace Stands

theorem reception_ne_spent (h : s.Stands session told false) : s.reception session ≠ .spent := by
  unfold reception
  obtain ⟨_ | pid⟩ := session
  · show Reception.pending ≠ .spent
    exact nofun
  · obtain ⟨p, found, -, unheard⟩ := h pid rfl
    simp only [Option.bind_some, found, Process.reception, unheard, Bool.false_eq_true, if_false]
    split <;> exact nofun

theorem reception_of_down (h : s.Stands session told false) {pid : Nat} {p : Process} {note : ExitNote}
    (held : session.pid? = some pid) (found : s.processes[pid]? = some p) (down : p.stage = .down note) :
    s.reception session = .ready note := by
  obtain ⟨q, found', -, unheard⟩ := h pid held
  obtain rfl := Option.some.inj (found.symm.trans found')
  simp [reception, held, found, Process.reception, unheard, down]

theorem sessionNote?_eq_none (h : s.Stands session told true) : s.sessionNote? session = none := by
  rw [sessionNote?_eq]
  obtain ⟨_ | pid⟩ := session
  · rfl
  · obtain ⟨p, found, -, heard⟩ := h pid rfl
    simp [reception, found, Process.reception, heard, Reception.note?]

theorem quiet_eq (h : s.Stands session told heard) {pid : Nat} (held : session.pid? = some pid) :
    s.quiet session = heard := by
  obtain ⟨p, found, -, same⟩ := h pid held
  simp [quiet, held, Scene.heard, found, same]

theorem onProcess (h : s.Stands session told heard) {told' heard' : Bool} {i : Nat}
    {f : Process → Process}
    (here : ∀ p, session.pid? = some i → p.cancelled = told → p.heard = heard →
      (f p).cancelled = told' ∧ (f p).heard = heard')
    (there : session.pid? ≠ some i → told' = told ∧ heard' = heard) :
    (s.onProcess i f).Stands session told' heard' := by
  intro pid held
  obtain ⟨p, found, cancelled, same⟩ := h pid held
  by_cases hi : i = pid
  · subst hi
    refine ⟨f p, ?_, here p held cancelled same⟩
    simp only [Scene.onProcess, List.getElem?_modify_eq, found, Option.map_eq_map, Option.map_some]
  · obtain ⟨rfl, rfl⟩ := there fun held' => hi (Option.some.inj (held'.symm.trans held))
    exact ⟨p, (List.getElem?_modify_ne _ _ hi).trans found, cancelled, same⟩

theorem cancelSession (h : s.Stands session told heard) :
    (s.cancelSession session).Stands session true heard := by
  obtain ⟨_ | pid⟩ := session
  · exact nofun
  · exact h.onProcess (fun p _ _ same => ⟨rfl, same⟩) fun other => absurd rfl other

theorem hear (h : s.Stands session told heard) : (s.hear session).Stands session told true := by
  obtain ⟨_ | pid⟩ := session
  · exact nofun
  · exact h.onProcess (fun p _ same _ => ⟨same, rfl⟩) fun other => absurd rfl other

theorem keep (h : s.Stands session told heard) (i : Nat) {f : Process → Process}
    (keeps : ∀ p, (f p).cancelled = p.cancelled ∧ (f p).heard = p.heard) :
    (s.onProcess i f).Stands session told heard :=
  h.onProcess (fun p _ cancelled same => ⟨(keeps p).1.trans cancelled, (keeps p).2.trans same⟩)
    fun _ => ⟨rfl, rfl⟩

/-- What happens around the tasks neither tells a process to stop nor receives the notice of its end. -/
theorem surround (h : s.Stands session told heard) {m : Move} (around : s.surround? m = some s') :
    s'.Stands session told heard := by
  cases m with
  | exit pid note =>
    obtain ⟨p, -, around⟩ := Option.bind_eq_some_iff.1 around
    split_ifs at around
    cases around
    exact h.keep pid fun p => ⟨rfl, rfl⟩
  | print pid stream line =>
    obtain ⟨p, -, around⟩ := Option.bind_eq_some_iff.1 around
    obtain ⟨c, -, rfl⟩ := Option.map_eq_some_iff.1 around
    exact h.keep pid fun p => ⟨rfl, rfl⟩
  | hangUp pid stream =>
    cases around
    exact h.keep pid fun p => ⟨rfl, rfl⟩
  | collect pid m =>
    obtain ⟨p, -, around⟩ := Option.bind_eq_some_iff.1 around
    obtain ⟨⟨c, line⟩, -, rfl⟩ := Option.map_eq_some_iff.1 around
    have kept : (s.onProcess pid fun p => { p with collector := c }).Stands session told heard :=
      h.keep pid fun p => ⟨rfl, rfl⟩
    cases line <;> exact kept
  | pass nanos =>
    cases around
    exact h
  | _ => cases around

end Stands

end Scene

theorem Teardown.begin_of_pid {s : Scene} {session : Session} {pid : Nat} (held : session.pid? = some pid) :
    begin s session =
      if (s.cancelSession session).quiet session then
        ((join (s.cancelSession session) pid).1, some (.joining pid))
      else (s.cancelSession session, some (.stopping pid)) := by
  obtain ⟨pid?⟩ := session
  cases held
  rfl

/-! ## Calls on a session -/

namespace Custody

/-- Who holds the receiver of a session. -/
inductive Receiver where
  | held
  /-- A call that ends the process has taken it from the session. -/
  | lent
  /-- It has given its notice, or there is no process. -/
  | gone
deriving DecidableEq

/-- What is called on a session, by what it waits for. -/
inductive Call where
  /-- Nothing; the last call has come to this. -/
  | idle (result : BenchResult)
  /-- For an end that nobody asked for. -/
  | listening
  /-- For the end of the process that was told to stop, after which the session is cleaned up if this is the
  last call. -/
  | ending (last : Bool)
  /-- For the collector, in the last call. -/
  | joining (pid : Nat)
  /-- The session was cleaned up. -/
  | cleared
  /-- A receiver was asked after it had given its notice. -/
  | broken

/-- What happened to a session. -/
inductive Happening where
  /-- Someone who listened has received the notice. -/
  | heard (note : ExitNote)
  /-- A call to end the process began. -/
  | began
  /-- A call to end the process is done with it; it has received the notice if there was one to receive. -/
  | ended (note : Option ExitNote)
deriving DecidableEq

namespace Happening

def isHeard : Happening → Bool
  | .heard _ => true
  | _ => false

/-- Whether the notice was received. -/
def isReceipt : Happening → Bool
  | .heard _ => true
  | .ended note => note.isSome
  | .began => false

end Happening

/-- What is done with a session, or happens around it. -/
inductive Deed where
  | listen
  /-- Whoever listens gives up. -/
  | giveUp
  | terminate
  | cleanUp
  /-- The call that goes on looks at what it waits for. -/
  | look
  /-- Someone else tells the process to stop. -/
  | cancel
  | around (m : Move)

end Custody

/-- A session with its receiver, the call that goes on, and what happened to it, the newest first. -/
structure Custody where
  scene : Scene
  session : Session
  receiver : Custody.Receiver
  /-- The process was told to stop, or would have been. -/
  told : Bool := false
  call : Custody.Call := .idle .nothing
  past : List Custody.Happening := []

namespace Custody

/-- A session as it is made. -/
def new (s : Scene) (session : Session) : Custody :=
  { scene := s, session, receiver := if session.pid? = none then .gone else .held }

/-- Tells the process to stop, and takes the receiver if the session has it. -/
def begin (c : Custody) (last : Bool) : Custody :=
  { c with
    scene := c.scene.cancelSession c.session
    told := true
    receiver := if c.receiver = .held then .lent else c.receiver
    call := .ending last
    past := .began :: c.past }

/-- Goes on once the process is dealt with: the last call closes the collector, if there is one. -/
def settle (c : Custody) (note : Option ExitNote) (last : Bool) : Custody :=
  let c := { c with receiver := .gone, past := .ended note :: c.past }
  if last then
    match c.session.pid? with
    | none => { c with call := .cleared }
    | some pid => { c with scene := (Teardown.join c.scene pid).1, call := .joining pid }
  else { c with call := .idle .nothing }

/-- Asks the receiver, and goes on with a notice. -/
def ask (c : Custody) (go : Custody → ExitNote → Custody) : Custody :=
  match c.scene.reception c.session with
  | .pending => c
  | .ready note => go { c with scene := c.scene.hear c.session } note
  | .spent => { c with call := .broken }

/-- The receiver has given its notice to someone who listened. -/
def hear (c : Custody) (note : ExitNote) : Custody :=
  { c with receiver := .gone, call := .idle (.exited note), past := .heard note :: c.past }

/-- The call that goes on looks at what it waits for. -/
def look? (c : Custody) : Option Custody :=
  match c.call with
  | .listening => some (if c.receiver = .held then c.ask hear else c)
  | .ending last =>
    some (if c.receiver = .lent then c.ask fun c note => c.settle (some note) last
      else c.settle none last)
  | .joining pid => some (if c.scene.collected pid then { c with call := .cleared } else c)
  | _ => none

/-- The custody after one deed, if it can be done: calls follow one another. -/
def next? (c : Custody) (d : Deed) : Option Custody :=
  match d, c.call with
  | .listen, .idle _ => some { c with call := .listening }
  | .giveUp, .listening => some { c with call := .idle .silent }
  | .terminate, .idle _ => some (c.begin false)
  | .cleanUp, .idle _ => some (c.begin true)
  | .look, _ => c.look?
  | .cancel, _ => some { c with scene := c.scene.cancelSession c.session, told := true }
  | .around m, _ => (c.scene.surround? m).map fun s => { c with scene := s }
  | _, _ => none

def run (c : Custody) : List Deed → Option Custody
  | [] => some c
  | d :: ds => (c.next? d).bind fun c => c.run ds

/-- What a deed makes of a custody. -/
def Makes (c c' : Custody) : Deed → Prop
  | .listen => (∃ result, c.call = .idle result) ∧ c' = { c with call := .listening }
  | .giveUp => c.call = .listening ∧ c' = { c with call := .idle .silent }
  | .terminate => (∃ result, c.call = .idle result) ∧ c' = c.begin false
  | .cleanUp => (∃ result, c.call = .idle result) ∧ c' = c.begin true
  | .look => c.look? = some c'
  | .cancel => c' = { c with scene := c.scene.cancelSession c.session, told := true }
  | .around m => ∃ s, c.scene.surround? m = some s ∧ c' = { c with scene := s }

section

variable {c : Custody}

theorem makes_of_next? {c' : Custody} {d : Deed} (h : c.next? d = some c') : c.Makes c' d := by
  unfold next? at h
  split at h
  · exact ⟨⟨_, ‹_›⟩, (Option.some.inj h).symm⟩
  · exact ⟨‹_›, (Option.some.inj h).symm⟩
  · exact ⟨⟨_, ‹_›⟩, (Option.some.inj h).symm⟩
  · exact ⟨⟨_, ‹_›⟩, (Option.some.inj h).symm⟩
  · exact h
  · exact (Option.some.inj h).symm
  · obtain ⟨s, around, rfl⟩ := Option.map_eq_some_iff.1 h
    exact ⟨s, around, rfl⟩
  · cases h

theorem ask_of_pending (pending : c.scene.reception c.session = .pending)
    (go : Custody → ExitNote → Custody) : c.ask go = c := by
  unfold ask
  rw [pending]

theorem ask_of_ready {note : ExitNote} (ready : c.scene.reception c.session = .ready note)
    (go : Custody → ExitNote → Custody) :
    c.ask go = go { c with scene := c.scene.hear c.session } note := by
  unfold ask
  rw [ready]

theorem settle_last {pid : Nat} (process : c.session.pid? = some pid) (note : Option ExitNote) :
    c.settle note true = { c with
      scene := (Teardown.join c.scene pid).1
      receiver := .gone, call := .joining pid, past := .ended note :: c.past } := by
  show (match c.session.pid? with | none => _ | some pid => _) = _
  rw [process]

theorem settle_last_of_empty (empty : c.session.pid? = none) (note : Option ExitNote) :
    c.settle note true =
      { c with receiver := .gone, call := .cleared, past := .ended note :: c.past } := by
  show (match c.session.pid? with | none => _ | some pid => _) = _
  rw [empty]

end

/-! ## What every custody keeps -/

/-- The notice was heard by someone who listened only before any call to end the process began. -/
def Orderly (past : List Happening) : Prop :=
  ∀ later note earlier, past = later ++ .heard note :: earlier → .began ∉ earlier

theorem Orderly.cons {past : List Happening} (orderly : Orderly past) {e : Happening}
    (first : ∀ note, e = .heard note → .began ∉ past) : Orderly (e :: past) := by
  intro later note earlier split
  cases later with
  | nil =>
    obtain ⟨rfl, rfl⟩ := List.cons.inj split
    exact first note rfl
  | cons e' later =>
    obtain ⟨-, rfl⟩ := List.cons.inj split
    exact orderly later note earlier rfl

/-- The receiver is where the process and the history say. -/
structure Sound (c : Custody) : Prop where
  stands : c.scene.Stands c.session c.told (c.receiver = .gone)
  /-- The notice was received once, or its receiver is still there. -/
  balance : c.past.countP Happening.isReceipt + (if c.receiver = .gone then 0 else 1) =
    if c.session.pid? = none then 0 else 1
  unbegun : c.receiver = .held → .began ∉ c.past
  lent : c.receiver = .lent → ∃ last, c.call = .ending last
  begun : ∀ last, c.call = .ending last → .began ∈ c.past
  told : .began ∈ c.past → c.told = true
  ended : ∀ note, .ended note ∈ c.past → c.receiver = .gone ∧ .began ∈ c.past
  orderly : Orderly c.past
  intact : c.call ≠ .broken

section

variable {c c' : Custody}

theorem sound_new {s : Scene} {session : Session} (fresh : s.Keeps session ∨ session = .empty) :
    (new s session).Sound where
  stands := by
    intro pid held
    obtain ⟨pid', p, held', found, kept, unheard⟩ | rfl := fresh
    · obtain rfl := Option.some.inj (held.symm.trans held')
      have receiver : (new s session).receiver = .held := if_neg (by simp [held'])
      exact ⟨p, found, kept, by rw [receiver]; exact unheard⟩
    · cases held
  balance := by
    unfold new
    split_ifs <;> simp_all
  unbegun _ := List.not_mem_nil
  lent h := by
    unfold new at h
    split_ifs at h
  begun _ := nofun
  told := nofun
  ended _ := nofun
  orderly later note earlier split := by
    cases later <;> cases split
  intact := nofun

namespace Sound

/-- Without a process there is no receiver. -/
theorem gone_of_empty (sound : c.Sound) (none : c.session.pid? = none) : c.receiver = .gone := by
  have balance := sound.balance
  by_contra there
  rw [if_neg there, if_pos none] at balance
  omega

/-- Between calls the session has the receiver, unless it is gone. -/
theorem held_or_gone (sound : c.Sound) (quiet : ∀ last, c.call ≠ .ending last) :
    c.receiver = .held ∨ c.receiver = .gone := by
  cases receiver : c.receiver with
  | held => exact .inl rfl
  | lent =>
    obtain ⟨last, ending⟩ := sound.lent receiver
    exact absurd ending (quiet last)
  | gone => exact .inr rfl

/-- A call that ends the process leaves no receiver with the session. -/
theorem lent_or_gone (sound : c.Sound) {last : Bool} (ending : c.call = .ending last) :
    c.receiver = .lent ∨ c.receiver = .gone := by
  cases receiver : c.receiver with
  | held => exact absurd (sound.begun last ending) (sound.unbegun receiver)
  | lent => exact .inl rfl
  | gone => exact .inr rfl

theorem withScene (sound : c.Sound) {s : Scene} {told : Bool} (kept : c.told = true → told = true)
    (stands : s.Stands c.session told (c.receiver = .gone)) :
    Sound { c with scene := s, told } :=
  { sound with stands, told := fun began => kept (sound.told began) }

theorem withCall (sound : c.Sound) {call : Call} (quiet : ∀ last, c.call ≠ .ending last)
    (quiet' : ∀ last, call ≠ .ending last) (intact : call ≠ .broken) : Sound { c with call } :=
  { sound with
    lent := fun lent => by
      obtain ⟨last, ending⟩ := sound.lent lent
      exact absurd ending (quiet last)
    begun := fun last ending => absurd ending (quiet' last)
    intact }

theorem begin (sound : c.Sound) (quiet : ∀ last, c.call ≠ .ending last) (last : Bool) :
    (c.begin last).Sound := by
  have stands := sound.stands.cancelSession
  have balance := sound.balance
  have ended : ∀ note, .ended note ∈ .began :: c.past → c.receiver = .gone := by
    intro note mem
    obtain h | mem := List.mem_cons.1 mem
    · cases h
    · exact (sound.ended note mem).1
  have orderly : Orderly (.began :: c.past) := sound.orderly.cons nofun
  unfold Custody.begin
  obtain held | gone := sound.held_or_gone quiet
  · rw [held] at stands balance
    rw [if_pos held]
    exact {
      stands, balance, orderly
      unbegun := nofun
      lent := fun _ => ⟨last, rfl⟩
      begun := fun _ _ => List.mem_cons_self
      told := fun _ => rfl
      ended := fun note mem => nomatch held.symm.trans (ended note mem)
      intact := nofun }
  · rw [if_neg (by rw [gone]; exact nofun)]
    exact {
      stands, balance, orderly
      unbegun := fun held => nomatch gone.symm.trans held
      lent := fun lent => nomatch gone.symm.trans lent
      begun := fun _ _ => List.mem_cons_self
      told := fun _ => rfl
      ended := fun note mem => ⟨ended note mem, List.mem_cons_self⟩
      intact := nofun }

end Sound

/-- A custody is sound once a call to end the process is done with it. -/
theorem sound_settle (note : Option ExitNote) (last : Bool) (stands : c.scene.Stands c.session c.told true)
    (balance : c.past.countP Happening.isReceipt + (if note.isSome then 1 else 0) =
      if c.session.pid? = none then 0 else 1)
    (began : .began ∈ c.past) (told : c.told = true) (orderly : Orderly c.past) :
    (c.settle note last).Sound := by
  have settled : ∀ s call, s.Stands c.session c.told true → (∀ last, call ≠ .ending last) →
      call ≠ .broken →
      Sound { c with scene := s, receiver := .gone, past := .ended note :: c.past, call } :=
    fun s call stands quiet intact => {
      stands, intact
      balance := by
        rw [List.countP_cons]
        exact balance
      unbegun := nofun
      lent := nofun
      begun := fun last ending => absurd ending (quiet last)
      told := fun _ => told
      ended := fun _ _ => ⟨rfl, List.mem_cons_of_mem _ began⟩
      orderly := orderly.cons nofun }
  unfold settle
  dsimp only
  split_ifs
  · cases c.session.pid? with
    | none => exact settled _ _ stands nofun nofun
    | some pid => exact settled _ _ (stands.keep pid fun p => ⟨rfl, rfl⟩) nofun nofun
  · exact settled _ _ stands nofun nofun

namespace Sound

/-- A receiver that is there has not given its notice. -/
theorem unspent (sound : c.Sound) (there : c.receiver ≠ .gone) :
    c.scene.reception c.session ≠ .spent := by
  have stands := sound.stands
  rw [decide_eq_false there] at stands
  exact stands.reception_ne_spent

theorem ask (sound : c.Sound) (there : c.receiver ≠ .gone) {go : Custody → ExitNote → Custody}
    (next : ∀ note, (go { c with scene := c.scene.hear c.session } note).Sound) :
    (c.ask go).Sound := by
  cases asked : c.scene.reception c.session with
  | pending =>
    rw [ask_of_pending asked]
    exact sound
  | ready note =>
    rw [ask_of_ready asked]
    exact next note
  | spent => exact absurd asked (sound.unspent there)

/-- With the receiver there, no notice was received but the one that it gives. -/
theorem balance_of_there (sound : c.Sound) (there : c.receiver ≠ .gone) :
    c.past.countP Happening.isReceipt + 1 = if c.session.pid? = none then 0 else 1 := by
  have balance := sound.balance
  rwa [if_neg there] at balance

theorem hear (sound : c.Sound) (held : c.receiver = .held) (note : ExitNote) :
    (Custody.hear { c with scene := c.scene.hear c.session } note).Sound where
  stands := sound.stands.hear
  balance := by
    show (Happening.heard note :: c.past).countP Happening.isReceipt + 0 = _
    rw [List.countP_cons_of_pos rfl]
    exact sound.balance_of_there (ne_of_eq_of_ne held nofun)
  unbegun := nofun
  lent := nofun
  begun _ := nofun
  told mem := by
    obtain h | mem := List.mem_cons.1 mem
    · cases h
    · exact sound.told mem
  ended note' mem := by
    obtain h | mem := List.mem_cons.1 mem
    · cases h
    · exact absurd (sound.ended note' mem).2 (sound.unbegun held)
  orderly := sound.orderly.cons fun _ _ => sound.unbegun held
  intact := nofun

theorem look (sound : c.Sound) (h : c.look? = some c') : c'.Sound := by
  unfold look? at h
  cases call : c.call with
  | listening =>
    rw [call] at h
    obtain rfl := Option.some.inj h
    split_ifs with held
    · exact sound.ask (ne_of_eq_of_ne held nofun) (sound.hear held)
    · exact sound
  | ending last =>
    rw [call] at h
    obtain rfl := Option.some.inj h
    have began := sound.begun last call
    have told := sound.told began
    split_ifs with lent
    · have there : c.receiver ≠ .gone := ne_of_eq_of_ne lent nofun
      exact sound.ask there fun note =>
        sound_settle (some note) last sound.stands.hear (sound.balance_of_there there) began told
          sound.orderly
    · have gone := (sound.lent_or_gone call).resolve_left lent
      have stands := sound.stands
      have balance := sound.balance
      rw [decide_eq_true gone] at stands
      rw [if_pos gone] at balance
      exact sound_settle none last stands balance began told sound.orderly
  | joining pid =>
    rw [call] at h
    obtain rfl := Option.some.inj h
    split_ifs
    · exact sound.withCall (fun _ => ne_of_eq_of_ne call nofun) nofun nofun
    · exact sound
  | idle | cleared | broken =>
    rw [call] at h
    cases h

theorem next {d : Deed} (sound : c.Sound) (h : c.next? d = some c') : c'.Sound := by
  have made := makes_of_next? h
  cases d with
  | listen =>
    obtain ⟨⟨result, call⟩, rfl⟩ := made
    exact sound.withCall (fun _ => ne_of_eq_of_ne call nofun) nofun nofun
  | giveUp =>
    obtain ⟨call, rfl⟩ := made
    exact sound.withCall (fun _ => ne_of_eq_of_ne call nofun) nofun nofun
  | terminate | cleanUp =>
    obtain ⟨⟨result, call⟩, rfl⟩ := made
    exact sound.begin (fun _ => ne_of_eq_of_ne call nofun) _
  | look => exact sound.look made
  | cancel =>
    obtain rfl := made
    exact sound.withScene (fun _ => rfl) sound.stands.cancelSession
  | around m =>
    obtain ⟨s, around, rfl⟩ := made
    exact sound.withScene id (sound.stands.surround around)

theorem run {ds : List Deed} (sound : c.Sound) (h : c.run ds = some c') : c'.Sound := by
  induction ds generalizing c with
  | nil =>
    cases h
    exact sound
  | cons d ds ih =>
    obtain ⟨c₁, done, rest⟩ := Option.bind_eq_some_iff.1 h
    exact ih (sound.next done) rest

theorem sessionNote?_eq_none (sound : c.Sound) (gone : c.receiver = .gone) :
    c.scene.sessionNote? c.session = none := by
  have stands := sound.stands
  rw [decide_eq_true gone] at stands
  exact stands.sessionNote?_eq_none

end Sound

theorem session_settle (c : Custody) (note : Option ExitNote) (last : Bool) :
    (c.settle note last).session = c.session := by
  unfold settle
  dsimp only
  split_ifs
  · split <;> rfl
  · rfl

theorem session_ask {go : Custody → ExitNote → Custody}
    (same : ∀ c note, (go c note).session = c.session) : (c.ask go).session = c.session := by
  unfold ask
  split
  · rfl
  · exact same _ _
  · rfl

theorem session_look (h : c.look? = some c') : c'.session = c.session := by
  unfold look? at h
  split at h
  · obtain rfl := Option.some.inj h
    split_ifs
    · exact session_ask fun _ _ => rfl
    · rfl
  · obtain rfl := Option.some.inj h
    split_ifs
    · exact session_ask fun c note => c.session_settle _ _
    · exact c.session_settle _ _
  · obtain rfl := Option.some.inj h
    split_ifs <;> rfl
  · cases h

theorem session_next {d : Deed} (h : c.next? d = some c') : c'.session = c.session := by
  have made := makes_of_next? h
  cases d with
  | look => exact session_look made
  | cancel => rw [show c' = _ from made]
  | around m =>
    obtain ⟨s, -, rfl⟩ := made
    rfl
  | _ =>
    obtain ⟨-, rfl⟩ := made
    rfl

theorem session_run {ds : List Deed} (h : c.run ds = some c') : c'.session = c.session := by
  induction ds generalizing c with
  | nil =>
    cases h
    rfl
  | cons d ds ih =>
    obtain ⟨c₁, done, rest⟩ := Option.bind_eq_some_iff.1 h
    exact (ih rest).trans (session_next done)

end

/-! ## The same turns without receivers -/

/-- What goes on with a session on the bench, where it is listened to until a deadline. -/
def activity (c : Custody) (deadline : Nat) : Activity :=
  match c.call with
  | .idle result => .finished result
  | .listening => .listening c.session deadline
  | .ending last =>
    if c.receiver = .lent then
      if last then .ofTeardown (c.session.pid?.map .stopping) else .terminating c.session
    else .finished .nothing
  | .joining pid => .ending (.joining pid)
  | .cleared | .broken => .finished .nothing

/-- On the bench, which has no receivers, every call takes the same turns. -/
structure Mirrored (c : Custody) (deadline : Nat) : Prop where
  look : ∀ c', c.next? .look = some c' → (c.activity deadline).isOver = false →
    (c.activity deadline).resume .ended c.scene = none ∧ c' = c ∨
      (c.activity deadline).resume .ended c.scene = some (c'.scene, c'.activity deadline)
  giveUp : ∀ c', c.next? .giveUp = some c' → deadline ≤ c.scene.now →
    (c.activity deadline).resume .elapsed c.scene = some (c'.scene, c'.activity deadline)
  terminate : ∀ c', c.next? .terminate = some c' →
    c'.scene = c.scene.cancelSession c.session ∧
      c'.activity deadline =
        if c'.scene.quiet c.session then .finished .nothing else .terminating c.session
  cleanUp : ∀ c', c.run (.cleanUp :: if c.receiver = .gone then [.look] else []) = some c' →
    (Teardown.begin c.scene c.session).1 = c'.scene ∧
      .ofTeardown (Teardown.begin c.scene c.session).2 = c'.activity deadline

/-- A call that ends the process waits if the session has the receiver. -/
theorem activity_begin {c : Custody} (free : c.receiver ≠ .lent) (last : Bool) (deadline : Nat) :
    (c.begin last).activity deadline =
      if c.receiver = .held then
        if last then .ofTeardown (c.session.pid?.map .stopping) else .terminating c.session
      else .finished .nothing := by
  show (if (if c.receiver = .held then .lent else c.receiver) = Receiver.lent then _ else _) = _
  by_cases held : c.receiver = .held
  · rw [if_pos held, if_pos held, if_pos rfl]
    rfl
  · rw [if_neg held, if_neg held, if_neg free]

/-- A call that ends the process has nothing to wait for once the receiver is gone. -/
theorem look_begin {c : Custody} (gone : c.receiver = .gone) (last : Bool) :
    (c.begin last).look? = some ((c.begin last).settle none last) := by
  show some (if (if c.receiver = .held then .lent else c.receiver) = Receiver.lent then _ else _) = _
  rw [gone]
  rfl

namespace Sound

variable {c c' : Custody} {deadline : Nat}

theorem look_activity (sound : c.Sound) (h : c.look? = some c')
    (goesOn : (c.activity deadline).isOver = false) :
    (c.activity deadline).resume .ended c.scene = none ∧ c' = c ∨
      (c.activity deadline).resume .ended c.scene = some (c'.scene, c'.activity deadline) := by
  unfold look? at h
  cases call : c.call with
  | listening =>
    rw [call] at h
    obtain rfl := Option.some.inj h
    have turn : (c.activity deadline).resume .ended c.scene =
        (c.scene.sessionNote? c.session).map fun note =>
          (c.scene.hear c.session, .finished (.exited note)) := by
      rw [activity, call]
      rfl
    rw [turn]
    obtain held | gone := sound.held_or_gone (fun _ => ne_of_eq_of_ne call nofun)
    · rw [if_pos held, Scene.sessionNote?_eq]
      cases asked : c.scene.reception c.session with
      | pending => exact .inl ⟨rfl, ask_of_pending asked _⟩
      | ready note =>
        rw [ask_of_ready asked]
        exact .inr rfl
      | spent => exact absurd asked (sound.unspent (ne_of_eq_of_ne held nofun))
    · rw [if_neg (by rw [gone]; exact nofun), sound.sessionNote?_eq_none gone]
      exact .inl ⟨rfl, rfl⟩
  | ending last =>
    rw [call] at h
    obtain rfl := Option.some.inj h
    obtain lent | gone := sound.lent_or_gone call
    · have there : c.receiver ≠ .gone := ne_of_eq_of_ne lent nofun
      rw [if_pos lent]
      cases process : c.session.pid? with
      | none => exact absurd (sound.gone_of_empty process) there
      | some pid =>
        have turn : (c.activity deadline).resume .ended c.scene =
            (c.scene.sessionNote? c.session).map fun _ =>
              if last then
                ((Teardown.join (c.scene.hear c.session) pid).1, .ending (.joining pid))
              else (c.scene.hear c.session, .finished .nothing) := by
          simp only [activity, call, lent, process, Scene.sessionNote?, Scene.hear, Option.bind_some,
            if_true]
          cases last with
          | true =>
            show ((c.scene.note? pid).map _).map _ = _
            rw [Option.map_map]
            rfl
          | false =>
            show (c.scene.sessionNote? c.session).map _ = _
            simp only [Scene.sessionNote?, Scene.hear, process, Option.bind_some]
            rfl
        rw [turn, Scene.sessionNote?_eq]
        cases asked : c.scene.reception c.session with
        | pending => exact .inl ⟨rfl, ask_of_pending asked _⟩
        | ready note =>
          rw [ask_of_ready asked]
          right
          cases last with
          | true =>
            rw [settle_last (c := { c with scene := c.scene.hear c.session }) process]
            rfl
          | false => rfl
        | spent => exact absurd asked (sound.unspent there)
    · rw [activity, call] at goesOn
      dsimp only at goesOn
      rw [if_neg (by rw [gone]; exact nofun)] at goesOn
      cases goesOn
  | joining pid =>
    rw [call] at h
    obtain rfl := Option.some.inj h
    have turn : (c.activity deadline).resume .ended c.scene =
        if c.scene.collected pid then some (c.scene, .finished .nothing) else none := by
      rw [activity, call]
      show (if c.scene.collected pid then some (c.scene, none) else none).map _ = _
      split_ifs <;> rfl
    rw [turn]
    split_ifs
    · exact .inr rfl
    · exact .inl ⟨rfl, rfl⟩
  | idle | cleared | broken =>
    rw [call] at h
    cases h

theorem quiet_cancelSession (sound : c.Sound) :
    (c.scene.cancelSession c.session).quiet c.session = true ↔ c.receiver = .gone := by
  cases held : c.session.pid? with
  | none => exact iff_of_true (by simp [Scene.quiet, held]) (sound.gone_of_empty held)
  | some pid =>
    rw [sound.stands.cancelSession.quiet_eq held]
    exact decide_eq_true_iff

theorem loud_cancelSession (sound : c.Sound) (held : c.receiver = .held) :
    ¬ (c.scene.cancelSession c.session).quiet c.session = true :=
  fun silent => nomatch held.symm.trans (sound.quiet_cancelSession.1 silent)

theorem terminate_activity (sound : c.Sound) (between : ∀ last, c.call ≠ .ending last) :
    (c.begin false).activity deadline =
      if (c.scene.cancelSession c.session).quiet c.session then .finished .nothing
      else .terminating c.session := by
  obtain held | gone := sound.held_or_gone between
  · rw [activity_begin (ne_of_eq_of_ne held nofun), if_pos held, if_neg (sound.loud_cancelSession held)]
    rfl
  · rw [activity_begin (ne_of_eq_of_ne gone nofun), if_neg (by rw [gone]; exact nofun),
      if_pos (sound.quiet_cancelSession.2 gone)]

/-- With the receiver there, the last call waits for the notice. -/
theorem cleanUp_activity (sound : c.Sound) (held : c.receiver = .held) :
    (Teardown.begin c.scene c.session).1 = (c.begin true).scene ∧
      .ofTeardown (Teardown.begin c.scene c.session).2 = (c.begin true).activity deadline := by
  cases process : c.session.pid? with
  | none => exact nomatch held.symm.trans (sound.gone_of_empty process)
  | some pid =>
    rw [activity_begin (ne_of_eq_of_ne held nofun), if_pos held, process,
      Teardown.begin_of_pid process, if_neg (sound.loud_cancelSession held)]
    exact ⟨rfl, rfl⟩

/-- Once the receiver is gone, the last call goes on to the collector, if there is one. -/
theorem cleanUp_activity_of_gone (sound : c.Sound) (gone : c.receiver = .gone) :
    (Teardown.begin c.scene c.session).1 = ((c.begin true).settle none true).scene ∧
      .ofTeardown (Teardown.begin c.scene c.session).2 =
        ((c.begin true).settle none true).activity deadline := by
  cases process : c.session.pid? with
  | none =>
    have same : c.scene.cancelSession c.session = c.scene := by
      unfold Scene.cancelSession
      rw [process]
    rw [settle_last_of_empty (c := c.begin true) process]
    unfold Teardown.begin
    rw [process]
    exact ⟨same.symm, rfl⟩
  | some pid =>
    rw [settle_last (c := c.begin true) process, Teardown.begin_of_pid process,
      if_pos (sound.quiet_cancelSession.2 gone)]
    exact ⟨rfl, rfl⟩

theorem mirrored (sound : c.Sound) (deadline : Nat) : c.Mirrored deadline where
  look _ := sound.look_activity
  giveUp c' h past := by
    obtain ⟨call, rfl⟩ := makes_of_next? h
    rw [activity, call]
    exact if_pos past
  terminate c' h := by
    obtain ⟨⟨result, call⟩, rfl⟩ := makes_of_next? h
    exact ⟨rfl, sound.terminate_activity fun _ => ne_of_eq_of_ne call nofun⟩
  cleanUp c' h := by
    obtain ⟨c₁, begun, rest⟩ := Option.bind_eq_some_iff.1 h
    obtain ⟨⟨result, call⟩, rfl⟩ := makes_of_next? begun
    obtain held | gone := sound.held_or_gone fun _ => ne_of_eq_of_ne call nofun
    · rw [if_neg (by rw [held]; exact nofun)] at rest
      cases rest
      exact sound.cleanUp_activity held
    · rw [if_pos gone] at rest
      obtain ⟨c₂, looked, rest⟩ := Option.bind_eq_some_iff.1 rest
      cases rest
      obtain rfl := Option.some.inj (looked.symm.trans (look_begin gone true))
      exact sound.cleanUp_activity_of_gone gone

/-- While it waits, whoever listens learns nothing. -/
theorem look_silent (sound : c.Sound) (listens : c.call = .listening)
    (silent : c.scene.sessionNote? c.session = none) : c.next? .look = some c := by
  have looked : c.next? .look = some (if c.receiver = .held then c.ask Custody.hear else c) := by
    simp only [next?, look?, listens]
  rw [looked]
  split_ifs with held
  · rw [Scene.sessionNote?_eq] at silent
    cases asked : c.scene.reception c.session with
    | pending => rw [ask_of_pending asked]
    | ready note =>
      rw [asked] at silent
      cases silent
    | spent => exact absurd asked (sound.unspent (ne_of_eq_of_ne held nofun))
  · rfl

/-- The session has the receiver as long as the notice of its process's end was not received. -/
theorem held_of_no_receipt (sound : c.Sound) (between : ∀ last, c.call ≠ .ending last) {pid : Nat}
    (process : c.session.pid? = some pid)
    (unheard : c.past.countP Happening.isReceipt = 0) : c.receiver = .held := by
  obtain held | gone := sound.held_or_gone between
  · exact held
  · have balance := sound.balance
    rw [unheard, if_pos gone, if_neg (by rw [process]; exact nofun)] at balance
    cases balance

/-- A notice that nobody has received is there for the next one who listens, and for a call to end the
process. -/
theorem next_receipt (sound : c.Sound) {result : BenchResult} {pid : Nat} {p : Process} {note : ExitNote}
    (call : c.call = .idle result) (process : c.session.pid? = some pid)
    (found : c.scene.processes[pid]? = some p) (down : p.stage = .down note)
    (unheard : c.past.countP Happening.isReceipt = 0) :
    c.run [.listen, .look] = some (Custody.hear { c with scene := c.scene.hear c.session } note) ∧
      c.run [.terminate, .look] = some
        { c with
          scene := (c.scene.cancelSession c.session).hear c.session
          told := true
          receiver := .gone
          call := .idle .nothing
          past := .ended (some note) :: .began :: c.past } := by
  have held := sound.held_of_no_receipt (fun _ => ne_of_eq_of_ne call nofun) process unheard
  have stands := sound.stands
  rw [held] at stands
  have ready := stands.reception_of_down process found down
  constructor
  · have listened : c.next? .listen = some { c with call := .listening } := by
      simp only [next?, call]
    have looked : Custody.look? { c with call := .listening } =
        some (Custody.hear { c with scene := c.scene.hear c.session } note) := by
      show some (if c.receiver = .held then _ else _) = _
      rw [if_pos held, ask_of_ready (c := { c with call := .listening }) ready]
      rfl
    show (c.next? .listen).bind _ = _
    rw [listened]
    show (Custody.look? { c with call := .listening }).bind _ = _
    rw [looked]
    rfl
  · have begun : c.next? .terminate = some (c.begin false) := by
      simp only [next?, call]
    have ready : (c.begin false).scene.reception c.session = .ready note :=
      (Scene.reception_cancelSession c.scene c.session).trans ready
    show (c.next? .terminate).bind _ = _
    rw [begun]
    show (some (if (if c.receiver = .held then .lent else c.receiver) = Receiver.lent
      then _ else _)).bind _ = _
    rw [if_pos held, if_pos rfl, ask_of_ready ready]
    rfl

end Sound

/-- A call to end the process is done at once if there is nothing to wait for. -/
theorem terminate_at_once {c : Custody} {result : BenchResult} (call : c.call = .idle result)
    (gone : c.receiver = .gone) :
    c.run [.terminate, .look] = some
      { c with
        scene := c.scene.cancelSession c.session
        told := true
        call := .idle .nothing
        past := .ended none :: .began :: c.past } := by
  have begun : c.next? .terminate = some (c.begin false) := by
    simp only [next?, call]
  show (c.next? .terminate).bind _ = _
  rw [begun]
  show ((c.begin false).look?).bind _ = _
  rw [look_begin gone, gone]
  rfl

/--
Whatever is called on a session, and whenever its process ends, is told to stop or lets go of its notice,
no receiver is asked again after it has given the notice.  Whoever listens is told of an end once at most,
before any call to end the process began, and never without a process.  A listener who learns nothing and
gives up takes nothing away: a notice that was not received is there for the next one who asks.  After a
call to end the process it was told to stop, its notice was received exactly once, and a further call is
done at once.  The bench takes the same turns.
-/
theorem end_heard_once {s : Scene} {session : Session} {ds : List Deed} {c : Custody}
    (fresh : s.Keeps session ∨ session = .empty) (h : (new s session).run ds = some c) :
    c.session = session ∧ c.call ≠ .broken ∧
      c.past.countP Happening.isHeard ≤ 1 ∧
      (∀ later note earlier, c.past = later ++ .heard note :: earlier → .began ∉ earlier) ∧
      (session = .empty → c.past.countP Happening.isReceipt = 0) ∧
      (c.call = .listening → (c.scene.sessionNote? session = none → c.next? .look = some c) ∧
        c.next? .giveUp = some { c with call := .idle .silent }) ∧
      (∀ result pid p note, c.call = .idle result → session.pid? = some pid →
        c.scene.processes[pid]? = some p → p.stage = .down note →
        c.past.countP Happening.isReceipt = 0 →
          c.run [.listen, .look] = some (hear { c with scene := c.scene.hear session } note) ∧
          c.run [.terminate, .look] = some
            { c with
              scene := (c.scene.cancelSession session).hear session
              told := true
              receiver := .gone
              call := .idle .nothing
              past := .ended (some note) :: .began :: c.past }) ∧
      (∀ note, .ended note ∈ c.past →
        c.told = true ∧
        (∀ pid, session.pid? = some pid → c.past.countP Happening.isReceipt = 1 ∧
          ∃ p, c.scene.processes[pid]? = some p ∧ p.cancelled = true ∧ p.heard = true) ∧
        ∀ result, c.call = .idle result → c.run [.terminate, .look] = some
          { c with
            scene := c.scene.cancelSession session
            told := true
            call := .idle .nothing
            past := .ended none :: .began :: c.past }) ∧
      ∀ deadline, c.Mirrored deadline := by
  have sound : c.Sound := (sound_new fresh).run h
  have same : c.session = session := session_run h
  subst same
  have most : c.past.countP Happening.isReceipt ≤ 1 := by
    have balance := sound.balance
    split_ifs at balance <;> omega
  refine ⟨rfl, sound.intact, ?_, sound.orderly, fun empty => ?_, fun listens => ⟨?_, ?_⟩, ?_, ?_,
    sound.mirrored⟩
  · refine Nat.le_trans (List.countP_mono_left fun e _ heard => ?_) most
    cases e with
    | heard note => rfl
    | _ => cases heard
  · have balance := sound.balance
    rw [empty] at balance
    exact (Nat.add_eq_zero_iff.1 balance).1
  · exact sound.look_silent listens
  · simp only [next?, listens]
  · intro result pid p note call process found down unheard
    exact sound.next_receipt call process found down unheard
  · intro note mem
    obtain ⟨gone, began⟩ := sound.ended note mem
    have told := sound.told began
    refine ⟨told, fun pid process => ⟨?_, ?_⟩, fun result call => terminate_at_once call gone⟩
    · have balance := sound.balance
      rwa [if_pos gone, if_neg (by rw [process]; exact nofun)] at balance
    · have stands := sound.stands
      rw [told, decide_eq_true gone] at stands
      exact stands pid process

/-- A scene with a process. -/
def attended : Scene :=
  { Scene.initial {} {} fun _ => 0 with processes := [{ stage := .up }] }

/-- Someone listens in vain and gives up before the process lets go of its notice. -/
def missed : List Deed := [.listen, .look, .giveUp, .around (.exit 0 .dropped)]

theorem end_heard_once_missed :
    ∃ c c', (new attended (.of 0)).run missed = some c ∧
      c.run [.listen, .look] = some (hear { c with scene := c.scene.hear (.of 0) } .dropped) ∧
      (new attended (.of 0)).run (missed ++ [.listen, .look, .terminate, .look]) = some c' ∧
      c'.told = true ∧ c'.past.countP Happening.isReceipt = 1 ∧
      c'.run [.terminate, .look] = some
        { c' with
          scene := c'.scene.cancelSession (.of 0)
          told := true
          call := .idle .nothing
          past := .ended none :: .began :: c'.past } := by
  have kept : attended.Keeps (.of 0) := by decide
  have first : (new attended (.of 0)).run missed = some _ := rfl
  have all : (new attended (.of 0)).run (missed ++ [.listen, .look, .terminate, .look]) = some _ := rfl
  obtain ⟨-, -, -, -, -, -, receipt, -⟩ := end_heard_once (.inl kept) first
  obtain ⟨-, -, -, -, -, -, -, ended, -⟩ := end_heard_once (.inl kept) all
  obtain ⟨told, once, further⟩ := ended none List.mem_cons_self
  exact ⟨_, _, first, (receipt .silent 0 _ .dropped rfl rfl rfl rfl rfl).1, all, told,
    (once 0 rfl).1, further .nothing rfl⟩

end Custody

end DnsWarden
