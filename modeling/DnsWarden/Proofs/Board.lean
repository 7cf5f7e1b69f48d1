import DnsWarden.Proofs.Moods
import DnsWarden.Proofs.Order

/-!
# What callers have still to do

Whether the resolver will agree with the settings is decided by the mood of the watch, by the settings
that are stored, and by what the callers have still to do.  A `Board` shows all this.  `Board.Fair` says
that somebody has still to start a resolver that is wanted and not up, and to stop one that is up and not
wanted, but for the cases in which the callers leave it so; and the steps of the watch and of the callers
keep it.
-/

namespace DnsWarden

/-- The mood to which a request leads sees to that request. -/
theorem Request.request?_of (r : Request) : (Mood.of r).request? = some r := by
  cases r <;> rfl

/-- What becomes of a caller after a step at the desk. -/
def Ask.Next.stage (waiting : Ask → Caller) (done : Except CallFault StatusOutcome → Caller) :
    Ask.Next → Caller
  | .waiting a => waiting a
  | .done result => done result

/-! ## Callers -/

/-- Whether the resolver is to be stopped where the new settings take the place of the old ones. -/
def Settings.demands (new old : Settings) : Bool := old ≠ new && !new.sameButPeriod old

theorem Settings.enabled_of_not_demands {new old : Settings} (h : new.demands old = false) :
    new.enabled = old.enabled := by
  unfold demands sameButPeriod at h
  simp only [ne_eq, decide_not, Bool.and_eq_false_iff, Bool.not_eq_false', decide_eq_true_eq] at h
  obtain rfl | same := h
  · rfl
  · have enabled := congrArg Settings.enabled same
    exact enabled

namespace Caller

/-- Whether the desk serves the caller. -/
def isServed (c : Caller) : Bool := c.ask?.any fun x => x.2.isServed

/-- Whether the caller waits for the reply to its stop request. -/
def awaitsStop : Caller → Bool
  | .stopping _ (.awaiting _) => true
  | _ => false

/-- Whether the caller waits for the reply to its start request. -/
def awaitsStart : Caller → Bool
  | .starting _ (.awaiting _) => true
  | _ => false

/-- Whether the caller has stopped the resolver and not been told that it is started. -/
def isStarting : Caller → Bool
  | .starting _ _ => true
  | _ => false

/-- Whether the caller has still to be told that the resolver is stopped. -/
def stopsLater : Caller → Bool
  | .stored new old => new.demands old
  | .stopping _ _ => true
  | _ => false

/-- Whether the caller has still to ask for a resolver. -/
def startsLater : Caller → Bool
  | .stored new old => new.enabled && new.demands old
  | .stopping new _ => new.enabled
  | .starting _ (.awaiting _) => false
  | .starting _ _ => true
  | _ => false

/-- How far a caller that stores settings can have come, by the mood of the watch and the replies. -/
def Suits (m : Mood) (l : List Reply) : Caller → Prop
  | .asking _ _ => False
  | .stopping _ a => a.Suits m l .stopped
  | .starting _ a => a.Suits m l .running
  | _ => True

/-- The change of the resolver that the caller was told of. -/
def change? : Caller → Option SettingsOutcome
  | .done (.settings (.ok (.restarted o))) => some (.restarted o)
  | .done (.settings (.ok .disabled)) => some .disabled
  | _ => none

end Caller

section

variable {m m' : Mood} {l l' : List Reply} {desired : Status} {a : Ask} {c : Caller}

theorem Ask.Suits.append (h : a.Suits m l desired) (x : Reply) : a.Suits m (l ++ [x]) desired := by
  have old : ∀ {t y}, l[t]? = some y → (l ++ [x])[t]? = some y := fun found => by
    rw [List.getElem?_append_left (List.getElem?_eq_some_iff.1 found).1]
    exact found
  cases a with
  | arriving | queued | reading => exact h
  | sending r => exact ⟨h.1, h.2.1, h.2.2.1, old h.2.2.2⟩
  | awaiting t =>
    obtain ⟨r, sees, ticket, same, awaited⟩ | ⟨idle, stopped, y, given⟩ := h
    · exact .inl ⟨r, sees, ticket, same, old awaited⟩
    · exact .inr ⟨idle, stopped, y, old given⟩

theorem Caller.awaitsStop_of_ask? {t : Ticket} (awaits : c.ask? = some (.stopped, .awaiting t))
    (suits : c.Suits m l) : c.awaitsStop = true := by
  cases c with
  | asking _ _ => exact False.elim suits
  | _ => cases awaits <;> rfl

theorem Caller.awaitsStart_of_ask? {t : Ticket} (awaits : c.ask? = some (.running, .awaiting t))
    (suits : c.Suits m l) : c.awaitsStart = true := by
  cases c with
  | asking _ _ => exact False.elim suits
  | _ => cases awaits <;> rfl

theorem Caller.isServed_of_awaitsStop (awaits : c.awaitsStop = true) : c.isServed = true := by
  unfold Caller.awaitsStop at awaits
  split at awaits
  · rfl
  · cases awaits

theorem Caller.isServed_of_awaitsStart (awaits : c.awaitsStart = true) : c.isServed = true := by
  unfold Caller.awaitsStart at awaits
  split at awaits
  · rfl
  · cases awaits

theorem Caller.Suits.append (h : c.Suits m l) (x : Reply) : c.Suits m (l ++ [x]) := by
  cases c with
  | stopping _ _ | starting _ _ => exact Ask.Suits.append h x
  | _ => exact h

/-- Whoever is served while the mood changes waits for the reply to the request that changes it. -/
theorem Ask.Suits.change {wanted : Bool} (h : a.Suits m l desired)
    (change : Mood.Change wanted (m, l) (m', l')) : a.Suits m' l' desired := by
  have given : ∀ {t x}, l[t]? = some .awaited → (l.set t (.given x))[t]? = some (.given x) :=
    fun awaited => List.getElem?_set_self (List.getElem?_eq_some_iff.1 awaited).1
  cases a with
  | arriving | queued => trivial
  | reading =>
    have idle : m.request? = none := h
    cases change <;> cases idle
  | sending r =>
    have idle : m.request? = none := h.1
    cases change <;> cases idle
  | awaiting t =>
    obtain ⟨r, sees, rfl, same, awaited⟩ | ⟨idle, -⟩ := h
    · cases change with
      | decline | venture => exact .inl ⟨r, sees, rfl, same, awaited⟩
      | refuse =>
        cases sees
        exact .inr ⟨rfl, fun _ => rfl, _, given awaited⟩
      | arrive =>
        cases sees
        cases same
        exact .inr ⟨rfl, by rintro ⟨⟩, _, given awaited⟩
      | halt =>
        cases sees
        exact .inr ⟨rfl, fun _ => rfl, _, given awaited⟩
    · cases change <;> cases idle

theorem Caller.Suits.change {wanted : Bool} (h : c.Suits m l)
    (change : Mood.Change wanted (m, l) (m', l')) : c.Suits m' l' := by
  cases c with
  | stopping _ _ | starting _ _ => exact Ask.Suits.change h change
  | _ => exact h

/-- A caller that is not served has no part in the mood. -/
theorem Caller.Suits.of_not_served (h : c.Suits m l) (unserved : c.isServed = false) :
    c.Suits m' l' := by
  cases c with
  | stopping _ a | starting _ a =>
    cases a with
    | arriving | queued => trivial
    | _ => cases unserved
  | _ => exact h

end

/-! ## The board -/

/-- What decides whether the resolver agrees with the settings. -/
structure Board where
  callers : List Caller
  /-- The change of the resolver that a caller was told of last. -/
  last : Option SettingsOutcome
  /-- Whether the settings stored last want a resolver. -/
  wanted : Bool
  mood : Mood
  replies : List Reply

namespace Board

/-- A caller has come further. -/
def put (b : Board) (id : Nat) (c : Caller) : Board :=
  { b with callers := b.callers.set id c, last := c.change?.or b.last }

/--
Somebody waits for the reply to the request that the watch sees to.  Where a resolver is wanted and none
is up, somebody has still to ask for one, unless nobody was told of a restart after the last stop; and
where one is up that is not wanted, somebody has still to stop it, unless it is up from before.
-/
structure Fair (b : Board) : Prop where
  suits : ∀ c ∈ b.callers, c.Suits b.mood b.replies
  owner : ∀ r, b.mood.request? = some r →
    ∃ c ∈ b.callers, c.ask? = some (r.desired, .awaiting r.ticket)
  rest : b.mood = .rest → b.wanted = true → (∃ c ∈ b.callers, c.startsLater = true) ∨
    (∃ c ∈ b.callers, c.awaitsStop = true) ∨
      (∀ o, b.last ≠ some (.restarted o)) ∧ ∀ c ∈ b.callers, c.awaitsStart = false
  unwanted : (∃ t, b.mood = .unwanted t) → b.wanted = true → ∃ c ∈ b.callers, c.startsLater = true
  up : (b.mood = .up ∨ ∃ t, b.mood = .venture t) → b.wanted = false →
    (∃ c ∈ b.callers, c.stopsLater = true) ∨
      b.last = none ∧ ∀ c ∈ b.callers, c.isStarting = false
  disabled : b.mood = .up → b.last = some .disabled → ∃ c ∈ b.callers, c.awaitsStart = true

theorem exists_mem_set {α : Type} {l : List α} {i : Nat} {old new : α} {P : α → Prop}
    (found : l[i]? = some old) (h : ∃ a ∈ l, P a) (keep : P old → P new) : ∃ a ∈ l.set i new, P a := by
  obtain ⟨lt, -⟩ := List.getElem?_eq_some_iff.1 found
  obtain ⟨a, mem, ha⟩ := h
  obtain ⟨j, here⟩ := List.getElem?_of_mem mem
  by_cases same : i = j
  · subst same
    obtain rfl := Option.some.inj (found.symm.trans here)
    exact ⟨new, List.mem_of_getElem? (List.getElem?_set_self lt), keep ha⟩
  · exact ⟨a, List.mem_of_getElem? ((List.getElem?_set_ne same).trans here), ha⟩

theorem forall_mem_set {α : Type} {l : List α} {i : Nat} {new : α} {P : α → Prop} (here : P new)
    (others : ∀ j a, j ≠ i → l[j]? = some a → P a) : ∀ a ∈ l.set i new, P a := by
  intro a mem
  obtain ⟨j, found⟩ := List.getElem?_of_mem mem
  by_cases same : i = j
  · subst same
    have lt : i < l.length := by simpa using (List.getElem?_eq_some_iff.1 found).1
    obtain rfl := Option.some.inj ((List.getElem?_set_self lt).symm.trans found)
    exact here
  · exact others j a (Ne.symm same) ((List.getElem?_set_ne same).symm.trans found)

theorem forall_mem_set_of_forall {α : Type} {l : List α} {i : Nat} {new : α} {P : α → Prop}
    (h : ∀ a ∈ l, P a) (here : P new) : ∀ a ∈ l.set i new, P a :=
  forall_mem_set here fun _ a _ found => h a (List.mem_of_getElem? found)

/-- No other caller is served. -/
def Serves (b : Board) (id : Nat) : Prop :=
  ∀ i c, b.callers[i]? = some c → c.isServed = true → i = id

theorem Serves.eq {b : Board} {id : Nat} {old c : Caller} (h : b.Serves id)
    (found : b.callers[id]? = some old) (mem : c ∈ b.callers) (served : c.isServed = true) :
    c = old := by
  obtain ⟨i, here⟩ := List.getElem?_of_mem mem
  obtain rfl := h i c here served
  exact Option.some.inj (here.symm.trans found)

namespace Fair

variable {b : Board} {id : Nat} {old new : Caller} {m : Mood} {l : List Reply}

/-- A new caller has nothing to do yet. -/
theorem arrive (h : b.Fair) (new : Settings) :
    ({ b with callers := b.callers ++ [.storing new] } : Board).Fair := by
  have more : ∀ {P : Caller → Prop}, (∃ c ∈ b.callers, P c) →
      ∃ c ∈ b.callers ++ [.storing new], P c := fun ⟨c, mem, hc⟩ => ⟨c, List.mem_append_left _ mem, hc⟩
  have all : ∀ {P : Caller → Prop}, (∀ c ∈ b.callers, P c) → P (.storing new) →
      ∀ c ∈ b.callers ++ [.storing new], P c := by
    intro P old here c mem
    obtain mem | mem := List.mem_append.1 mem
    · exact old c mem
    · obtain rfl := List.mem_singleton.1 mem
      exact here
  exact {
    suits := all h.suits trivial
    owner := fun r sees => more (h.owner r sees)
    rest := fun rest wanted =>
      (h.rest rest wanted).imp more (.imp more (.imp_right fun none => all none rfl))
    unwanted := fun unwanted wanted => more (h.unwanted unwanted wanted)
    up := fun up unwanted => (h.up up unwanted).imp more (.imp_right fun none => all none rfl)
    disabled := fun up disabled => more (h.disabled up disabled) }

theorem openReply (h : b.Fair) : ({ b with replies := b.replies ++ [.awaited] } : Board).Fair :=
  { h with suits := fun c mem => (h.suits c mem).append _ }

/-- A caller goes on that has told the watch nothing, and is told nothing. -/
theorem proceed (h : b.Fair) (found : b.callers[id]? = some old) (suits : new.Suits b.mood b.replies)
    (quiet : ∀ desired t, old.ask? ≠ some (desired, .awaiting t))
    (stops : old.stopsLater = true → new.stopsLater = true)
    (starts : old.startsLater = true → new.startsLater = true) (unasked : new.awaitsStart = false)
    (starting : old.isStarting = false → new.isStarting = false) (untold : new.change? = none) :
    (b.put id new).Fair := by
  have last : (b.put id new).last = b.last := by simp [put, untold]
  have mem : old ∈ b.callers := List.mem_of_getElem? found
  have stop : old.awaitsStop = true → new.awaitsStop = true := by
    intro awaits
    unfold Caller.awaitsStop at awaits
    split at awaits
    · exact absurd rfl (quiet _ _)
    · cases awaits
  have start : old.awaitsStart = true → new.awaitsStart = true := by
    intro awaits
    unfold Caller.awaitsStart at awaits
    split at awaits
    · exact absurd rfl (quiet _ _)
    · cases awaits
  refine ⟨forall_mem_set_of_forall h.suits suits, fun r sees => ?_, fun rest wanted => ?_,
    fun unwanted wanted => exists_mem_set found (h.unwanted unwanted wanted) starts,
    fun up unwanted => ?_, fun up disabled => ?_⟩
  · exact exists_mem_set found (h.owner r sees) fun awaits => absurd awaits (quiet _ _)
  · rw [last]
    obtain later | stopped | ⟨untold, none⟩ := h.rest rest wanted
    · exact .inl (exists_mem_set found later starts)
    · exact .inr (.inl (exists_mem_set found stopped stop))
    · exact .inr (.inr ⟨untold, forall_mem_set_of_forall none unasked⟩)
  · rw [last]
    obtain later | ⟨untold, none⟩ := h.up up unwanted
    · exact .inl (exists_mem_set found later stops)
    · exact .inr ⟨untold, forall_mem_set_of_forall none (starting (none old mem))⟩
  · rw [last] at disabled
    exact exists_mem_set found (h.disabled up disabled) start

/-- Settings are stored in place of others. -/
theorem store {new old : Settings} (h : b.Fair) (found : b.callers[id]? = some (.storing new))
    (before : old.enabled = b.wanted) :
    (({ b with wanted := new.enabled } : Board).put id (.stored new old)).Fair := by
  have mem : (Caller.storing new) ∈ b.callers := List.mem_of_getElem? found
  have here : (Caller.stored new old) ∈ b.callers.set id (.stored new old) :=
    List.mem_of_getElem? (List.getElem?_set_self (List.getElem?_eq_some_iff.1 found).1)
  have more : ∀ {P : Caller → Prop}, (∃ c ∈ b.callers, P c) → ¬ P (.storing new) →
      ∃ c ∈ b.callers.set id (.stored new old), P c :=
    fun h none => exists_mem_set found h fun p => absurd p none
  -- Settings that want a resolver where none was wanted demand a restart, and the other way round.
  have same : new.demands old = false → new.enabled = b.wanted :=
    fun demands => (Settings.enabled_of_not_demands demands).trans before
  have starts : new.enabled = true → new.demands old = true →
      (Caller.stored new old).startsLater = true :=
    fun wanted demands => Bool.and_eq_true_iff.2 ⟨wanted, demands⟩
  refine ⟨forall_mem_set_of_forall h.suits trivial, fun r sees => more (h.owner r sees) (by rintro ⟨⟩),
    fun rest wanted => ?_, fun unwanted wanted => ?_, fun up unwanted => ?_,
    fun up disabled => more (h.disabled up disabled) (by rintro ⟨⟩)⟩
  · cases demands : new.demands old with
    | true => exact .inl ⟨_, here, starts wanted demands⟩
    | false =>
      have wanted : b.wanted = true := (same demands).symm.trans wanted
      obtain later | stopped | ⟨untold, none⟩ := h.rest rest wanted
      · exact .inl (more later (by rintro ⟨⟩))
      · exact .inr (.inl (more stopped (by rintro ⟨⟩)))
      · exact .inr (.inr ⟨untold, forall_mem_set_of_forall none rfl⟩)
  · cases demands : new.demands old with
    | true => exact ⟨_, here, starts wanted demands⟩
    | false => exact more (h.unwanted unwanted ((same demands).symm.trans wanted)) (by rintro ⟨⟩)
  · cases demands : new.demands old with
    | true => exact .inl ⟨_, here, demands⟩
    | false =>
      obtain later | ⟨untold, none⟩ := h.up up ((same demands).symm.trans unwanted)
      · exact .inl (more later (by rintro ⟨⟩))
      · exact .inr ⟨untold, forall_mem_set_of_forall none rfl⟩

/-- The watch goes on. -/
theorem change (h : b.Fair) (change : Mood.Change b.wanted (b.mood, b.replies) (m, l)) :
    ({ b with mood := m, replies := l } : Board).Fair := by
  have suits : ∀ c ∈ b.callers, c.Suits m l := fun c mem => (h.suits c mem).change change
  obtain ⟨callers, last, wanted, mood, replies⟩ := b
  cases change with
  | decline declines =>
    refine ⟨suits, fun r sees => h.owner r sees, ?_, fun _ wanted => ?_, ?_, by rintro ⟨⟩⟩
    · rintro ⟨⟩
    · cases declines.symm.trans wanted
    · rintro (⟨⟨⟩⟩ | ⟨t, ⟨⟩⟩)
  | venture ventures =>
    refine ⟨suits, fun r sees => h.owner r sees, ?_, ?_, fun _ unwanted => ?_, by rintro ⟨⟩⟩
    · rintro ⟨⟩
    · rintro ⟨t, ⟨⟩⟩
    · cases ventures.symm.trans unwanted
  | @refuse t =>
    refine ⟨suits, ?_, fun _ wanted => .inl (h.unwanted ⟨t, rfl⟩ wanted), ?_, ?_, by rintro ⟨⟩⟩
    · rintro r ⟨⟩
    · rintro ⟨t, ⟨⟩⟩
    · rintro (⟨⟨⟩⟩ | ⟨t, ⟨⟩⟩)
  | @arrive t =>
    obtain ⟨c, mem, awaits⟩ := h.owner (.start t) rfl
    refine ⟨suits, ?_, ?_, ?_, fun _ unwanted => h.up (.inr ⟨t, rfl⟩) unwanted,
      fun _ _ => ⟨c, mem, Caller.awaitsStart_of_ask? awaits (h.suits c mem)⟩⟩
    · rintro r ⟨⟩
    · rintro ⟨⟩
    · rintro ⟨t, ⟨⟩⟩
  | @halt t =>
    obtain ⟨c, mem, awaits⟩ := h.owner (.stop t) rfl
    refine ⟨suits, ?_,
      fun _ _ => .inr (.inl ⟨c, mem, Caller.awaitsStop_of_ask? awaits (h.suits c mem)⟩), ?_, ?_,
      by rintro ⟨⟩⟩
    · rintro r ⟨⟩
    · rintro ⟨t, ⟨⟩⟩
    · rintro (⟨⟨⟩⟩ | ⟨t, ⟨⟩⟩)

theorem changes (h : b.Fair) (changes : Mood.Changes b.wanted (b.mood, b.replies) (m, l)) :
    ({ b with mood := m, replies := l } : Board).Fair := by
  have all : ∀ x : Mood × List Reply, Mood.Changes b.wanted (b.mood, b.replies) x →
      ({ b with mood := x.1, replies := x.2 } : Board).Fair := by
    intro x many
    induction many with
    | refl => exact h
    | tail _ last ih => exact ih.change last
  exact all (m, l) changes

/-! ### Callers at the desk -/

/-- The watch sees to no request when a caller's turn comes. -/
theorem idle (h : b.Fair) (found : b.callers[id]? = some old) (unserved : old.isServed = false)
    (serves : b.Serves id) : b.mood.request? = none := by
  refine Option.eq_none_iff_forall_ne_some.2 fun r sees => ?_
  obtain ⟨c, mem, awaits⟩ := h.owner r sees
  have served : c.isServed = true := by
    unfold Caller.isServed
    rw [awaits]
    rfl
  cases serves.eq found mem served
  cases served.symm.trans unserved

/-- A caller has put its request into the mailbox. -/
theorem post {r : Request} (h : b.Fair) (found : b.callers[id]? = some old) (serves : b.Serves id)
    (suits : new.Suits (.of r) b.replies) (awaits : new.ask? = some (r.desired, .awaiting r.ticket)) :
    (({ b with mood := .of r } : Board).put id new).Fair := by
  have lt : id < b.callers.length := (List.getElem?_eq_some_iff.1 found).1
  refine ⟨forall_mem_set suits fun j c other here => ?_, fun r' sees => ?_, fun rest => ?_,
    fun unwanted => ?_, fun up => ?_, fun up => ?_⟩
  · have unserved : c.isServed = false :=
      eq_false_of_ne_true fun served => other (serves j c here served)
    exact (h.suits c (List.mem_of_getElem? here)).of_not_served unserved
  · obtain rfl : r = r' := by
      cases r <;> cases sees <;> rfl
    exact ⟨new, List.mem_of_getElem? (List.getElem?_set_self lt), awaits⟩
  · cases r <;> cases rest
  · obtain ⟨t, unwanted⟩ := unwanted
    cases r <;> cases unwanted
  · obtain up | ⟨t, venture⟩ := up
    · cases r <;> cases up
    · cases r <;> cases venture
  · cases r <;> cases up

section

variable {new : Settings} {a : Ask} {n : Ask.Next}

/-- A caller is told that the resolver is stopped. -/
theorem stopped (h : b.Fair) (found : b.callers[id]? = some (.stopping new a))
    (serves : b.Serves id) (resting : b.mood = .rest) (o : StatusOutcome) :
    (b.put id (World.afterStop new (.ok o))).Fair := by
  have idle : ∀ r, b.mood.request? ≠ some r := by
    rw [resting]
    rintro r ⟨⟩
  have stands : ¬ (b.mood = .up ∨ ∃ t, b.mood = .venture t) := by
    rw [resting]
    rintro (⟨⟨⟩⟩ | ⟨t, ⟨⟩⟩)
  have looks : ¬ ∃ t, b.mood = .unwanted t := by
    rw [resting]
    rintro ⟨t, ⟨⟩⟩
  have lt : id < b.callers.length := (List.getElem?_eq_some_iff.1 found).1
  unfold World.afterStop
  dsimp only
  split_ifs with enabled
  · have here : (Caller.starting new .arriving) ∈ b.callers.set id (.starting new .arriving) :=
      List.mem_of_getElem? (List.getElem?_set_self lt)
    exact ⟨forall_mem_set_of_forall h.suits trivial, fun r sees => absurd sees (idle r),
      fun _ _ => .inl ⟨_, here, rfl⟩, fun unwanted => absurd unwanted looks,
      fun up => absurd up stands, fun up => absurd (.inl up) stands⟩
  · refine ⟨forall_mem_set_of_forall h.suits trivial, fun r sees => absurd sees (idle r),
      fun rest wanted => ?_, fun unwanted => absurd unwanted looks, fun up => absurd up stands,
      fun up => absurd (.inl up) stands⟩
    -- Others that wait for a start are served, and so is this caller.
    have none : ∀ c ∈ b.callers, c.awaitsStart = false := by
      intro c mem
      refine eq_false_of_ne_true fun awaits => ?_
      cases serves.eq found mem (Caller.isServed_of_awaitsStart awaits)
      cases awaits
    have told : (∀ o, (b.put id (.done (.settings (.ok .disabled)))).last ≠ some (.restarted o)) ∧
        ∀ c ∈ (b.put id (.done (.settings (.ok .disabled)))).callers, c.awaitsStart = false :=
      ⟨by rintro o ⟨⟩, forall_mem_set_of_forall none rfl⟩
    obtain later | - := h.rest rest wanted
    · refine .inl (exists_mem_set found later fun starts => ?_)
      exact absurd starts enabled
    · exact .inr (.inr told)

/-- A caller is told that the resolver is started, or was already. -/
theorem started (h : b.Fair) (found : b.callers[id]? = some (.starting new a))
    (serves : b.Serves id) (idle : b.mood.request? = none)
    (told : a.ticket? = none → b.mood = .up) (o : StatusOutcome) :
    (b.put id (.done (.settings (.ok (.restarted o))))).Fair := by
  have mem : Caller.starting new a ∈ b.callers := List.mem_of_getElem? found
  have idle : ∀ r, b.mood.request? ≠ some r := fun r sees => by
    rw [idle] at sees
    cases sees
  refine ⟨forall_mem_set_of_forall h.suits trivial, fun r sees => absurd sees (idle r),
    fun rest wanted => ?_, ?_, fun up unwanted => ?_, by rintro up ⟨⟩⟩
  · have awaits : ∃ t, a = .awaiting t := by
      cases a with
      | awaiting t => exact ⟨t, rfl⟩
      | _ => cases (told rfl).symm.trans rest
    obtain ⟨t, rfl⟩ := awaits
    obtain later | ⟨c, stops, awaits⟩ | ⟨-, none⟩ := h.rest rest wanted
    · exact .inl (exists_mem_set found later (by rintro ⟨⟩))
    · cases serves.eq found stops (Caller.isServed_of_awaitsStop awaits)
      cases awaits
    · cases none _ mem
  · rintro ⟨t, unwanted⟩
    exact absurd (show b.mood.request? = some (.start t) by rw [show b.mood = _ from unwanted]; rfl)
      (idle _)
  · obtain later | ⟨-, none⟩ := h.up up unwanted
    · exact .inl (exists_mem_set found later (by rintro ⟨⟩))
    · cases none _ mem

/-- A caller comes further with its stop. -/
theorem proceed_stopping {a' : Ask} (h : b.Fair) (found : b.callers[id]? = some (.stopping new a))
    (suits : a'.Suits b.mood b.replies .stopped) (quiet : a.ticket? = none) :
    (b.put id (.stopping new a')).Fair := by
  refine h.proceed found suits (fun desired t asked => ?_) (fun _ => rfl) (fun starts => starts) rfl
    (fun _ => rfl) rfl
  cases asked
  cases quiet

/-- A caller comes further with its start, and has not put its request into the mailbox. -/
theorem proceed_starting {a' : Ask} (h : b.Fair) (found : b.callers[id]? = some (.starting new a))
    (suits : a'.Suits b.mood b.replies .running) (quiet : a.ticket? = none)
    (unsent : a'.ticket? = none) : (b.put id (.starting new a')).Fair := by
  have asks : (Caller.starting new a').startsLater = true ∧
      (Caller.starting new a').awaitsStart = false := by
    cases a' with
    | awaiting t => cases unsent
    | _ => exact ⟨rfl, rfl⟩
  refine h.proceed found suits (fun desired t asked => ?_) (fun stops => stops) (fun _ => asks.1)
    asks.2 (by rintro ⟨⟩) rfl
  cases asked
  cases quiet

theorem stopping (h : b.Fair) (found : b.callers[id]? = some (.stopping new a))
    (serves : a ≠ .arriving → b.Serves id) (goes : a.Goes .stopped (b.mood, b.replies) n (m, l)) :
    (({ b with mood := m, replies := l } : Board).put id
      (n.stage (.stopping new) (World.afterStop new))).Fair := by
  obtain ⟨callers, last, wanted, mood, replies⟩ := b
  have suits := h.suits _ (List.mem_of_getElem? found)
  cases goes with
  | join => exact h.proceed_stopping found trivial rfl
  | turn => exact h.proceed_stopping found (h.idle found rfl (serves (by rintro ⟨⟩))) rfl
  | @write _ _ r ticket same needed =>
    have composed : (Ask.sending r).Suits mood (replies ++ [.awaited]) .stopped :=
      ⟨suits, needed, same, by rw [ticket, List.getElem?_concat_length]⟩
    exact h.openReply.proceed_stopping found composed rfl
  | @already _ _ x needless =>
    exact h.stopped found (serves (by rintro ⟨⟩)) (needless.1 rfl) (.already x)
  | @post _ _ r =>
    obtain ⟨-, -, same, awaited⟩ := suits
    exact h.post found (serves (by rintro ⟨⟩)) (.inl ⟨r, r.request?_of, rfl, same, awaited⟩)
      (by rw [same]; rfl)
  | @told _ _ _ x given =>
    obtain ⟨r, -, -, -, awaited⟩ | ⟨-, resting, -⟩ := suits
    · cases given.symm.trans awaited
    · exact h.stopped found (serves (by rintro ⟨⟩)) (resting rfl) (.changed x)

theorem starting (h : b.Fair) (found : b.callers[id]? = some (.starting new a))
    (serves : a ≠ .arriving → b.Serves id) (goes : a.Goes .running (b.mood, b.replies) n (m, l)) :
    (({ b with mood := m, replies := l } : Board).put id
      (n.stage (.starting new) World.afterStart)).Fair := by
  obtain ⟨callers, last, wanted, mood, replies⟩ := b
  have suits := h.suits _ (List.mem_of_getElem? found)
  cases goes with
  | join => exact h.proceed_starting found trivial rfl rfl
  | turn => exact h.proceed_starting found (h.idle found rfl (serves (by rintro ⟨⟩))) rfl rfl
  | @write _ _ r ticket same needed =>
    have composed : (Ask.sending r).Suits mood (replies ++ [.awaited]) .running :=
      ⟨suits, needed, same, by rw [ticket, List.getElem?_concat_length]⟩
    exact h.openReply.proceed_starting found composed rfl rfl
  | already needless =>
    have up : mood = .up := by
      have idle : mood.request? = none := suits
      cases mood with
      | up => rfl
      | rest => cases needless.2 rfl
      | _ => cases idle
    exact h.started found (serves (by rintro ⟨⟩)) suits (fun _ => up) _
  | @post _ _ r =>
    obtain ⟨-, -, same, awaited⟩ := suits
    exact h.post found (serves (by rintro ⟨⟩)) (.inl ⟨r, r.request?_of, rfl, same, awaited⟩)
      (by rw [same]; rfl)
  | told given =>
    obtain ⟨r, -, -, -, awaited⟩ | ⟨idle, -, -⟩ := suits
    · cases given.symm.trans awaited
    · exact h.started found (serves (by rintro ⟨⟩)) idle (by rintro ⟨⟩) _

end

end Fair

end Board

end DnsWarden
