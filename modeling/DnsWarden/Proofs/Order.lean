import DnsWarden.Proofs.Owing

/-!
# Requests in order

The desk serves one client at a time, and a client that does not give up keeps its place until its
request was answered or lost.  So at most one request is under way, for the client that is served, and a
client that reads the status finds none.  `Stance.Orderly` says this, together with where the watch
rests, and every stride, every murmur and every step at the desk keeps it.
-/

namespace DnsWarden

/-- Whether the desk serves a client that has come so far. -/
def Ask.isServed : Ask → Bool
  | .arriving | .queued => false
  | .reading | .sending _ | .awaiting _ => true

/-- The ticket of the reply for which a client waits that has come so far. -/
def Ask.ticket? : Ask → Option Ticket
  | .awaiting t => some t
  | _ => none

theorem Ask.Out.not_served {o : Option (Status × Ask)} (h : Ask.Out o) {desired : Status} {a : Ask}
    (asked : o = some (desired, a)) : a.isServed = false := by
  rw [h desired a asked]
  rfl

section

variable {asks asks' : Client → Option (Status × Ask)} {x y : Stance} {c : Client} {desired : Status}
  {a : Ask}

/-- At most one client is served. -/
def OneServed (asks : Client → Option (Status × Ask)) : Prop :=
  ∀ c c' desired desired' a a', asks c = some (desired, a) → a.isServed = true →
    asks c' = some (desired', a') → a'.isServed = true → c = c'

/-- No client is served. -/
def NoneServed (asks : Client → Option (Status × Ask)) : Prop :=
  ∀ c desired a, asks c = some (desired, a) → a.isServed = false

/-! ## Order -/

/--
At most one request is under way, for the client that is served and waits for its reply, and the watch
rests where a start request is sent and where a stop request was answered.
-/
structure Stance.Orderly (asks : Client → Option (Status × Ask)) (x : Stance) : Prop where
  lone : x.Lone
  owner : ∀ r ∈ x.owed, ∃ c, asks c = some (r.desired, .awaiting r.ticket)
  awaited : ∀ r ∈ x.owed, x.scene.replies[r.ticket]? = some .awaited
  sending : ∀ c desired r, asks c = some (desired, .sending r) →
    r.desired = desired ∧ x.scene.replies[r.ticket]? = some .awaited ∧ (desired = .running → x.Rests)
  stopped : ∀ c t s, asks c = some (.stopped, .awaiting t) →
    x.scene.replies[t]? = some (.given s) → x.Rests
  started : ∀ t, x.mailbox = some (.start t) → x.Rests

namespace Stance.Orderly

/-- The client that is served waits for the reply to any request that is under way. -/
theorem mine (h : x.Orderly asks) (one : OneServed asks) (asked : asks c = some (desired, a))
    (served : a.isServed = true) {r : Request} (hr : r ∈ x.owed) :
    desired = r.desired ∧ a = .awaiting r.ticket := by
  obtain ⟨c', asked'⟩ := h.owner r hr
  obtain rfl : c = c' := one c c' _ _ _ _ asked served asked' rfl
  rw [asked] at asked'
  cases asked'
  exact ⟨rfl, rfl⟩

theorem owed_of_mailbox {r : Request} (sent : x.mailbox = some r) : r ∈ x.owed := by
  unfold Stance.owed
  rw [sent]
  simp

theorem mailbox_of_owed_nil (owed : x.owed = []) (r : Request) : x.mailbox ≠ some r := by
  intro sent
  have here := owed_of_mailbox sent
  rw [owed] at here
  cases here

/-- Nothing is under way while a client is served that does not wait for a reply. -/
theorem owed_nil (h : x.Orderly asks) (one : OneServed asks) (asked : asks c = some (desired, a))
    (served : a.isServed = true) (early : a.ticket? = none) : x.owed = [] := by
  rw [List.eq_nil_iff_forall_not_mem]
  intro r hr
  rw [(h.mine one asked served hr).2] at early
  cases early

/-- Nothing is under way once the reply was given or lost for which the client waits that is served. -/
theorem owed_nil_of_settled {t : Ticket} (h : x.Orderly asks) (one : OneServed asks)
    (asked : asks c = some (desired, .awaiting t))
    (settled : x.scene.replies[t]? ≠ some .awaited) : x.owed = [] := by
  rw [List.eq_nil_iff_forall_not_mem]
  intro r hr
  obtain ⟨-, ticket⟩ := h.mine one asked rfl hr
  have same : t = r.ticket := by
    cases ticket
    rfl
  exact settled (same ▸ h.awaited r hr)

/-- The order is only about clients that send a request or wait for a reply. -/
theorem congr (h : x.Orderly asks)
    (same : ∀ c desired a, a.isServed = true → a ≠ .reading →
      (asks' c = some (desired, a) ↔ asks c = some (desired, a))) : x.Orderly asks' where
  lone := h.lone
  owner r hr := by
    obtain ⟨c, asked⟩ := h.owner r hr
    exact ⟨c, (same c r.desired (.awaiting r.ticket) rfl nofun).2 asked⟩
  awaited := h.awaited
  sending c desired r asked := h.sending c desired r ((same c desired (.sending r) rfl nofun).1 asked)
  stopped c t s asked := h.stopped c t s ((same c .stopped (.awaiting t) rfl nofun).1 asked)
  started := h.started

/-- The order where no request is under way. -/
theorem of_nil (owed : x.owed = [])
    (sending : ∀ c desired r, asks c = some (desired, .sending r) →
      r.desired = desired ∧ x.scene.replies[r.ticket]? = some .awaited ∧ (desired = .running → x.Rests))
    (stopped : ∀ c t s, asks c = some (.stopped, .awaiting t) →
      x.scene.replies[t]? = some (.given s) → x.Rests) : x.Orderly asks where
  lone := by
    unfold Stance.Lone
    rw [owed]
    exact Nat.zero_le 1
  owner r hr := by
    rw [owed] at hr
    cases hr
  awaited r hr := by
    rw [owed] at hr
    cases hr
  sending := sending
  stopped := stopped
  started t sent := absurd sent (mailbox_of_owed_nil owed _)

/-- Without requests and without clients that are served, everything is in order. -/
theorem of_none (owed : x.owed = []) (none : NoneServed asks) : x.Orderly asks := by
  apply of_nil owed
  · intro c desired r asked
    cases none c _ _ asked
  · intro c t s asked
    cases none c _ _ asked

/-- The order where the requests under way and the replies stay the same. -/
theorem of_same (h : x.Orderly asks) (owed : y.owed = x.owed)
    (replies : y.scene.replies = x.scene.replies)
    (sending : ∀ c r, asks c = some (.running, .sending r) → x.Rests → y.Rests)
    (stopped : ∀ c t, asks c = some (.stopped, .awaiting t) → x.Rests → y.Rests)
    (started : ∀ t, y.mailbox = some (.start t) → y.Rests) : y.Orderly asks where
  lone := by
    unfold Stance.Lone
    rw [owed]
    exact h.lone
  owner := by
    rw [owed]
    exact h.owner
  awaited := by
    rw [owed, replies]
    exact h.awaited
  sending c desired r asked := by
    obtain ⟨same, awaited, rests⟩ := h.sending c desired r asked
    rw [replies]
    refine ⟨same, awaited, fun running => ?_⟩
    subst running
    exact sending c r asked (rests rfl)
  stopped c t s asked given := by
    rw [replies] at given
    exact stopped c t asked (h.stopped c t s asked given)
  started := started

/-- What asks nothing of the watch keeps the order. -/
theorem murmur (h : x.Orderly asks) (m : Murmur x y) : y.Orderly asks := by
  have owed : y.owed = x.owed := by
    unfold Stance.owed
    rw [m.mailbox, m.pending, m.stand]
  apply h.of_same owed m.replies
  · exact fun _ _ _ => m.nudge.rests
  · exact fun _ _ _ => m.nudge.rests
  · intro t sent
    rw [m.mailbox] at sent
    exact m.nudge.rests (h.started t sent)

/-- Where the only request under way is answered or lost, only its reply is left to look at. -/
theorem settle (h : x.Orderly asks) (one : OneServed asks) {r : Request} (was : x.owed = [r])
    (none : y.owed = [])
    (rests : ∀ t s, r = .stop t → y.scene.replies[t]? = some (.given s) → y.Rests) :
    y.Orderly asks := by
  have hr : r ∈ x.owed := by
    rw [was]
    exact List.mem_singleton_self r
  apply of_nil none
  · intro c desired r' asked
    cases (h.mine one asked rfl hr).2
  · intro c t s asked given
    obtain ⟨stop, ticket⟩ := h.mine one asked rfl hr
    cases r with
    | start t' => cases stop
    | stop t' =>
      cases ticket
      exact rests _ s rfl given

/-- Every stride keeps the order. -/
theorem stride (h : x.Orderly asks) (one : OneServed asks) (goes : Stride x y) (tends : x.Tends)
    (bears : y.scene.Bears y.stand.bearing) : y.Orderly asks := by
  cases goes.fate h.lone with
  | kept owed replies =>
    -- Only the receipt of a start request ends a rest, and that request is under way before.
    have rests : (∀ t, .start t ∉ x.owed) → x.Rests → y.Rests := by
      intro none rests
      obtain rests | ⟨t, sent, -⟩ := goes.rests tends rests
      · exact rests
      · exact absurd (owed_of_mailbox sent) (none t)
    apply h.of_same owed replies
    · intro c r asked
      apply rests
      intro t ht
      cases (h.mine one asked rfl ht).2
    · intro c t asked
      apply rests
      intro t ht
      cases (h.mine one asked rfl ht).1
    · intro t sent
      obtain same | none := goes.mailbox
      · obtain rests | ⟨-, -, none⟩ := goes.rests tends (h.started t (same.symm.trans sent))
        · exact rests
        · rw [none] at sent
          cases sent
      · rw [none] at sent
        cases sent
  | given was none _ rests =>
    exact h.settle one was none fun t s stop _ => rests t stop (goes.tends tends) bears
  | @lost r was none replies =>
    refine h.settle one was none fun t s stop given => ?_
    have awaited : x.scene.replies[t]? = some .awaited := by
      have here := h.awaited r (was ▸ List.mem_singleton_self r)
      rwa [stop] at here
    have lt : t < x.scene.replies.length := (List.getElem?_eq_some_iff.1 awaited).1
    have lost : (x.scene.forsake t).replies = x.scene.replies.set t .lost := by
      unfold Scene.forsake
      rw [if_pos awaited]
    rw [replies, stop] at given
    change (x.scene.forsake t).replies[t]? = _ at given
    rw [lost, List.getElem?_set_self lt] at given
    cases given

end Stance.Orderly

/-! ## Turns at the desk -/

/-- A client that is served stands at the head of the queue. -/
def InTurn (queue : List Client) (asks : Client → Option (Status × Ask)) : Prop :=
  ∀ c desired a, asks c = some (desired, a) → a.isServed = true → queue.head? = some c

theorem InTurn.oneServed {queue : List Client} (h : InTurn queue asks) : OneServed asks := by
  intro c c' desired desired' a a' asked served asked' served'
  have head := h c desired a asked served
  rw [h c' desired' a' asked' served'] at head
  exact (Option.some.inj head).symm

/-- Where only a client that is served takes a step, no other one is served afterwards. -/
theorem OneServed.only (one : OneServed asks) (asked : asks c = some (desired, a))
    (served : a.isServed = true) (others : ∀ c', c' ≠ c → asks' c' = asks c') {c' : Client}
    {desired' : Status} {a' : Ask} (asked' : asks' c' = some (desired', a'))
    (served' : a'.isServed = true) : c' = c := by
  by_cases here : c' = c
  · exact here
  · rw [others c' here] at asked'
    exact one c' c _ _ _ _ asked' served' asked served

/-- Once the client that was served has left, no client is served. -/
theorem OneServed.noneServed (one : OneServed asks) (asked : asks c = some (desired, a))
    (served : a.isServed = true) (out : Ask.Out (asks' c))
    (others : ∀ c', c' ≠ c → asks' c' = asks c') : NoneServed asks' := by
  intro c' desired' a' asked'
  refine eq_false_of_ne_true fun served' => ?_
  obtain rfl := one.only asked served others asked' served'
  rw [out.not_served asked'] at served'
  cases served'

namespace Desk

variable {d d' : Desk} {n : Ask.Next}

/-- A step at the desk ends with a client served only if that stood at the head of the queue. -/
theorem step_inTurn (h : d.step c desired a = some (d', n)) (asked : asks c = some (desired, a))
    (turn : InTurn d.queue asks) (leads : n.Leads desired (asks' c))
    (others : ∀ c', c' ≠ c → asks' c' = asks c') : InTurn d'.queue asks' := by
  -- A client that stays where it was served, or is served now, stands at the head.
  have stays : ∀ a', n = .waiting a' → d'.queue = d.queue →
      (a'.isServed = true → d.queue.head? = some c) → InTurn d'.queue asks' := by
    rintro a' rfl queue head c' desired' a'' asked' served
    rw [queue]
    by_cases here : c' = c
    · rw [here, leads] at asked'
      cases asked'
      rw [here]
      exact head served
    · rw [others c' here] at asked'
      exact turn c' desired' a'' asked' served
  have leaves : ∀ result, n = .done result → a.isServed = true → InTurn d'.queue asks' := by
    rintro result rfl served c' desired' a' asked' served'
    have none := turn.oneServed.noneServed asked served leads others c' desired' a' asked'
    rw [served'] at none
    cases none
  cases a with
  | arriving =>
    cases h
    intro c' desired' a' asked' served
    by_cases here : c' = c
    · rw [here, leads] at asked'
      cases asked'
      cases served
    · rw [others c' here] at asked'
      show (d.queue ++ [c]).head? = some c'
      rw [List.head?_append, turn c' desired' a' asked' served]
      rfl
  | queued =>
    simp only [step] at h
    split_ifs at h with head
    cases h
    exact stays _ rfl rfl fun _ => head
  | reading =>
    have head := turn c desired _ asked rfl
    simp only [step, Option.some.injEq, decide] at h
    cases desired with
    | running | stopped =>
      dsimp only at h
      split_ifs at h <;> cases h <;>
        first | exact stays _ rfl rfl fun _ => head | exact leaves _ rfl rfl
    | crashed =>
      cases h
      exact leaves _ rfl rfl
  | sending r =>
    have head := turn c desired _ asked rfl
    simp only [step] at h
    split_ifs at h <;> cases h
    · exact leaves _ rfl rfl
    · exact stays _ rfl rfl fun _ => head
  | awaiting t =>
    simp only [step] at h
    split at h <;> cases h
    · exact leaves _ rfl rfl
    · exact leaves _ rfl rfl

/-- Where a client that is served begins to send a request, the order is kept. -/
theorem compose_orderly {r : Request} (ticket : r.ticket = d.scene.replies.length)
    (owed : d.watch.stance.owed = [])
    (only : ∀ {c' desired' a'}, asks' c' = some (desired', a') → a'.isServed = true → c' = c)
    (leads : asks' c = some (r.desired, .sending r))
    (rests : r.desired = .running → d.watch.stance.Rests) :
    (d.update fun s => s.openReply.1).watch.stance.Orderly asks' := by
  have owed : (d.update fun s => s.openReply.1).watch.stance.owed = [] := owed
  apply Stance.Orderly.of_nil owed
  · intro c' desired' r' asked'
    obtain rfl := only asked' rfl
    rw [leads] at asked'
    cases asked'
    refine ⟨rfl, ?_, fun running => Nudge.openReply.rests (rests running)⟩
    rw [ticket]
    exact List.getElem?_concat_length
  · intro c' t s asked'
    obtain rfl := only asked' rfl
    rw [leads] at asked'
    cases (Prod.mk.inj (Option.some.inj asked')).2

/-- Where a client puts its request into the mailbox, the order is kept. -/
theorem post_orderly {r : Request} (isOpen : d.watch.phase ≠ .returned ∧ d.watch.phase ≠ .dropped)
    (empty : d.watch.mailbox = none) (owed : d.watch.stance.owed = [])
    (same : r.desired = desired) (awaited : d.scene.replies[r.ticket]? = some .awaited)
    (only : ∀ {c' desired' a'}, asks' c' = some (desired', a') → a'.isServed = true → c' = c)
    (leads : asks' c = some (desired, .awaiting r.ticket))
    (rests : desired = .running → d.watch.stance.Rests) : (d.post r).watch.stance.Orderly asks' := by
  have posted : Nudge d.watch.stance (d.post r).watch.stance := by
    obtain ⟨⟨s, p, m⟩, q⟩ := d
    obtain rfl : m = none := empty
    exact .post isOpen
  have owed : (d.post r).watch.stance.owed = [r] := by
    have taken : d.watch.scene.pending = none ∧ d.watch.stance.stand.owed = [] := by
      unfold Stance.owed at owed
      simp only [List.append_eq_nil_iff, List.map_eq_nil_iff, Option.toList_eq_nil_iff] at owed
      exact ⟨owed.1.2, owed.2⟩
    show [r] ++ d.watch.scene.pending.toList.map Request.start ++ d.watch.stance.stand.owed = [r]
    rw [taken.1, taken.2]
    rfl
  have mine : ∀ r' ∈ (d.post r).watch.stance.owed, r' = r := by
    rw [owed]
    exact fun r' hr => List.mem_singleton.1 hr
  refine ⟨?_, ?_, ?_, ?_, ?_, ?_⟩
  · unfold Stance.Lone
    rw [owed]
    exact Nat.le_refl 1
  · intro r' hr
    rw [mine r' hr, same]
    exact ⟨c, leads⟩
  · intro r' hr
    rw [mine r' hr]
    exact awaited
  · intro c' desired' r' asked'
    obtain rfl := only asked' rfl
    rw [leads] at asked'
    cases asked'
  · intro c' t s asked' given
    obtain rfl := only asked' rfl
    rw [leads] at asked'
    cases asked'
    rw [show (d.post r).watch.stance.scene.replies[r.ticket]? = _ from awaited] at given
    cases given
  · intro t sent
    obtain rfl := mine _ (Stance.Orderly.owed_of_mailbox sent)
    exact posted.rests (rests same.symm)

/-- A step at the desk keeps the order. -/
theorem step_orderly (h : d.step c desired a = some (d', n)) (asked : asks c = some (desired, a))
    (one : OneServed asks) (leads : n.Leads desired (asks' c))
    (others : ∀ c', c' ≠ c → asks' c' = asks c') (order : d.watch.stance.Orderly asks)
    (rests : d.scene.status = .stopped → d.watch.stance.owed = [] → d.watch.stance.Rests) :
    d'.watch.stance.Orderly asks' := by
  -- Before a client sends a request, nothing is said of it.
  have early : ∀ a', n = .waiting a' → d'.watch = d.watch → (a.isServed = false) →
      (a'.isServed = true → a' = .reading) → d'.watch.stance.Orderly asks' := by
    rintro a' rfl watch unserved reading
    rw [watch]
    refine order.congr fun c' desired' a'' served late => ?_
    by_cases here : c' = c
    · refine iff_of_false (fun asked' => ?_) fun asked' => ?_
      · rw [here, leads] at asked'
        cases asked'
        exact late (reading served)
      · rw [here, asked] at asked'
        cases asked'
        rw [unserved] at served
        cases served
    · rw [others c' here]
  cases a with
  | arriving =>
    cases h
    exact early _ rfl rfl rfl fun served => by cases served
  | queued =>
    simp only [step] at h
    split_ifs at h
    cases h
    exact early _ rfl rfl rfl fun _ => rfl
  | reading =>
    have owed := order.owed_nil one asked rfl rfl
    have gone : Ask.Out (asks' c) → d.watch.stance.Orderly asks' := fun out =>
      .of_none owed (one.noneServed asked rfl out others)
    simp only [step, Option.some.injEq, decide] at h
    cases desired with
    | running =>
      dsimp only at h
      split_ifs at h with stopped <;> cases h
      · exact compose_orderly (r := .start _) rfl owed
          (fun asked' => one.only asked rfl others asked') leads fun _ => rests stopped owed
      · exact gone leads
    | stopped =>
      dsimp only at h
      split_ifs at h <;> cases h
      · exact gone leads
      · exact compose_orderly (r := .stop _) rfl owed
          (fun asked' => one.only asked rfl others asked') leads fun running => by cases running
    | crashed =>
      cases h
      exact gone leads
  | sending r =>
    have owed := order.owed_nil one asked rfl rfl
    obtain ⟨same, awaited, running⟩ := order.sending c desired r asked
    simp only [step] at h
    split_ifs at h with isClosed empty
    · cases h
      have owed' : (d.update (·.forsake r.ticket)).watch.stance.owed = [] := by
        rw [← owed]
        show Stance.owed ⟨_, d.watch.scene.forsake r.ticket, d.watch.mailbox⟩ = _
        unfold Stance.owed
        rw [Scene.pending_forsake]
        rfl
      exact .of_none owed' (one.noneServed asked rfl leads others)
    · cases h
      have empty : d.watch.mailbox = none := Option.isNone_iff_eq_none.1 empty
      have isOpen : d.watch.phase ≠ .returned ∧ d.watch.phase ≠ .dropped := by
        simpa [Watch.isOpen] using isClosed
      exact post_orderly isOpen empty owed same awaited
        (fun asked' => one.only asked rfl others asked') leads running
  | awaiting t =>
    have gone : Ask.Out (asks' c) → d.scene.replies[t]? ≠ some .awaited →
        d.watch.stance.Orderly asks' := fun out settled =>
      .of_none (order.owed_nil_of_settled one asked settled) (one.noneServed asked rfl out others)
    simp only [step] at h
    split at h
    next given =>
      cases h
      exact gone leads (by simp [given])
    next lost =>
      cases h
      exact gone leads (by simp [lost])
    next => cases h

end Desk

end

end DnsWarden
