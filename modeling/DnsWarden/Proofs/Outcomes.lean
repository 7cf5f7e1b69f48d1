import DnsWarden.Proofs.Deals
import DnsWarden.Proofs.Hall
import Mathlib.Data.List.Nodup

/-!
# The outcomes of requests

Every request that was sent is accounted for in a `Ledger`: it is in the mailbox or held by the watch,
or else it was answered, or lost before it was received.  A `Book` balances with a ledger if this holds,
with the replies as they should be, and the requests are `Known` if those that clients have yet to send
are new and those for which they wait were sent.  Every doing keeps both, and
`World.requests_have_one_outcome` says what follows for callers.
-/

namespace DnsWarden

/-! ## The ledger -/

/-- What has become of the requests that the watch does not have any more, the newest first. -/
structure Ledger where
  /-- The requests that the watch has not received. -/
  lost : List Request := []
  /-- The requests that the watch held when it was dropped. -/
  dropped : List Request := []
  /-- The requests that were answered, with the answers. -/
  settled : List (Request × Status) := []

namespace Book

def sent (b : Book) : List Request := b.deals.filterMap Deal.sent?

def received (b : Book) : List Request := b.deals.filterMap Deal.received?

def answers (b : Book) : List (Ticket × Status) := b.deals.filterMap Deal.answer?

/-- Every request that was sent is accounted for once, and its reply is as it should be. -/
structure Balances (b : Book) (l : Ledger) : Prop where
  sent : b.sent = l.lost ++ (b.mailbox.toList ++ b.received)
  received : b.received = l.dropped ++ (b.held ++ l.settled.map Prod.fst)
  answers : b.answers = l.settled.map fun p => (p.1.ticket, p.2)
  unique : (b.sent.map Request.ticket).Nodup
  stops : ∀ p ∈ l.settled, ∀ t, p.1 = .stop t → p.2 = .stopped
  awaited : ∀ r ∈ b.mailbox.toList ++ b.held, b.replies[r.ticket]? = some .awaited
  given : ∀ p ∈ l.settled, b.replies[p.1.ticket]? = some (.given p.2)
  lost : ∀ r ∈ l.lost ++ l.dropped, b.replies[r.ticket]? = some .lost

namespace Balances

variable {b b' : Book} {l : Ledger}

theorem sent_eq (h : b.Balances l) :
    b.sent = l.lost ++ (b.mailbox.toList ++ (l.dropped ++ (b.held ++ l.settled.map Prod.fst))) := by
  rw [h.sent, h.received]

/-- There is a reply for every request that was sent. -/
theorem replied (h : b.Balances l) {r : Request} (sent : r ∈ b.sent) :
    ∃ reply, b.replies[r.ticket]? = some reply := by
  rw [h.sent_eq] at sent
  simp only [List.mem_append, List.mem_map] at sent
  obtain lost | waiting | dropped | held | ⟨p, settled, rfl⟩ := sent
  · exact ⟨_, h.lost r (List.mem_append_left _ lost)⟩
  · exact ⟨_, h.awaited r (List.mem_append_left _ waiting)⟩
  · exact ⟨_, h.lost r (List.mem_append_right _ dropped)⟩
  · exact ⟨_, h.awaited r (List.mem_append_right _ held)⟩
  · exact ⟨_, h.given p settled⟩

theorem ticket_lt (h : b.Balances l) {r : Request} (sent : r ∈ b.sent) :
    r.ticket < b.replies.length := by
  obtain ⟨reply, here⟩ := h.replied sent
  exact (List.getElem?_eq_some_iff.1 here).1

/-- The balance depends on no other replies than those to the requests that were sent. -/
theorem congr (h : b.Balances l) {replies : List Reply}
    (kept : ∀ r ∈ b.sent, replies[r.ticket]? = b.replies[r.ticket]?) :
    Balances { b with replies } l := by
  have here : ∀ r ∈ l.lost ++ (b.mailbox.toList ++ (l.dropped ++ (b.held ++ l.settled.map Prod.fst))),
      replies[r.ticket]? = b.replies[r.ticket]? := by
    rw [← h.sent_eq]
    exact kept
  simp only [List.mem_append, List.mem_map] at here
  refine ⟨h.sent, h.received, h.answers, h.unique, h.stops, fun r hr => ?_, fun p hp => ?_,
    fun r hr => ?_⟩
  · exact (here r (by rcases List.mem_append.1 hr with hr | hr <;> simp [hr])).trans (h.awaited r hr)
  · exact (here p.1 (.inr (.inr (.inr (.inr ⟨p, hp, rfl⟩))))).trans (h.given p hp)
  · exact (here r (by rcases List.mem_append.1 hr with hr | hr <;> simp [hr])).trans (h.lost r hr)

/-- No request has the ticket of another. -/
theorem ticket_inj (h : b.Balances l) {r r' : Request} (sent : r ∈ b.sent) (sent' : r' ∈ b.sent)
    (same : r.ticket = r'.ticket) : r = r' :=
  List.inj_on_of_nodup_map h.unique sent sent' same

/-! ### What the watch and clients do -/

section

variable {deals : List Deal} {mailbox : Option Request} {held : List Request} {replies : List Reply}
  {settled : List (Request × Status)} {r : Request}

theorem receive (h : Balances ⟨deals, some r, [], replies⟩ { settled }) :
    Balances ⟨.received r :: deals, none, [r], replies⟩ { settled } where
  sent := h.sent
  received := congrArg (r :: ·) h.received
  answers := h.answers
  unique := h.unique
  stops := h.stops
  awaited := h.awaited
  given := h.given
  lost := h.lost

/-- No other request has the ticket of the one that is held. -/
theorem alone (h : Balances ⟨deals, mailbox, [r], replies⟩ { settled }) :
    ∀ r' ∈ mailbox.toList ++ settled.map Prod.fst, r'.ticket ≠ r.ticket := by
  have unique := h.unique
  rw [h.sent_eq] at unique
  simp only [List.map_append, List.map_cons, List.nil_append, List.singleton_append] at unique
  have apart := (List.nodup_cons.1 (List.nodup_middle.1 unique)).1
  intro r' hr' same
  rw [← List.map_append, ← same] at apart
  exact apart (List.mem_map_of_mem hr')

theorem answer {status : Status} (h : Balances ⟨deals, mailbox, [r], replies⟩ { settled })
    (stops : ∀ t, r = .stop t → status = .stopped) :
    Balances ⟨.answered r.ticket status :: deals, mailbox, [], replies.set r.ticket (.given status)⟩
      { settled := (r, status) :: settled } := by
  have other : ∀ r' ∈ mailbox.toList ++ settled.map Prod.fst,
      (replies.set r.ticket (.given status))[r'.ticket]? = replies[r'.ticket]? := fun r' hr' =>
    List.getElem?_set_ne (h.alone r' hr').symm
  refine ⟨h.sent, h.received, congrArg ((r.ticket, status) :: ·) h.answers, h.unique, ?_, ?_, ?_, nofun⟩
  · exact List.forall_mem_cons.2 ⟨stops, h.stops⟩
  · intro r' waiting
    rw [List.append_nil] at waiting
    have waiting' := List.mem_append_left (settled.map Prod.fst) waiting
    exact (other r' waiting').trans (h.awaited r' (List.mem_append_left _ waiting))
  · refine List.forall_mem_cons.2 ⟨?_, fun p here => ?_⟩
    · exact List.getElem?_set_self (h.ticket_lt (r := r) (by simp [h.sent_eq]))
    · have here' := List.mem_append_right mailbox.toList (List.mem_map_of_mem (f := Prod.fst) here)
      exact (other p.1 here').trans (h.given p here)

/-- A request is sent whose ticket is new. -/
theorem send (h : Balances ⟨deals, none, held, replies⟩ { settled })
    (new : r.ticket ∉ (Book.sent ⟨deals, none, held, replies⟩).map Request.ticket)
    (awaited : replies[r.ticket]? = some .awaited) :
    Balances ⟨.sent r :: deals, some r, held, replies⟩ { settled } where
  sent := congrArg (r :: ·) h.sent
  received := h.received
  answers := h.answers
  unique := List.nodup_cons.2 ⟨new, h.unique⟩
  stops := h.stops
  awaited := List.forall_mem_cons.2 ⟨awaited, h.awaited⟩
  given := h.given
  lost := h.lost

/-- Once the watch is done, the requests that were under way are lost. -/
theorem close (h : b.Balances { settled }) :
    b.close.Balances { lost := b.mailbox.toList, dropped := b.held, settled } := by
  have settles : ∀ p ∈ settled, b.close.replies[p.1.ticket]? = some (.given p.2) := by
    intro p here
    have given := h.given p here
    unfold Book.close
    rw [getElem?_foldr_forsaken, given, if_neg]
    exact fun both => nomatch both.2
  refine ⟨h.sent, h.received, h.answers, h.unique, h.stops, nofun, settles, fun r under => ?_⟩
  unfold Book.close
  rw [getElem?_foldr_forsaken, if_pos ⟨List.mem_map_of_mem under, h.awaited r under⟩]

end

end Balances

/-! ## Clients -/

/-- The requests that clients have yet to send are new, and those for which they wait were sent. -/
structure Known (asks : Client → Option (Status × Ask)) (b : Book) : Prop where
  sending : ∀ c desired r, asks c = some (desired, .sending r) →
    r.ticket ∉ b.sent.map Request.ticket ∧ b.replies[r.ticket]? = some .awaited
  apart : ∀ c c' desired desired' r r', asks c = some (desired, .sending r) →
    asks c' = some (desired', .sending r') → r.ticket = r'.ticket → c = c'
  awaiting : ∀ c desired t, asks c = some (desired, .awaiting t) → t ∈ b.sent.map Request.ticket

namespace Known

variable {asks asks' : Client → Option (Status × Ask)} {b b' : Book} {l : Ledger}

/-- What is known depends on no other replies than those to requests that were not sent. -/
theorem congr (h : b.Known asks) (sent : b'.sent = b.sent)
    (kept : ∀ t, t ∉ b.sent.map Request.ticket → b'.replies[t]? = b.replies[t]?) : b'.Known asks where
  sending c desired r asked := by
    obtain ⟨new, awaited⟩ := h.sending c desired r asked
    rw [sent, kept _ new]
    exact ⟨new, awaited⟩
  apart := h.apart
  awaiting c desired t asked := by
    rw [sent]
    exact h.awaiting c desired t asked

theorem dealing (h : b.Known asks) (balances : b.Balances l) (goes : Dealing b b') : b'.Known asks := by
  cases goes with
  | receive => exact h.congr rfl fun _ _ => rfl
  | @answer deals mailbox r replies status _ =>
    refine h.congr rfl fun t new => List.getElem?_set_ne fun same => new ?_
    rw [← same, balances.sent_eq]
    simp

theorem close (h : b.Known asks) (balances : b.Balances l) : b.close.Known asks := by
  refine h.congr rfl fun t new => ?_
  unfold Book.close
  rw [getElem?_foldr_forsaken, if_neg]
  rintro ⟨under, -⟩
  apply new
  rw [balances.sent_eq]
  simp only [List.map_append, List.mem_append] at under ⊢
  tauto

theorem proceed (h : b.Known asks) (fewer : ∀ c desired a, a.hasRequest = true →
    asks' c = some (desired, a) → asks c = some (desired, a)) : b.Known asks' where
  sending c desired r asked := h.sending c desired r (fewer c desired _ rfl asked)
  apart c c' desired desired' r r' asked asked' :=
    h.apart c c' desired desired' r r' (fewer c desired _ rfl asked) (fewer c' desired' _ rfl asked')
  awaiting c desired t asked := h.awaiting c desired t (fewer c desired _ rfl asked)

section

variable {c : Client} {desired : Status} {r : Request}

/-- A client writes a request, for the next reply. -/
theorem compose (h : b.Known asks) (balances : b.Balances l) (ticket : r.ticket = b.replies.length)
    (leads : asks' c = some (desired, .sending r)) (others : ∀ c', c' ≠ c → asks' c' = asks c') :
    Known asks' { b with replies := b.replies ++ [.awaited] } := by
  have later : ∀ {c' desired' r'}, c' ≠ c → asks' c' = some (desired', .sending r') →
      r'.ticket < b.replies.length := by
    intro c' desired' r' other asked
    rw [others c' other] at asked
    exact (List.getElem?_eq_some_iff.1 (h.sending c' desired' r' asked).2).1
  have mine : ∀ {desired' a}, asks' c = some (desired', a) → a = .sending r := by
    intro desired' a asked
    rw [leads] at asked
    cases asked
    rfl
  refine ⟨fun c' desired' r' asked => ?_, fun c₁ c₂ desired₁ desired₂ r₁ r₂ asked₁ asked₂ same => ?_,
    fun c' desired' t asked => ?_⟩
  · by_cases here : c' = c
    · subst here
      cases mine asked
      refine ⟨fun old => ?_, ?_⟩
      · obtain ⟨r', sent, same⟩ := List.mem_map.1 old
        exact absurd (balances.ticket_lt sent) (by rw [same, ticket]; exact Nat.lt_irrefl _)
      · rw [ticket]
        exact List.getElem?_concat_length
    · have lt := later here asked
      rw [others c' here] at asked
      obtain ⟨new, awaited⟩ := h.sending c' desired' r' asked
      exact ⟨new, (List.getElem?_append_left lt).trans awaited⟩
  · by_cases here₁ : c₁ = c <;> by_cases here₂ : c₂ = c
    · rw [here₁, here₂]
    · have lt := later here₂ asked₂
      subst here₁
      cases mine asked₁
      exact absurd lt (same ▸ ticket ▸ Nat.lt_irrefl _)
    · have lt := later here₁ asked₁
      subst here₂
      cases mine asked₂
      exact absurd lt (same ▸ ticket ▸ Nat.lt_irrefl _)
    · rw [others c₁ here₁] at asked₁
      rw [others c₂ here₂] at asked₂
      exact h.apart c₁ c₂ desired₁ desired₂ r₁ r₂ asked₁ asked₂ same
  · have other : c' ≠ c := by
      rintro rfl
      cases mine asked
    rw [others c' other] at asked
    exact h.awaiting c' desired' t asked

/-- A client puts its request into the mailbox. -/
theorem post {deals : List Deal} {held : List Request} {replies : List Reply}
    (h : Known asks ⟨deals, none, held, replies⟩) (asked : asks c = some (desired, .sending r))
    (leads : asks' c = some (desired, .awaiting r.ticket))
    (others : ∀ c', c' ≠ c → asks' c' = asks c') :
    Known asks' ⟨.sent r :: deals, some r, held, replies⟩ := by
  have other : ∀ {c' desired' r'}, asks' c' = some (desired', .sending r') → c' ≠ c := by
    rintro c' desired' r' asked' rfl
    rw [leads] at asked'
    cases asked'
  refine ⟨fun c' desired' r' asked' => ?_, fun c₁ c₂ desired₁ desired₂ r₁ r₂ asked₁ asked₂ => ?_,
    fun c' desired' t asked' => ?_⟩
  · have ne := other asked'
    rw [others c' ne] at asked'
    obtain ⟨new, awaited⟩ := h.sending c' desired' r' asked'
    refine ⟨fun old => ?_, awaited⟩
    obtain same | old := List.mem_cons.1 old
    · exact ne (h.apart c' c desired' desired r' r asked' asked same)
    · exact new old
  · rw [others c₁ (other asked₁)] at asked₁
    rw [others c₂ (other asked₂)] at asked₂
    exact h.apart c₁ c₂ desired₁ desired₂ r₁ r₂ asked₁ asked₂
  · by_cases here : c' = c
    · rw [here, leads] at asked'
      cases asked'
      exact List.mem_cons_self
    · rw [others c' here] at asked'
      exact List.mem_cons_of_mem _ (h.awaiting c' desired' t asked')

/-- A client takes back a request that it has not posted. -/
theorem withdraw (h : b.Known asks) (asked : asks c = some (desired, .sending r))
    (out : Ask.Out (asks' c)) (others : ∀ c', c' ≠ c → asks' c' = asks c') :
    Known asks' { b with replies := forsaken r.ticket b.replies } := by
  have other : ∀ {c' desired' a}, a.hasRequest = true → asks' c' = some (desired', a) → c' ≠ c := by
    rintro c' desired' a has asked' rfl
    rw [out.not_hasRequest asked'] at has
    cases has
  refine ⟨fun c' desired' r' asked' => ?_, fun c₁ c₂ desired₁ desired₂ r₁ r₂ asked₁ asked₂ => ?_,
    fun c' desired' t asked' => ?_⟩
  · have ne := other rfl asked'
    rw [others c' ne] at asked'
    obtain ⟨new, awaited⟩ := h.sending c' desired' r' asked'
    refine ⟨new, ?_⟩
    dsimp only
    rw [getElem?_forsaken, if_neg, awaited]
    exact fun same => ne (h.apart c' c desired' desired r' r asked' asked same.1)
  · rw [others c₁ (other rfl asked₁)] at asked₁
    rw [others c₂ (other rfl asked₂)] at asked₂
    exact h.apart c₁ c₂ desired₁ desired₂ r₁ r₂ asked₁ asked₂
  · rw [others c' (other rfl asked')] at asked'
    exact h.awaiting c' desired' t asked'

end

end Known

end Book

/-! ## Accounts -/

/-- The requests are accounted for. -/
structure Hall.Accounts (h : Hall) : Prop where
  fits : h.stance.Fits
  known : h.stance.book.Known h.asks
  balance : ∃ l, h.stance.book.Balances l ∧
    (h.stance.stand.isOver = false → l.lost = [] ∧ l.dropped = []) ∧
    (h.stance.stand ≠ .waiting .dropped → l.dropped = [])

theorem Murmur.book {x y : Stance} (h : Murmur x y) : y.book = x.book := by
  have deals : y.scene.deals = x.scene.deals := by
    have mailbox := h.mailbox
    cases h.nudge with
    | told told => exact told.deals
    | refreshFailed _ => simp
    | forsake => exact Scene.deals_forsake _ _
    | post _ => cases mailbox
    | _ => rfl
  unfold Stance.book Stance.held
  rw [deals, h.mailbox, h.pending, h.stand, h.replies]

namespace Hall.Accounts

variable {asks asks' : Client → Option (Status × Ask)} {x y : Stance}

/-- What strides do with the requests of a watch that goes on. -/
theorem dealings {b b' : Book} (h : Dealings b b') (known : b.Known asks)
    (balance : ∃ settled, b.Balances { settled }) :
    b'.Known asks ∧ ∃ settled, b'.Balances { settled } := by
  induction h with
  | refl => exact ⟨known, balance⟩
  | tail _ last ih =>
    obtain ⟨known, settled, balances⟩ := ih
    refine ⟨known.dealing balances last, ?_⟩
    cases last with
    | receive => exact ⟨settled, balances.receive⟩
    | answer status stops => exact ⟨_, balances.answer stops⟩

/-- While the watch is not done, no request is lost. -/
theorem under_way (h : Hall.Accounts ⟨asks, x⟩) (goes : x.stand.isOver = false) :
    ∃ settled, x.book.Balances { settled } := by
  obtain ⟨⟨lost, dropped, settled⟩, balances, none, -⟩ := h.balance
  obtain ⟨rfl, rfl⟩ := none goes
  exact ⟨settled, balances⟩

theorem doing {h h' : Hall} (doing : Doing h h') (accounts : h.Accounts) : h'.Accounts := by
  have fits : h'.stance.Fits := doing.keep Shift.fits accounts.fits
  cases doing with
  | @stride asks x y goes =>
    obtain ⟨settled, balances⟩ := accounts.under_way goes.under_way
    cases ended : y.stand.isOver with
    | false =>
      obtain ⟨known, settled', balances'⟩ :=
        dealings (goes.dealings accounts.fits ended) accounts.known ⟨settled, balances⟩
      exact ⟨fits, known, _, balances', fun _ => ⟨rfl, rfl⟩, fun _ => rfl⟩
    | true =>
      obtain ⟨free, closes⟩ := goes.returns accounts.fits ended
      have balances' := closes ▸ balances.close
      have onward : y.stand.isOver = false → False := fun goes => by rw [ended] at goes; cases goes
      exact ⟨fits, closes ▸ accounts.known.close balances, _, balances', fun goes => (onward goes).elim,
        fun _ => free⟩
  | @drop asks w isOpen begun =>
    have goes : w.stance.stand.isOver = false := by rw [w.isOver_stance, isOpen]; rfl
    obtain ⟨settled, balances⟩ := accounts.under_way goes
    have closes : w.drop.stance.book = w.stance.book.close := w.book_drop
    exact ⟨fits, closes ▸ accounts.known.close balances, _, closes ▸ balances.close, nofun,
      fun driven => (driven rfl).elim⟩
  | @murmur asks x y heard =>
    have same : y.book = x.book := heard.book
    obtain ⟨l, balances, goes, driven⟩ := accounts.balance
    exact ⟨fits, same ▸ accounts.known, l, same ▸ balances, heard.stand ▸ goes, heard.stand ▸ driven⟩
  | proceed fewer => exact ⟨fits, accounts.known.proceed fewer, accounts.balance⟩
  | compose ticket wish leads others =>
    obtain ⟨l, balances, rest⟩ := accounts.balance
    refine ⟨fits, accounts.known.compose balances ticket leads others, l, ?_, rest⟩
    exact balances.congr fun r sent => List.getElem?_append_left (balances.ticket_lt sent)
  | @post asks asks' p s c desired r asked isOpen leads others =>
    obtain ⟨settled, balances⟩ := accounts.under_way (Stand.isOver_waiting isOpen)
    obtain ⟨new, awaited⟩ := accounts.known.sending c desired r asked
    exact ⟨fits, accounts.known.post asked leads others, _, balances.send new awaited,
      fun _ => ⟨rfl, rfl⟩, fun _ => rfl⟩
  | @withdraw asks asks' st s m c desired r asked out others =>
    obtain ⟨l, balances, rest⟩ := accounts.balance
    obtain ⟨new, -⟩ := accounts.known.sending c desired r asked
    have same : Stance.book ⟨st, s.forsake r.ticket, m⟩ =
        { Stance.book ⟨st, s, m⟩ with replies := forsaken r.ticket s.replies } := by
      simp [Stance.book, Stance.held, Scene.replies_forsake]
    refine ⟨fits, same ▸ accounts.known.withdraw asked out others, l, ?_, rest⟩
    rw [same]
    refine balances.congr fun r' sent => ?_
    rw [getElem?_forsaken, if_neg]
    · rfl
    · exact fun here => new (here.1 ▸ List.mem_map_of_mem sent)

end Hall.Accounts

/-! ## Runs -/

namespace World

variable {policy : Policy} {settings : Settings} {draws : Nat → Nat} {ms : List Move} {w : World}

theorem run_accounts (h : (World.initial policy settings draws).run ms = some w) : w.hall.Accounts := by
  apply run_uphold (fun _ _ => Hall.Accounts.doing) h
  have none : ∀ c, (World.initial policy settings draws).ask? c = none := by
    intro c
    cases c <;> rfl
  refine ⟨⟨fun _ => rfl, fun _ => rfl⟩, ⟨?_, ?_, ?_⟩, {}, ?_, fun _ => ⟨rfl, rfl⟩, fun _ => rfl⟩
  · intro c desired r asked
    exact absurd (asked.symm.trans (none c)) nofun
  · intro c c' desired desired' r r' asked
    exact absurd (asked.symm.trans (none c)) nofun
  · intro c desired t asked
    exact absurd (asked.symm.trans (none c)) nofun
  · exact ⟨rfl, rfl, rfl, List.nodup_nil, nofun, nofun, nofun, nofun⟩

/-- Once the watch is done, every client that sends a request or waits for a reply leaves with a result:
the answer to its request, if there is one. -/
theorem settles_when_over (h : w.hall.Accounts) (ended : w.watch.isOpen = false) (c : Client)
    (desired : Status) :
    (∀ r, w.ask? c = some (desired, .sending r) → w.Settles c desired (.error .terminated)) ∧
    ∀ t, w.ask? c = some (desired, .awaiting t) →
      (t ∉ w.scene.journal.answers.map Prod.fst → w.Settles c desired (.error .terminated)) ∧
      ∀ s, (t, s) ∈ w.scene.journal.answers → w.Settles c desired (.ok (.changed s)) := by
  obtain ⟨l, balances, -⟩ := h.balance
  have answers : w.scene.journal.answers = l.settled.map fun p => (p.1.ticket, p.2) := balances.answers
  have sent : w.hall.stance.book.sent = l.lost ++ (l.dropped ++ l.settled.map Prod.fst) := by
    obtain ⟨mailbox, held⟩ := h.fits.nothing_left (w.watch.isOver_stance.trans (congrArg _ ended))
    rw [balances.sent_eq, show w.hall.stance.book.mailbox = none from mailbox,
      show w.hall.stance.book.held = [] from held]
    rfl
  refine ⟨fun r asked => ?_, fun t asked => ⟨fun unanswered => ?_, fun s answered => ?_⟩⟩
  · refine ⟨.sending r, (w.warden.desk.update (·.forsake r.ticket)).leave c, asked, ?_⟩
    have closed : w.warden.desk.watch.isOpen = false := ended
    simp only [Desk.step, closed]
    rfl
  · refine ⟨.awaiting t, w.warden.desk.leave c, asked, ?_⟩
    have lost : w.warden.desk.scene.replies[t]? = some .lost := by
      obtain ⟨r, here, rfl⟩ := List.mem_map.1 (h.known.awaiting c desired t asked)
      rw [sent, ← List.append_assoc] at here
      obtain lost | settled := List.mem_append.1 here
      · exact balances.lost r lost
      · obtain ⟨p, answered, rfl⟩ := List.mem_map.1 settled
        rw [answers, List.map_map] at unanswered
        exact absurd (List.mem_map.2 ⟨p, answered, rfl⟩) unanswered
    simp only [Desk.step, lost]
    rfl
  · refine ⟨.awaiting t, w.warden.desk.leave c, asked, ?_⟩
    have given : w.warden.desk.scene.replies[t]? = some (.given s) := by
      rw [answers] at answered
      obtain ⟨p, settled, same⟩ := List.mem_map.1 answered
      cases same
      exact balances.given p settled
    simp only [Desk.step, given]
    rfl

/--
Every request that was sent has one outcome.  No two share a ticket; the watch receives them in the
order in which they were sent, each once, and answers those that it has received in that order, each at
most once, a stop request with the status stopped.  A request that it has received and not answered is
held until it is, unless the watch is dropped, and no start request waits while it serves.  When it
returns, it has answered exactly the requests that it has received.  Once it is over, a client that has
yet to send its request leaves with an error, and so does one that waits for a reply, unless its request
was answered: then it leaves with the answer.
-/
theorem requests_have_one_outcome (h : (World.initial policy settings draws).run ms = some w) :
    (w.scene.journal.sent.map Request.ticket).Nodup ∧
    w.scene.journal.received <:+ w.scene.journal.sent ∧
    w.scene.journal.answers.map Prod.fst <:+ w.scene.journal.received.map Request.ticket ∧
    (∀ t s, .stop t ∈ w.scene.journal.received → (t, s) ∈ w.scene.journal.answers → s = .stopped) ∧
    (w.watch.phase ≠ .dropped → w.scene.journal.received.map Request.ticket =
      w.stance.held.map Request.ticket ++ w.scene.journal.answers.map Prod.fst) ∧
    (∀ session, w.watch.phase = .serving session → w.scene.pending = none) ∧
    (w.watch.phase = .returned →
      w.scene.journal.received.map Request.ticket = w.scene.journal.answers.map Prod.fst) ∧
    (w.watch.isOpen = false → ∀ c desired,
      (∀ r, w.ask? c = some (desired, .sending r) → w.Settles c desired (.error .terminated)) ∧
      ∀ t, w.ask? c = some (desired, .awaiting t) →
        (t ∉ w.scene.journal.answers.map Prod.fst → w.Settles c desired (.error .terminated)) ∧
        ∀ s, (t, s) ∈ w.scene.journal.answers → w.Settles c desired (.ok (.changed s))) := by
  have accounts := run_accounts h
  have pending : w.stance.stand.canHold = false → w.scene.pending = none := accounts.fits.pending
  obtain ⟨l, balances, -, driven⟩ := accounts.balance
  have sent : w.scene.journal.sent =
      l.lost ++ w.watch.mailbox.toList ++ w.scene.journal.received := by
    rw [List.append_assoc]
    exact balances.sent
  have received : w.scene.journal.received = l.dropped ++ w.stance.held ++ l.settled.map Prod.fst := by
    rw [List.append_assoc]
    exact balances.received
  have answers : w.scene.journal.answers = l.settled.map fun p => (p.1.ticket, p.2) := balances.answers
  have tickets : w.scene.journal.answers.map Prod.fst =
      (l.settled.map Prod.fst).map Request.ticket := by
    rw [answers, List.map_map, List.map_map]
    rfl
  have all : w.watch.phase ≠ .dropped → w.scene.journal.received.map Request.ticket =
      w.stance.held.map Request.ticket ++ w.scene.journal.answers.map Prod.fst := by
    intro goes
    have none : l.dropped = [] := driven fun dropped => goes (Stand.waiting.inj dropped)
    rw [received, tickets, none, List.nil_append, List.map_append]
  refine ⟨balances.unique, ?_, ?_, fun t s stop answered => ?_, all, fun session serving => ?_,
    fun returned => ?_, fun ended => settles_when_over accounts ended⟩
  · rw [sent]
    exact List.suffix_append _ _
  · rw [received, tickets, List.map_append]
    exact List.suffix_append _ _
  · rw [answers] at answered
    obtain ⟨p, settled, same⟩ := List.mem_map.1 answered
    cases same
    have here : p.1 ∈ w.scene.journal.received := by
      rw [received]
      exact List.mem_append_right _ (List.mem_map_of_mem settled)
    have sent' : ∀ r ∈ w.scene.journal.received, r ∈ w.scene.journal.sent := fun r hr => by
      rw [sent]
      exact List.mem_append_right _ hr
    exact balances.stops p settled _ (balances.ticket_inj (sent' _ here) (sent' _ stop) rfl)
  · apply pending
    unfold stance Watch.stance
    rw [serving]
    rfl
  · have ended : w.stance.stand.isOver = true := by
      unfold stance Watch.stance
      rw [returned]
      rfl
    have held : w.stance.held = [] := (accounts.fits.nothing_left ended).2
    rw [all (by simp [returned]), held]
    rfl

/-- The moves from a first session to the end of the watch, with a stop request in its mailbox that it
does not receive any more. -/
def overtaken : List Move :=
  [.caller 0, .arrive (.setStatus .stopped), .caller 1, .caller 1, .caller 1, .caller 1, .cancelWatch,
    .watch .cancelled, .exit 0 .clean, .watch .ended, .hangUp 0 .out, .hangUp 0 .err,
    .collect 0 (.read .out), .collect 0 (.read .err), .watch .ended]

theorem overtaken_request_has_one_outcome :
    ∃ w, wanted.run (firstSession ++ overtaken) = some w ∧ w.watch.phase = .returned ∧
      w.scene.journal.sent = [.stop 1, .start 0] ∧ w.scene.journal.received = [.start 0] ∧
      w.scene.journal.answers = [(0, .running)] ∧
      w.Settles (.caller 1) .stopped (.error .terminated) := by
  have ran : ((wanted.run (firstSession ++ overtaken)).any fun w => decide
      (w.watch.phase = .returned ∧ w.scene.journal.sent = [.stop 1, .start 0] ∧
        w.scene.journal.received = [.start 0] ∧ w.scene.journal.answers = [(0, .running)] ∧
        w.ask? (.caller 1) = some (.stopped, .awaiting 1))) = true := by
    decide
  obtain ⟨w, hw, ran⟩ := (Option.any_eq_true _ _).1 ran
  obtain ⟨returned, sent, received, answers, asked⟩ := of_decide_eq_true ran
  obtain ⟨-, -, -, -, -, -, -, ended⟩ := requests_have_one_outcome hw
  have closed : w.watch.isOpen = false := by simp [Watch.isOpen, returned]
  refine ⟨w, hw, returned, sent, received, answers, ?_⟩
  exact ((ended closed (.caller 1) .stopped).2 1 asked).1 (by simp [answers])

end World

end DnsWarden
