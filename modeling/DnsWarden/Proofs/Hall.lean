import DnsWarden.Proofs.Owing

/-!
# The hall

Some statements are about clients and the watch together: about a request from where a client sends it
to where its reply arrives.  A `Hall` is what the clients ask for, with the stance of the watch, and a
`Doing` is one thing that happens there.  `World.step_doings` finds the doings of every move, those of
clients that go away included, and `World.run_uphold` says that what every doing keeps is kept by every
run.
-/

namespace DnsWarden

/-- What clients ask for and how far they have come, with the stance of the watch. -/
structure Hall where
  asks : Client → Option (Status × Ask)
  stance : Stance

/-- Whether a client that has come so far has a request to send, or waits for the reply to one. -/
def Ask.hasRequest : Ask → Bool
  | .sending _ | .awaiting _ => true
  | _ => false

/-- One thing that happens in the hall. -/
inductive Doing : Hall → Hall → Prop where
  | stride {asks x y} (goes : Stride x y) : Doing ⟨asks, x⟩ ⟨asks, y⟩
  | drop {asks} {w : Watch} (isOpen : w.isOpen = true) (begun : w.phase ≠ .unborn) :
    Doing ⟨asks, w.stance⟩ ⟨asks, w.drop.stance⟩
  | murmur {asks x y} (heard : Murmur x y) : Doing ⟨asks, x⟩ ⟨asks, y⟩
  /-- Clients come, go on without a request, or leave. -/
  | proceed {asks asks' x} (fewer : ∀ c desired a, a.hasRequest = true →
      asks' c = some (desired, a) → asks c = some (desired, a)) : Doing ⟨asks, x⟩ ⟨asks', x⟩
  /-- A client has read the status and writes a request, for the reply of the next ticket. -/
  | compose {asks asks' st s m c r} (ticket : r.ticket = s.replies.length)
      (desired : r.desired = .running ↔ s.status = .stopped)
      (leads : asks' c = some (r.desired, .sending r))
      (others : ∀ c', c' ≠ c → asks' c' = asks c') :
    Doing ⟨asks, ⟨st, s, m⟩⟩ ⟨asks', ⟨st, s.openReply.1, m⟩⟩
  | post {asks asks' p s c desired r} (asked : asks c = some (desired, .sending r))
      (isOpen : p ≠ .returned ∧ p ≠ .dropped) (leads : asks' c = some (desired, .awaiting r.ticket))
      (others : ∀ c', c' ≠ c → asks' c' = asks c') :
    Doing ⟨asks, ⟨.waiting p, s, none⟩⟩ ⟨asks', ⟨.waiting p, s.record (.sent r), some r⟩⟩
  /-- A client takes back a request that it has not posted. -/
  | withdraw {asks asks' st s m c desired r} (asked : asks c = some (desired, .sending r))
      (out : Ask.Out (asks' c)) (others : ∀ c', c' ≠ c → asks' c' = asks c') :
    Doing ⟨asks, ⟨st, s, m⟩⟩ ⟨asks', ⟨st, s.forsake r.ticket, m⟩⟩

/-- Several things that happen in the hall. -/
abbrev Doings : Hall → Hall → Prop := Relation.ReflTransGen Doing

theorem Doings.keep {J : Hall → Prop} (doing : ∀ h h', Doing h h' → J h → J h') {h h' : Hall}
    (many : Doings h h') (here : J h) : J h' := by
  induction many with
  | refl => exact here
  | tail _ last ih => exact doing _ _ last ih

/-- What every shift of the watch keeps, every doing keeps. -/
theorem Doing.keep {J : Stance → Prop} (shift : ∀ x y, Shift x y → J x → J y) {h h' : Hall}
    (doing : Doing h h') (here : J h.stance) : J h'.stance := by
  cases doing with
  | stride goes => exact shift _ _ (.stride goes) here
  | drop isOpen begun => exact shift _ _ (.drop isOpen begun) here
  | murmur heard => exact shift _ _ (.nudge heard.nudge) here
  | proceed _ => exact here
  | compose _ _ _ _ => exact shift _ _ (.nudge .openReply) here
  | post _ isOpen _ _ => exact shift _ _ (.nudge (.post isOpen)) here
  | withdraw _ _ _ => exact shift _ _ (.nudge .forsake) here

/-- A client that sends a request did so before, or has just written it after reading the status. -/
theorem Doing.sending {h h' : Hall} (doing : Doing h h') {c : Client} {desired : Status} {r : Request}
    (asked : h'.asks c = some (desired, .sending r)) :
    h.asks c = some (desired, .sending r) ∨
      (r.desired = .running ↔ h.stance.scene.status = .stopped) := by
  cases doing with
  | stride _ | drop _ _ | murmur _ => exact .inl asked
  | proceed fewer => exact .inl (fewer c desired _ rfl asked)
  | @compose asks asks' st s m c' r' ticket wanted leads others =>
    have asked : asks' c = some (desired, .sending r) := asked
    by_cases here : c = c'
    · rw [here, leads] at asked
      cases asked
      exact .inr wanted
    · rw [others c here] at asked
      exact .inl asked
  | @post asks asks' p s c' desired' r' _ isOpen leads others =>
    have asked : asks' c = some (desired, .sending r) := asked
    by_cases here : c = c'
    · rw [here, leads] at asked
      cases asked
    · rw [others c here] at asked
      exact .inl asked
  | @withdraw asks asks' st s m c' desired' r' _ out others =>
    have asked : asks' c = some (desired, .sending r) := asked
    by_cases here : c = c'
    · rw [here] at asked
      cases out _ _ asked
    · rw [others c here] at asked
      exact .inl asked

/-- A request in the mailbox was there before, or a client has just put it there. -/
theorem Doing.mailbox {h h' : Hall} (doing : Doing h h') {r : Request}
    (sent : h'.stance.mailbox = some r) :
    h.stance.mailbox = some r ∨ ∃ c desired, h.asks c = some (desired, .sending r) := by
  cases doing with
  | @stride asks x y goes =>
    obtain same | empty := goes.mailbox
    · exact .inl (same.symm.trans sent)
    · cases empty.symm.trans sent
  | @drop asks w _ _ => cases w.mailbox_drop.symm.trans sent
  | murmur heard => exact .inl (heard.mailbox.symm.trans sent)
  | proceed _ | compose _ _ _ _ | withdraw _ _ _ => exact .inl sent
  | post asked _ _ _ =>
    cases sent
    exact .inr ⟨_, _, asked⟩

section

variable {asks asks' : Client → Option (Status × Ask)} {x y : Stance} {c : Client} {desired : Status}
  {a : Ask}

theorem Walk.doings (h : Walk x y) : Doings ⟨asks, x⟩ ⟨asks, y⟩ := by
  induction h with
  | wait => exact .refl
  | go _ first _ ih => exact ih.head (.stride first)

theorem Tread.doings (h : Tread x y) : Doings ⟨asks, x⟩ ⟨asks, y⟩ := by
  obtain ⟨z, first, rest⟩ := h
  exact rest.doings.head (.stride first)

theorem Murmurs.doings (h : Murmurs x y) : Doings ⟨asks, x⟩ ⟨asks, y⟩ :=
  Relation.ReflTransGen.lift (Hall.mk asks) (fun _ _ heard => .murmur heard) _ _ h

theorem Ask.Out.not_hasRequest {o : Option (Status × Ask)} (h : Ask.Out o)
    (asked : o = some (desired, a)) : a.hasRequest = false := by
  rw [h desired a asked]
  rfl

/-- Where one client goes on without a request, only that client may have had one before. -/
theorem Doing.proceed_of (others : ∀ c', c' ≠ c → asks' c' = asks c')
    (none : ∀ desired a, asks' c = some (desired, a) → a.hasRequest = false) :
    Doing ⟨asks, x⟩ ⟨asks', x⟩ := by
  refine .proceed fun c' desired a has asked' => ?_
  by_cases here : c' = c
  · subst here
    rw [none desired a asked'] at has
    cases has
  · rw [← others c' here]
    exact asked'

/-! ## Steps at the desk -/

namespace Desk

variable {d d' : Desk} {n : Ask.Next}

/-- A step of a client at the desk is a doing. -/
theorem step_doing (h : d.step c desired a = some (d', n)) (asked : asks c = some (desired, a))
    (leads : n.Leads desired (asks' c)) (others : ∀ c', c' ≠ c → asks' c' = asks c') :
    Doing ⟨asks, d.watch.stance⟩ ⟨asks', d'.watch.stance⟩ := by
  have leaves : Ask.Out (asks' c) → Doing ⟨asks, d.watch.stance⟩ ⟨asks', d.watch.stance⟩ := fun out =>
    .proceed_of others fun _ _ asked' => out.not_hasRequest asked'
  have waits : ∀ a', asks' c = some (desired, a') → a'.hasRequest = false →
      Doing ⟨asks, d.watch.stance⟩ ⟨asks', d.watch.stance⟩ := fun a' leads without => by
    refine .proceed_of others fun desired' a'' asked' => ?_
    rw [leads] at asked'
    cases asked'
    exact without
  cases a with
  | arriving =>
    cases h
    exact waits .queued leads rfl
  | queued =>
    simp only [step] at h
    split_ifs at h
    cases h
    exact waits .reading leads rfl
  | reading =>
    simp only [step, Option.some.injEq, decide] at h
    cases desired with
    | running =>
      dsimp only at h
      split_ifs at h with stopped <;> cases h
      · exact .compose (r := .start _) rfl (iff_of_true rfl stopped) leads others
      · exact leaves leads
    | stopped =>
      dsimp only at h
      split_ifs at h with stopped <;> cases h
      · exact leaves leads
      · exact .compose (r := .stop _) rfl (iff_of_false Status.noConfusion stopped) leads others
    | crashed =>
      cases h
      exact leaves leads
  | sending r =>
    simp only [step] at h
    split_ifs at h with isClosed empty <;> cases h
    · exact .withdraw asked leads others
    · obtain ⟨⟨s, p, m⟩, q⟩ := d
      obtain rfl : m = none := Option.isNone_iff_eq_none.1 empty
      exact .post asked (by simpa [Watch.isOpen] using isClosed) leads others
  | awaiting t =>
    simp only [step] at h
    split at h <;> cases h
    · exact leaves leads
    · exact leaves leads

/-- A client that goes away takes back a request that it has not posted, and does nothing else. -/
theorem abandon_doing (d : Desk) (asked : asks c = some (desired, a)) (out : Ask.Out (asks' c))
    (others : ∀ c', c' ≠ c → asks' c' = asks c') :
    Doing ⟨asks, d.watch.stance⟩ ⟨asks', (d.abandon c a).watch.stance⟩ := by
  cases a with
  | sending r => exact .withdraw asked out others
  | _ => exact .proceed_of others fun _ _ asked' => out.not_hasRequest asked'

end Desk

end

/-! ## Every move -/

namespace World

variable {w v : World} {m : Move}

def hall (w : World) : Hall := ⟨w.ask?, w.stance⟩

/-- A client that goes away does one thing at most. -/
theorem Departs.doing {c : Client} (h : w.Departs c v) : Doing w.hall v.hall := by
  obtain ⟨desired, a, asked, desk⟩ | desk := h.desk
  · have goes := w.warden.desk.abandon_doing asked h.out h.others
    rw [← desk] at goes
    exact goes
  · have same : v.stance = w.stance := congrArg (fun d => d.watch.stance) desk
    unfold hall
    rw [same]
    exact .proceed_of h.others fun _ _ asked => h.out.not_hasRequest asked

/-- Every move is a number of doings. -/
theorem step_doings (h : w.step m = some v) (sound : w.Sound) : Doings w.hall v.hall := by
  cases sound.turn h with
  | watch tread _ asks =>
    unfold hall
    rw [asks]
    exact tread.doings
  | drop isOpen begun dropped _ asks =>
    unfold hall stance
    rw [asks, dropped]
    exact .single (.drop isOpen begun)
  | desk asked step _ murmurs leads others =>
    exact murmurs.doings.head (Desk.step_doing step asked leads others)
  | beside murmurs _ asks =>
    refine murmurs.doings.head (.proceed fun c desired a has asked' => ?_)
    obtain same | ⟨-, out⟩ := asks c
    · rw [← same]
      exact asked'
    · rw [out.not_hasRequest asked'] at has
      cases has
  | leave drops _ =>
    obtain ⟨c, departs⟩ := step_departs h drops
    exact .single departs.doing

theorem Sound.uphold {J : Hall → Prop} (doing : ∀ h h', Doing h h' → J h → J h') {ms : List Move}
    (sound : w.Sound) (h : w.run ms = some v) (hw : J w.hall) : J v.hall := by
  induction ms generalizing w with
  | nil =>
    cases h
    exact hw
  | cons m ms ih =>
    obtain ⟨u, hu, hv⟩ := Option.bind_eq_some_iff.1 h
    exact ih (sound.step hu) hv ((step_doings hu sound).keep doing hw)

/-- What every doing keeps, every run keeps. -/
theorem run_uphold {J : Hall → Prop} (doing : ∀ h h', Doing h h' → J h → J h') {policy : Policy}
    {settings : Settings} {draws : Nat → Nat} {ms : List Move}
    (h : (World.initial policy settings draws).run ms = some w)
    (initial : J (World.initial policy settings draws).hall) : J w.hall :=
  (initial_sound policy settings draws).uphold doing h initial

end World

end DnsWarden
