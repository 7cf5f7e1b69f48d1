import DnsWarden.Proofs.Cancellation
import DnsWarden.Proofs.Outcomes
import DnsWarden.Proofs.Parked

/-!
# What start requests are answered

Unless the watch was told to end, it answers a start request in one of three places, and with
another status in each: where the probe is passed, where the process is refused or its probe fails,
and where no resolver is wanted.  `Stride.answers` says so of a stride, `Tread.answers` of what
happens between two waits, and `World.start_answered_with_status` of every run.
-/

namespace DnsWarden

/-! ## Strides that answer a start request -/

/-- The status with which a stride answers a start request, by where it does. -/
inductive Verdict (x y : Stance) : Status → Prop where
  | passed {pid deadline : Nat} (was : x.stand = .waiting (.attempting (.probing pid deadline)))
    (leads : y.stand = .waiting (.serving (.of pid))) : Verdict x y .running
  | refused {pid : Nat} {keep : Bool} {f : EngineFault}
    (was : x.stand = .waiting (.attempting (.starting pid keep)))
    (leads : y.stand = .retreating true (.pause (.start f))) : Verdict x y .crashed
  | failed {pid deadline : Nat} {f : ProbeFault} {td : Teardown}
    (was : x.stand = .waiting (.attempting (.probing pid deadline)))
    (leads : y.stand = .waiting (.attempting (.clearing f td))) : Verdict x y .crashed
  | unwanted (was : x.stand = .resuming .disable) (leads : y.stand = .waiting (.serving .empty)) :
    Verdict x y .stopped

section

variable {x y : Stance}

/-- The answer to the start request that is held is the status with which it is answered. -/
theorem eq_of_answerPending {pending : Option Ticket} {deals : List Deal} {t : Ticket} {s s' : Status}
    (gave : (pending.elim deals fun t => .answered t s' :: deals) = .answered t s :: deals) :
    s' = s := by
  cases pending with
  | none => exact absurd gave.symm (List.cons_ne_self _ _)
  | some t' =>
    cases gave
    rfl

/-- A stride that answers the start request that is held stores the same status. -/
theorem Stride.verdict (h : Stride x y) {t : Ticket} {s : Status}
    (driven : s = .stopped → x.scene.cancelled = false) (held : x.held = [.start t])
    (gave : y.scene.deals = .answered t s :: x.scene.deals) :
    y.scene.status = s ∧ Verdict x y s := by
  have quiet : y.scene.deals = x.scene.deals → y.scene.status = s ∧ Verdict x y s := fun same =>
    absurd (gave.symm.trans same) (List.cons_ne_self _ _)
  cases h with
  | ready =>
    obtain rfl : Status.running = s :=
      eq_of_answerPending (by simpa [Scene.deals_answerPending] using gave)
    exact ⟨by simp, .passed rfl rfl⟩
  | @refused c m pid keep f =>
    have handled := c.onProcess_handled pid fun p => { p with stage := .refused, cancelled := true }
    obtain rfl : Status.crashed = s := eq_of_answerPending
      (by simpa [Scene.deals_answerPending, handled.pending, handled.deals] using gave)
    exact ⟨by simp, .refused rfl rfl⟩
  | probeFailed ends =>
    have handled := Teardown.begin_handled ends
    obtain rfl : Status.crashed = s := eq_of_answerPending
      (by simpa [Scene.deals_answerPending] using handled.deals.symm.trans gave)
    exact ⟨by simpa using handled.status, .failed rfl rfl⟩
  | disable =>
    obtain rfl : Status.stopped = s :=
      eq_of_answerPending (by simpa [Scene.deals_answerPending] using gave)
    exact ⟨by simp, .unwanted rfl rfl⟩
  | giveUp cancelled | giveUpAttempt _ cancelled =>
    obtain rfl : Status.stopped = s :=
      eq_of_answerPending (by simpa [Scene.deals_answerPending] using gave)
    cases (driven rfl).symm.trans cancelled
  | started => exact quiet rfl
  | refresh goes | request goes => exact quiet (Refresh.resume_told goes).deals
  | refreshFailed goes => exact quiet (by simpa using (Refresh.resume_told goes).deals)
  | @halt c m t session => exact quiet (c.cancelSession_handled session).deals
  | @lostCancelled c m session =>
    exact quiet ((c.hear_handled session).trans (Scene.cancelSession_handled _ session)).deals
  | @lost c m session =>
    have handled := (c.hear_handled session).trans (Scene.cancelSession_handled _ session)
    exact quiet (by simpa using handled.deals)
  | clear ends => exact quiet (Teardown.begin_handled ends).deals
  | clearAttempt ends | clearing ends | cleared ends | clearedAttempt ends =>
    exact quiet (by simpa using (Teardown.resume_handled ends).deals)
  | stopIdle => simp at gave
  | @haltQuiet c m t' session | @halted c m t' session =>
    have here : Request.stop t' ∈ [Request.start t] :=
      held ▸ List.mem_append_right _ List.mem_cons_self
    simp at here
  | startIdle | startServing | stopServing => simp at gave
  | _ => exact quiet (by simp)

theorem Verdict.owed {s : Status} (h : Verdict x y s) : x.stand.owed = [] := by
  cases h with
  | passed was _ | refused was _ | failed was _ | unwanted was _ => exact congrArg Stand.owed was

/-- What the watch has received it has received for ever. -/
theorem Stride.keeps_received (h : Stride x y) (fits : x.Fits) {r : Request}
    (received : r ∈ x.scene.journal.received) : r ∈ y.scene.journal.received := by
  have step : x.book.deals <:+ y.book.deals := by
    cases h.business fits with
    | nothing same => exact same ▸ List.suffix_rfl
    | receives _ _ took =>
      rw [took]
      exact List.suffix_cons _ _
    | answersStart _ _ gave | answersStop _ gave _ =>
      rw [gave]
      exact List.suffix_cons _ _
    | answersEarly _ _ gave _ =>
      rw [gave]
      exact (List.suffix_cons _ _).trans (List.suffix_cons _ _)
    | returns ended =>
      rw [(h.returns fits ended).2]
      exact List.suffix_rfl
  obtain ⟨d, here, same⟩ := List.mem_filterMap.1 received
  exact List.mem_filterMap.2 ⟨d, step.mem here, same⟩

/-- A stride gives no other answer to a start request than its verdict. -/
theorem Stride.answers {asks : Client → Option (Status × Ask)} (h : Stride x y)
    (accounts : Hall.Accounts ⟨asks, x⟩) {t : Ticket} {s : Status}
    (driven : s = .stopped → x.scene.cancelled = false) (asked : .stop t ∉ y.scene.journal.received)
    (answered : (t, s) ∈ y.scene.journal.answers) :
    (t, s) ∈ x.scene.journal.answers ∨
      x.scene.pending = some t ∧ y.scene.status = s ∧ Verdict x y s := by
  obtain ⟨l, balances, -⟩ := accounts.balance
  have fits := accounts.fits
  obtain ⟨d, here, said⟩ := List.mem_filterMap.1 answered
  have old : d ∈ x.scene.deals → (t, s) ∈ x.scene.journal.answers := fun here =>
    List.mem_filterMap.2 ⟨d, here, said⟩
  have here : d ∈ y.book.deals := here
  cases h.business fits with
  | nothing same =>
    rw [same] at here
    exact .inl (old here)
  | returns ended =>
    rw [(h.returns fits ended).2] at here
    exact .inl (old here)
  | receives _ _ took =>
    rw [took] at here
    obtain rfl | here := List.mem_cons.1 here
    · cases said
    · exact .inl (old here)
  | @answersStart t' status held gave =>
    have deals := congrArg Book.deals gave
    rw [gave] at here
    obtain rfl | here := List.mem_cons.1 here
    · cases said
      obtain ⟨stored, verdict⟩ := h.verdict driven held deals
      have pending : x.scene.pending = some t := by
        unfold Stance.held at held
        rw [verdict.owed, List.append_nil] at held
        cases pending : x.scene.pending with
        | none =>
          rw [pending] at held
          cases held
        | some t' =>
          rw [pending] at held
          cases held
          rfl
      exact .inr ⟨pending, stored, verdict⟩
    · exact .inl (old here)
  | @answersStop t' held gave _ =>
    rw [gave] at here
    obtain rfl | here := List.mem_cons.1 here
    · cases said
      have received : .stop t ∈ x.scene.journal.received := by
        rw [show x.scene.journal.received = _ from balances.received,
          show (⟨asks, x⟩ : Hall).stance.book.held = [.stop t] from held]
        simp
      exact absurd (h.keeps_received fits received) asked
    · exact .inl (old here)
  | @answersEarly t' _ _ gave _ =>
    have deals := congrArg Book.deals gave
    rw [gave] at here
    obtain rfl | here := List.mem_cons.1 here
    · cases said
      have received : .stop t ∈ y.scene.journal.received := by
        unfold Journal.received
        rw [show y.scene.journal.deals = _ from deals]
        exact List.mem_cons_self
      exact absurd received asked
    · obtain rfl | here := List.mem_cons.1 here
      · cases said
      · exact .inl (old here)

/-! ## Walks and treads that answer a start request -/

/-- The watch has found that no resolver is wanted: it has retreated, or there is nowhere to retreat
to. -/
def Stance.Unwanted (x : Stance) : Prop :=
  x.stand = .resuming .disable ∨
    x.scene.settings.plaintextTarget? = none ∧
      (x.scene.settings.enabled = false ∨ ∃ failed, x.stand = .retreating failed .disable)

theorem Stride.unwanted_before (h : Stride x y) (onWay : x.stand.waits = false) (hy : y.Unwanted) :
    x.Unwanted := by
  obtain resumes | ⟨target, disabled | ⟨failed, retreats⟩⟩ := hy
  · cases h with
    | @strand s m failed after target =>
      cases resumes
      exact .inr ⟨target, .inr ⟨failed, rfl⟩⟩
    | retreated => cases onWay
    | _ => cases resumes
  · rw [h.settings] at target disabled
    exact .inr ⟨target, .inl disabled⟩
  · rw [h.settings] at target
    cases h with
    | unwanted disabled => exact .inr ⟨target, .inl disabled⟩
    | _ => cases retreats

theorem Walk.keeps_received (h : Walk x y) (fits : x.Fits) {r : Request}
    (received : r ∈ x.scene.journal.received) : r ∈ y.scene.journal.received := by
  induction h with
  | wait => exact received
  | go _ first _ ih =>
    exact ih (Shift.fits _ _ (.stride first) fits) (first.keeps_received fits received)

/-- On the way to its next wait the watch answers a start request only where it was found that no
resolver is wanted. -/
theorem Walk.answers {asks : Client → Option (Status × Ask)} (h : Walk x y)
    (accounts : Hall.Accounts ⟨asks, x⟩) {t : Ticket} {s : Status}
    (driven : s = .stopped → x.scene.cancelled = false) (asked : .stop t ∉ y.scene.journal.received)
    (answered : (t, s) ∈ y.scene.journal.answers) :
    (t, s) ∈ x.scene.journal.answers ∨
      (x.Unwanted ∧ s = .stopped ∧ y.scene.status = .stopped ∧ y.stand = .waiting (.serving .empty) ∧
        (x.stand = .resuming .disable → x.scene.pending = some t)) := by
  induction h with
  | wait => exact .inl answered
  | @go x z y onWay first rest ih =>
    have accounts' : Hall.Accounts ⟨asks, z⟩ := accounts.doing (.stride first)
    have asked' : .stop t ∉ z.scene.journal.received := fun received =>
      asked (rest.keeps_received accounts'.fits received)
    have answered' : (t, s) ∈ z.scene.journal.answers ∨ z.stand.waits = false ∧ z.Unwanted ∧
        s = .stopped ∧ y.scene.status = .stopped ∧ y.stand = .waiting (.serving .empty) := by
      cases waits : z.stand.waits with
      | true =>
        obtain rfl := rest.eq_of_waits waits
        exact .inl answered
      | false =>
        obtain before | ⟨unwanted, stopped, status, serves, -⟩ :=
          ih accounts' (fun stopped => first.cancelled.trans (driven stopped)) asked answered
        · exact .inl before
        · exact .inr ⟨rfl, unwanted, stopped, status, serves⟩
    obtain before | ⟨onWay', unwanted, stopped, status, serves⟩ := answered'
    · obtain old | ⟨pending, status, verdict⟩ := first.answers accounts driven asked' before
      · exact .inl old
      · cases verdict with
        | passed was _ | refused was _ | failed was _ =>
          rw [was] at onWay
          cases onWay
        | unwanted was leads =>
          obtain rfl := rest.eq_of_waits (by rw [leads]; rfl)
          exact .inr ⟨.inl was, rfl, status, leads, fun _ => pending⟩
    · refine .inr ⟨first.unwanted_before onWay unwanted, stopped, status, serves, fun resumes => ?_⟩
      cases first with
      | disable => cases onWay'
      | _ => cases resumes

/-- The status with which a start request is answered between two waits, by what the first of them
was for. -/
inductive Reason (x y : Stance) (t : Ticket) : Status → Prop where
  | passed {pid deadline : Nat} (was : x.stand = .waiting (.attempting (.probing pid deadline)))
    (leads : y.stand = .waiting (.serving (.of pid))) (held : x.scene.pending = some t) :
    Reason x y t .running
  | refused {pid : Nat} {keep : Bool} (was : x.stand = .waiting (.attempting (.starting pid keep)))
    (held : x.scene.pending = some t) : Reason x y t .crashed
  | failed {pid deadline : Nat} {f : ProbeFault} {td : Teardown}
    (was : x.stand = .waiting (.attempting (.probing pid deadline)))
    (leads : y.stand = .waiting (.attempting (.clearing f td))) (held : x.scene.pending = some t) :
    Reason x y t .crashed
  | retreated (was : x.stand = .waiting (.retreating .disable))
    (leads : y.stand = .waiting (.serving .empty)) (held : x.scene.pending = some t) :
    Reason x y t .stopped
  | stranded (disabled : x.scene.settings.enabled = false)
    (target : x.scene.settings.plaintextTarget? = none)
    (leads : y.stand = .waiting (.serving .empty)) :
    Reason x y t .stopped

/-- A watch that has begun a pause, or retreats before it, has the status that it had before. -/
theorem Walk.status_of_failed {failed : Bool} {f : SessionFault} (h : Walk x y)
    (was : x.stand = .retreating failed (.pause f)) : y.scene.status = x.scene.status := by
  cases h with
  | wait => cases was
  | go _ first rest =>
    cases first with
    | retreat =>
      obtain rfl := rest.eq_of_waits rfl
      simp
    | strand =>
      cases was
      cases rest with
      | go _ first rest =>
        cases first
        obtain rfl := rest.eq_of_waits rfl
        simp [Scene.pause]
    | _ => cases was

theorem Tread.answers {asks : Client → Option (Status × Ask)} (h : Tread x y)
    (accounts : Hall.Accounts ⟨asks, x⟩) (waits : x.stand.waits = true) {t : Ticket} {s : Status}
    (driven : s = .stopped → x.scene.cancelled = false) (asked : .stop t ∉ y.scene.journal.received)
    (answered : (t, s) ∈ y.scene.journal.answers)
    (new : (t, s) ∉ x.scene.journal.answers) : y.scene.status = s ∧ Reason x y t s := by
  obtain ⟨z, first, rest⟩ := h
  have accounts' : Hall.Accounts ⟨asks, z⟩ := accounts.doing (.stride first)
  have asked' : .stop t ∉ z.scene.journal.received := fun received =>
    asked (rest.keeps_received accounts'.fits received)
  obtain before | ⟨unwanted, rfl, status, leads, pending⟩ :=
    rest.answers accounts' (fun stopped => first.cancelled.trans (driven stopped)) asked answered
  · obtain old | ⟨pending, status, verdict⟩ := first.answers accounts driven asked' before
    · exact absurd old new
    · cases verdict with
      | passed was leads =>
        obtain rfl := rest.eq_of_waits (by rw [leads]; rfl)
        exact ⟨status, .passed was leads pending⟩
      | failed was leads =>
        obtain rfl := rest.eq_of_waits (by rw [leads]; rfl)
        exact ⟨status, .failed was leads pending⟩
      | refused was leads =>
        exact ⟨(rest.status_of_failed leads).trans status, .refused was pending⟩
      | unwanted was _ =>
        rw [was] at waits
        cases waits
  · refine ⟨status, ?_⟩
    obtain resumes | ⟨target, disabled | ⟨failed, retreats⟩⟩ := unwanted
    · cases first with
      | retreated failure =>
        cases resumes
        exact .retreated rfl leads (by simpa using pending rfl)
      | strand => cases waits
      | _ => cases resumes
    · rw [first.settings] at target disabled
      exact .stranded disabled target leads
    · cases first with
      | unwanted => cases waits
      | _ => cases retreats

end

/-! ## Where it was found that no resolver is wanted -/

/-- The warden's own lookups and the system were pointed at this plaintext nameserver last. -/
def Scene.Faces (s : Scene) (ip : IpAddress) : Prop :=
  s.marks.internal = some (ip, .plaintext) ∧ s.marks.system = some ip

/-- Where the watch retreats since no resolver is wanted, that is what it has just found. -/
def Stance.Found (x : Stance) : Prop :=
  match x.stand with
  | .retreating _ .disable => x.scene.settings.enabled = false
  | .waiting (.retreating .disable) =>
    x.scene.settings.enabled = false ∧
      ∃ ip, x.scene.settings.plaintextTarget? = some ip ∧ x.scene.Faces ip
  | _ => True

section

variable {x y : Stance}

theorem Stride.found (h : Stride x y) (hx : x.stand.waits = true ∨ x.Found) : y.Found := by
  cases h with
  | @retreat s m failed after ip target =>
    cases after with
    | disable =>
      obtain waits | found := hx
      · cases waits
      · exact ⟨found, ip, target, rfl, rfl⟩
    | _ => trivial
  | unwanted disabled => exact disabled
  | _ => trivial

theorem Tread.found (h : Tread x y) (waits : x.stand.waits = true) : y.Found := by
  obtain ⟨z, first, rest⟩ := h
  exact rest.keep (fun _ _ goes found => goes.found (.inr found)) (first.found (.inl waits))

/-- Others do not point DNS anywhere. -/
theorem Nudge.faces (h : Nudge x y) {ip : IpAddress} (hx : x.scene.Faces ip) : y.scene.Faces ip := by
  have same : y.scene.marks = x.scene.marks → y.scene.Faces ip := fun same => by
    unfold Scene.Faces
    rwa [same]
  cases h with
  | told told => exact same told.marks
  | refreshFailed | restarted | forsake => exact same (by simp)
  | _ => exact hx

/-- Others answer nothing. -/
theorem Nudge.answers (h : Nudge x y) : y.scene.journal.answers = x.scene.journal.answers := by
  have same : y.scene.deals = x.scene.deals →
      y.scene.journal.answers = x.scene.journal.answers := congrArg (List.filterMap Deal.answer?)
  cases h with
  | told told => exact same told.deals
  | refreshFailed | forsake => exact same (by simp)
  | _ => rfl

theorem Nudges.answers (h : Nudges x y) : y.scene.journal.answers = x.scene.journal.answers :=
  h.keep (J := fun z => z.scene.journal.answers = x.scene.journal.answers)
    (fun _ _ goes same => goes.answers.trans same) rfl

end

namespace World

variable {policy : Policy} {settings : Settings} {draws : Nat → Nat} {ms : List Move} {u v : World}
  {m : Move}

/-- Where the watch retreats since no resolver is wanted, it has found so with the last request that
it has taken, and has pointed DNS at a plaintext nameserver then. -/
theorem run_found (h : (World.initial policy settings draws).run ms = some u)
    (retreats : u.watch.phase = .retreating .disable) :
    ∃ earlier later y ip, ms = earlier ++ later ∧
      (World.initial policy settings draws).run earlier = some y ∧
      y.scene.settings.enabled = false ∧ y.scene.settings.plaintextTarget? = some ip ∧
      y.scene.pending = u.scene.pending ∧ u.scene.Faces ip := by
  refine run_history (J := fun ms u => u.watch.phase = .retreating .disable →
    ∃ earlier later y ip, ms = earlier ++ later ∧
      (World.initial policy settings draws).run earlier = some y ∧
      y.scene.settings.enabled = false ∧ y.scene.settings.plaintextTarget? = some ip ∧
      y.scene.pending = u.scene.pending ∧ u.scene.Faces ip) h nofun ?_ retreats
  intro before m x y hx hy found retreats
  have sound := run_sound hx
  cases own : m.isWatch with
  | true =>
    obtain tread | dropped := step_watch hy own
    · have here : y.stance.Found := tread.found rfl
      unfold Stance.Found stance Watch.stance at here
      rw [retreats] at here
      obtain ⟨disabled, ip, target, faces⟩ := here
      exact ⟨before ++ [m], [], y, ip, by simp, run_concat hx hy, disabled, target, rfl, faces⟩
    · rw [dropped] at retreats
      cases retreats
  | false =>
    have nudges := step_nudges hy own sound
    have same : y.watch.phase = x.watch.phase := Stand.waiting.inj nudges.stand
    obtain ⟨earlier, later, z, ip, rfl, hz, disabled, target, held, faces⟩ := found (same ▸ retreats)
    obtain ⟨held', faces'⟩ := nudges.keep (J := fun s => s.scene.pending = x.scene.pending ∧
      s.scene.Faces ip) (fun _ _ goes h => ⟨goes.pending.trans h.1, goes.faces h.2⟩) ⟨rfl, faces⟩
    refine ⟨earlier, later ++ [m], z, ip, by simp, hz, disabled, target, ?_, faces'⟩
    exact held.trans held'.symm

end World

/-! ## What ended the wait -/

namespace Watch

variable {w v : Watch} {i : Input}

/-- Where the engine's answer is awaited, only a refusal can be followed by an answer. -/
theorem resume_starting {pid : Nat} {keep : Bool}
    (starting : w.phase = .attempting (.starting pid keep))
    (h : w.resume i = some v) :
    (∃ f, i = .answer (.started (some f))) ∨ v.scene.journal.answers = w.scene.journal.answers := by
  obtain ⟨s, p, m⟩ := w
  obtain rfl : p = .attempting (.starting pid keep) := starting
  obtain ⟨⟨s', n⟩, hn, hv⟩ := Option.map_eq_some_iff.1 h
  rcases i with _ | _ | _ | _ | a <;> try cases hn
  rcases a with _ | _ | _ | (_ | f) | _ | _ <;> cases hn
  · cases hv
    exact .inr rfl
  · exact .inl ⟨f, rfl⟩

/-- The wait for the answer to a probe fails with a bad answer, or since the time is up. -/
theorem resume_probed {pid deadline : Nat} {f : ProbeFault} {td : Teardown}
    (probing : w.phase = .attempting (.probing pid deadline)) (h : w.resume i = some v)
    (fails : v.phase = .attempting (.clearing f td)) :
    i = .elapsed ∨ ∃ f, i = .answer (.probed (some f)) := by
  obtain ⟨s, p, m⟩ := w
  obtain rfl : p = .attempting (.probing pid deadline) := probing
  obtain ⟨⟨s', n⟩, hn, hv⟩ := Option.map_eq_some_iff.1 h
  rcases i with _ | _ | _ | _ | a <;> try cases hn
  · exact .inl rfl
  · rcases a with _ | _ | _ | _ | _ | (_ | f) <;> try cases hn
    · cases hv
      cases fails
    · exact .inr ⟨f, rfl⟩

end Watch

namespace World

variable {policy : Policy} {settings : Settings} {draws : Nat → Nat} {ms : List Move} {u v : World}
  {m : Move} {t : Ticket} {s : Status}

/-- A start request is answered where the watch begins, or goes on with what ended its wait. -/
theorem step_answers (hv : u.step m = some v) (sound : u.Sound) (accounts : u.hall.Accounts)
    (driven : s = .stopped → u.scene.cancelled = false) (asked : .stop t ∉ v.scene.journal.received)
    (new : (t, s) ∉ u.scene.journal.answers) (answered : (t, s) ∈ v.scene.journal.answers) :
    v.scene.status = s ∧ Reason u.stance v.stance t s ∧
      (u.watch.phase = .unborn ∨ ∃ i, m = .watch i ∧ u.watch.resume i = some v.watch) := by
  have gave : v.scene.journal.answers ≠ u.scene.journal.answers := fun same => new (same ▸ answered)
  have own : m.isWatch = true :=
    eq_true_of_ne_false fun other => gave (step_nudges hv other sound).answers
  have kept : v.watch ≠ u.watch.drop := fun dropped => by
    have closes : v.watch.stance.book = u.watch.stance.book.close := dropped ▸ u.watch.book_drop
    exact gave (congrArg (fun b => b.deals.filterMap Deal.answer?) closes)
  have tread := (step_watch hv own).resolve_right kept
  have accounts : Hall.Accounts ⟨u.ask?, u.stance⟩ := accounts
  obtain ⟨status, reason⟩ := tread.answers accounts rfl driven asked answered new
  refine ⟨status, reason, ?_⟩
  obtain ⟨unborn, -⟩ | goes | dropped := step_own hv own
  · exact .inl unborn
  · exact .inr goes
  · exact absurd dropped kept

/-- From a probe the watch comes to a session only with a good answer. -/
theorem probed_of_serves {pid deadline : Nat}
    (probing : u.watch.phase = .attempting (.probing pid deadline))
    (serves : v.watch.phase = .serving (.of pid))
    (own : u.watch.phase = .unborn ∨ ∃ i, m = .watch i ∧ u.watch.resume i = some v.watch) :
    m = .watch (.answer (.probed none)) := by
  obtain unborn | ⟨i, rfl, goes⟩ := own
  · cases probing.symm.trans unborn
  · rw [Watch.resume_probing probing goes (by rw [serves]; rfl)]

/--
A start request that is answered while the watch was not told to end is answered with the status
that is stored.  If this is running, the attempt in progress has just passed its probe; if it is
crashed, that attempt has just failed to start the process, or failed its probe; and if it is
stopped, the watch had found that no resolver is wanted.  Then it had pointed DNS at the plaintext
nameserver that the settings named, unless they named none.
-/
theorem start_answered_with_status (h : (World.initial policy settings draws).run ms = some u)
    (hv : u.step m = some v) (driven : u.scene.cancelled = false)
    (asked : .start t ∈ v.scene.journal.received) (new : (t, s) ∉ u.scene.journal.answers)
    (answered : (t, s) ∈ v.scene.journal.answers) :
    v.scene.status = s ∧
    (s = .running → u.scene.pending = some t ∧ m = .watch (.answer (.probed none)) ∧
      ∃ pid deadline, u.watch.phase = .attempting (.probing pid deadline)) ∧
    (s = .crashed → u.scene.pending = some t ∧
      ((∃ f, m = .watch (.answer (.started (some f))) ∧
          ∃ pid keep, u.watch.phase = .attempting (.starting pid keep)) ∨
        (m = .watch .elapsed ∨ ∃ f, m = .watch (.answer (.probed (some f)))) ∧
          ∃ pid deadline, u.watch.phase = .attempting (.probing pid deadline))) ∧
    (s = .stopped →
      (u.scene.settings.enabled = false ∧ u.scene.settings.plaintextTarget? = none) ∨
      (u.scene.pending = some t ∧ u.watch.phase = .retreating .disable ∧
        ∃ earlier later found ip, ms = earlier ++ later ∧
          (World.initial policy settings draws).run earlier = some found ∧
          found.scene.settings.enabled = false ∧
          found.scene.settings.plaintextTarget? = some ip ∧ found.scene.pending = some t ∧
          u.scene.journal.internalTarget? = some (ip, .plaintext) ∧
          u.scene.journal.systemTarget? = some ip)) := by
  have sound := run_sound h
  have unstopped : .stop t ∉ v.scene.journal.received := by
    obtain ⟨l, balances, -⟩ := (run_accounts (run_concat h hv)).balance
    have sent : ∀ r ∈ v.scene.journal.received, r ∈ v.hall.stance.book.sent := fun r hr => by
      rw [balances.sent]
      exact List.mem_append_right _ (List.mem_append_right _ hr)
    intro stop
    cases balances.ticket_inj (sent _ asked) (sent _ stop) rfl
  obtain ⟨status, reason, own⟩ :=
    step_answers hv sound (run_accounts h) (fun _ => driven) unstopped new answered
  refine ⟨status, ?_⟩
  have resumes : u.watch.phase ≠ .unborn → ∃ i, m = .watch i ∧ u.watch.resume i = some v.watch :=
    own.resolve_left
  cases reason with
  | passed was leads held =>
    have phase := Stand.waiting.inj was
    have passed := probed_of_serves phase (Stand.waiting.inj leads) own
    exact ⟨fun _ => ⟨held, passed, _, _, phase⟩, nofun, nofun⟩
  | refused was held =>
    have phase := Stand.waiting.inj was
    obtain ⟨i, rfl, goes⟩ := resumes (by rw [phase]; nofun)
    obtain ⟨f, rfl⟩ | same := Watch.resume_starting phase goes
    · exact ⟨nofun, fun _ => ⟨held, .inl ⟨f, rfl, _, _, phase⟩⟩, nofun⟩
    · exact absurd (same ▸ answered) new
  | failed was leads held =>
    have phase := Stand.waiting.inj was
    obtain ⟨i, rfl, goes⟩ := resumes (by rw [phase]; nofun)
    refine ⟨nofun, fun _ => ⟨held, .inr ⟨?_, _, _, phase⟩⟩, nofun⟩
    obtain rfl | ⟨f, rfl⟩ := Watch.resume_probed phase goes (Stand.waiting.inj leads)
    · exact .inl rfl
    · exact .inr ⟨f, rfl⟩
  | retreated was leads held =>
    have phase := Stand.waiting.inj was
    obtain ⟨earlier, later, found, ip, split, hy, disabled, target, same, internal, system⟩ :=
      run_found h phase
    exact ⟨nofun, nofun, fun _ => .inr ⟨held, phase, earlier, later, found, ip, split, hy, disabled,
      target, same.trans held, internal, system⟩⟩
  | stranded disabled target leads => exact ⟨nofun, nofun, fun _ => .inl ⟨disabled, target⟩⟩

/-- A warden whose settings want no resolver. -/
def unwanted : World := .initial {} { plaintextAddress := some .loopback } fun _ => 0

/-- The moves of a first start request up to where it was found that no resolver is wanted. -/
def unwantedStart : List Move :=
  [.run, .watch (.answer (.systemPointed none)), .arrive (.setStatus .running), .caller 0, .caller 0,
    .caller 0, .caller 0, .watch .request, .watch (.answer (.systemPointed none))]

theorem unwanted_start_answered_with_status :
    ∃ u v, unwanted.run unwantedStart = some u ∧
      u.step (.watch (.answer (.systemPointed none))) = some v ∧
      v.scene.journal.answers = [(0, .stopped)] ∧ v.scene.status = .stopped ∧
      ∃ ip, u.scene.journal.internalTarget? = some (ip, .plaintext) ∧
        u.scene.journal.systemTarget? = some ip := by
  have ran : ((unwanted.run unwantedStart).any fun u =>
      (u.step (.watch (.answer (.systemPointed none)))).any fun v => decide
        (u.scene.cancelled = false ∧ .start 0 ∈ v.scene.journal.received ∧
          u.scene.journal.answers = [] ∧ v.scene.journal.answers = [(0, .stopped)] ∧
          u.scene.settings.plaintextTarget? ≠ none)) = true := by
    decide
  obtain ⟨u, hu, ran⟩ := (Option.any_eq_true _ _).1 ran
  obtain ⟨v, hv, ran⟩ := (Option.any_eq_true _ _).1 ran
  obtain ⟨driven, asked, unanswered, answered, target⟩ := of_decide_eq_true ran
  obtain ⟨status, -, -, stopped⟩ := start_answered_with_status (s := .stopped) hu hv driven asked
    (by simp [unanswered]) (by simp [answered])
  obtain ⟨-, none⟩ | ⟨-, -, -, -, -, ip, -, -, -, -, -, internal, system⟩ := stopped rfl
  · exact absurd none target
  · exact ⟨u, v, hu, hv, answered, status, ip, internal, system⟩

/-- The moves from a first session to a start request after the settings came to name no plaintext
nameserver and to want no resolver, up to where its answer is due. -/
def strandedStart : List Move :=
  firstSession ++ [.caller 0, .arrive (.setSettings {}), .caller 1, .caller 1, .caller 1, .caller 1,
    .caller 1, .caller 1, .watch .request, .exit 0 .clean, .watch .ended, .caller 1,
    .arrive (.setStatus .running), .caller 2, .caller 2, .caller 2, .caller 2, .watch .request,
    .hangUp 0 .out, .hangUp 0 .err, .collect 0 (.read .out), .collect 0 (.read .err)]

/-- A start request is answered with the status stopped while DNS still points at a resolver that is
not up any more. -/
theorem stranded_start_answered_at_resolver :
    ∃ u v, wanted.run strandedStart = some u ∧ u.step (.watch .ended) = some v ∧
      u.scene.cancelled = false ∧ .start 2 ∈ v.scene.journal.received ∧
      (2, .stopped) ∉ u.scene.journal.answers ∧ (2, .stopped) ∈ v.scene.journal.answers ∧
      v.scene.live = 0 ∧
      v.scene.journal.internalTarget? = some (v.scene.policy.resolverAddress, .encrypted) ∧
      v.scene.journal.systemTarget? = some v.scene.policy.resolverAddress := by
  have ran : ((wanted.run strandedStart).any fun u => (u.step (.watch .ended)).any fun v => decide
      (u.scene.cancelled = false ∧ .start 2 ∈ v.scene.journal.received ∧
        (2, .stopped) ∉ u.scene.journal.answers ∧ (2, .stopped) ∈ v.scene.journal.answers ∧
        v.scene.live = 0 ∧
        v.scene.journal.internalTarget? = some (v.scene.policy.resolverAddress, .encrypted) ∧
        v.scene.journal.systemTarget? = some v.scene.policy.resolverAddress)) = true := by
    decide
  obtain ⟨u, hu, ran⟩ := (Option.any_eq_true _ _).1 ran
  obtain ⟨v, hv, ran⟩ := (Option.any_eq_true _ _).1 ran
  exact ⟨u, v, hu, hv, of_decide_eq_true ran⟩

end World

end DnsWarden
