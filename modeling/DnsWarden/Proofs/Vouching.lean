import DnsWarden.Proofs.Deals
import DnsWarden.Proofs.Milestones
import DnsWarden.Proofs.Parked
import Mathlib.Logic.Function.Iterate

/-!
# Vouching for a resolver

Once the probe of an attempt is answered well, the watch vouches for the resolver: it stores that one
runs, tells so to the start request that waits, begins the delays anew and goes on with a session.
Everything else that it does is `Discreet`.  Between the start of the process and the answer to the probe
nobody looks at the notice of the process's end, so that the watch also vouches for a resolver that is
over: `World.vouches_iff`.
-/

namespace DnsWarden

namespace Scene

/-- What happened between two scenes vouches for no resolver: the status has not become running, nobody
was told that it is, and the delays have at most been doubled. -/
structure Discreet (s s' : Scene) : Prop where
  status : s'.status = .running → s.status = .running
  deals : ∃ new, s'.deals = new ++ s.deals ∧ ∀ t, .answered t .running ∉ new
  delays : ∃ n, s'.backoff = Backoff.advance^[n] s.backoff

namespace Discreet

variable {s s' s'' : Scene}

theorem refl (s : Scene) : s.Discreet s := ⟨id, ⟨[], rfl, nofun⟩, 0, rfl⟩

theorem trans (first : s.Discreet s') (rest : s'.Discreet s'') : s.Discreet s'' := by
  obtain ⟨new, deals, silent⟩ := first.deals
  obtain ⟨newer, deals', silent'⟩ := rest.deals
  obtain ⟨n, delays⟩ := first.delays
  obtain ⟨m, delays'⟩ := rest.delays
  refine ⟨first.status ∘ rest.status, ⟨newer ++ new, ?_, fun t there => ?_⟩, m + n, ?_⟩
  · rw [deals', deals, List.append_assoc]
  · obtain there | there := List.mem_append.1 there
    · exact silent' t there
    · exact silent t there
  · rw [delays', delays, Function.iterate_add_apply]

end Discreet

/-! ## The scene after a good answer -/

section

variable (s : Scene)

/-- The scene once the watch has vouched for a resolver. -/
def vouched : Scene :=
  (((s.ready.setStatus .running).answerPending .running).tally fun t =>
    { t with sessions := t.sessions + 1 }).record (.attemptEnded none)

theorem status_vouched : s.vouched.status = .running := by simp [vouched]

theorem cadence_vouched : s.vouched.cadence = s.cadence.ready := by
  simp only [vouched, cadence_attemptEnded, cadence_tally, cadence_answerPending, cadence_setStatus,
    cadence_ready]
  rfl

theorem backoff_vouched : s.vouched.backoff = s.backoff.reset :=
  congrArg Cadence.backoff s.cadence_vouched

theorem answers_vouched {s : Scene} {t : Ticket} (held : s.pending = some t) :
    s.vouched.journal.answers = (t, .running) :: s.journal.answers := by
  have deals : s.vouched.deals = .answered t .running :: s.deals := by
    simp [vouched, deals_answerPending, held]
  exact congrArg (List.filterMap Deal.answer?) deals

theorem processes_vouched : s.vouched.processes = s.processes :=
  congrArg Prod.fst (show s.vouched.premises = s.premises by simp [vouched])

end

end Scene

/-! ## Strides -/

section

variable {x y : Stance}

theorem Stride.delays (h : Stride x y) :
    (∃ n, y.scene.backoff = Backoff.advance^[n] x.scene.backoff) ∨
      ∃ pid deadline, x.stand = .waiting (.attempting (.probing pid deadline)) ∧
        y.stand = .waiting (.serving (.of pid)) := by
  cases h.beat with
  | rest marked | began _ _ _ _ marked | failed _ marked =>
    exact .inl ⟨0, congrArg Cadence.backoff marked⟩
  | ready was leads _ _ => exact .inr ⟨_, _, was, leads⟩
  | paused _ marked => exact .inl ⟨1, congrArg Cadence.backoff marked⟩

/-- The watch vouches for a resolver only where its probe was answered. -/
theorem Stride.discreet (h : Stride x y) :
    x.scene.Discreet y.scene ∨
      ∃ pid deadline, x.stand = .waiting (.attempting (.probing pid deadline)) ∧
        y.stand = .waiting (.serving (.of pid)) := by
  obtain delays | passed := h.delays
  case inr => exact .inr passed
  have quiet : (y.scene.status = .running → x.scene.status = .running) →
      y.scene.deals = x.scene.deals → x.scene.Discreet y.scene :=
    fun status deals => ⟨status, ⟨[], deals, nofun⟩, delays⟩
  -- One more thing was done with a request.
  have said : (y.scene.status = .running → x.scene.status = .running) →
      ∀ d, (∀ t, d ≠ .answered t .running) → y.scene.deals = d :: x.scene.deals →
        x.scene.Discreet y.scene :=
    fun status d other deals =>
      ⟨status, ⟨[d], deals, fun t there => other t (List.mem_singleton.1 there).symm⟩, delays⟩
  -- The start request that waits was answered, if there is one.
  have told : (y.scene.status = .running → x.scene.status = .running) → ∀ status, status ≠ .running →
      (y.scene.deals = x.scene.pending.elim x.scene.deals fun t =>
        .answered t status :: x.scene.deals) → x.scene.Discreet y.scene := by
    intro silent status other deals
    cases pending : x.scene.pending with
    | none =>
      rw [pending] at deals
      exact quiet silent deals
    | some t =>
      rw [pending] at deals
      exact said silent (.answered t status) (fun t' same => other (Deal.answered.inj same).2) deals
  cases h with
  | ready => exact .inr ⟨_, _, rfl, rfl⟩
  | disable => exact .inl <| told (by simp) .stopped nofun (by simp [Scene.deals_answerPending])
  | giveUp | giveUpAttempt =>
    exact .inl <| told (by simp) .stopped nofun (by simp [Scene.deals_answerPending])
  | @refused s m pid keep f =>
    have handled := s.onProcess_handled pid fun p => { p with stage := .refused, cancelled := true }
    exact .inl <| told (by simp) .crashed nofun
      (by simp [Scene.deals_answerPending, handled.deals, handled.pending])
  | probeFailed ends =>
    have handled := Teardown.begin_handled ends
    exact .inl <| told (by simp [handled.status]) .crashed nofun
      (by simp [handled.deals, Scene.deals_answerPending])
  | @haltQuiet s m t session =>
    exact .inl <| said (by simp) (.answered t .stopped) nofun
      (by simp [(s.cancelSession_handled session).deals])
  | @halted s m t session =>
    exact .inl <| said (by simp) (.answered t .stopped) nofun (by simp [(s.hear_handled session).deals])
  | @startIdle s t | @startServing s t session =>
    exact .inl <| said (by simp) (.received (.start t)) nofun (by simp)
  | @stopServing s t session => exact .inl <| said (by simp) (.received (.stop t)) nofun (by simp)
  | @stopIdle s t =>
    exact .inl ⟨by simp, ⟨[.answered t .stopped, .received (.stop t)], by simp, by simp⟩, delays⟩
  | refresh goes =>
    have told := Refresh.resume_told goes
    exact .inl <| quiet (by simp [told.status]) told.deals
  | request goes =>
    have told := Refresh.resume_told goes
    exact .inl <| quiet (by simp [told.status, Scene.requestProcess, Scene.call]) told.deals
  | refreshFailed goes => exact .inl <| quiet (by simp) (by simp [(Refresh.resume_told goes).deals])
  | started | pause | pauseLost | attempt => exact .inl <| quiet id rfl
  | @pointed s m pid failure =>
    have same : s.status = ((s.systemPointed failure).call .probe).status :=
      (s.status_systemPointed failure).symm
    exact .inl <| quiet same.trans (by simp)
  | @halt s m t session =>
    have handled := s.cancelSession_handled session
    exact .inl <| quiet (by simp [handled.status]) handled.deals
  | @lostCancelled s m session =>
    have handled := (s.hear_handled session).trans (Scene.cancelSession_handled _ session)
    exact .inl <| quiet (by simp [handled.status]) handled.deals
  | @lost s m session =>
    have handled := (s.hear_handled session).trans (Scene.cancelSession_handled _ session)
    exact .inl <| quiet (by simp) (by simp [handled.deals])
  | clear ends =>
    have handled := Teardown.begin_handled ends
    exact .inl <| quiet (by simp [handled.status]) handled.deals
  | clearAttempt ends | clearing ends | cleared ends | clearedAttempt ends =>
    have handled := Teardown.resume_handled ends
    exact .inl <| quiet (by simp [handled.status]) (by simp [handled.deals])
  | _ => exact .inl <| quiet (by simp) (by simp)

theorem Walk.discreet (h : Walk x y) : x.scene.Discreet y.scene := by
  induction h with
  | wait => exact .refl _
  | go onWay first _ ih =>
    obtain discreet | ⟨pid, deadline, waits, -⟩ := first.discreet
    · exact discreet.trans ih
    · rw [waits] at onWay
      cases onWay

theorem Nudge.discreet (h : Nudge x y) : x.scene.Discreet y.scene := by
  have delays : y.scene.backoff = x.scene.backoff := congrArg Cadence.backoff h.cadence
  cases h with
  | told told => exact ⟨fun running => told.status ▸ running, ⟨[], told.deals, nofun⟩, 0, delays⟩
  | post _ => exact ⟨id, ⟨[.sent _], rfl, by simp⟩, 0, delays⟩
  | refreshFailed _ | forsake => exact ⟨by simp, ⟨[], by simp, nofun⟩, 0, delays⟩
  | _ => exact ⟨id, ⟨[], rfl, nofun⟩, 0, delays⟩

theorem Nudges.discreet (h : Nudges x y) : x.scene.Discreet y.scene :=
  h.keep (J := fun z => x.scene.Discreet z.scene) (fun _ _ last hx => hx.trans last.discreet) (.refl _)

theorem Watch.discreet_drop (w : Watch) : w.scene.Discreet w.drop.scene :=
  ⟨fun running => w.status_drop ▸ running, ⟨[], congrArg Book.deals w.book_drop, nofun⟩, 0,
    congrArg Cadence.backoff w.cadence_drop⟩

theorem Passage.discreet (h : Passage x y) :
    x.scene.Discreet y.scene ∨
      ∃ pid deadline, x.stand = .waiting (.attempting (.probing pid deadline)) ∧
        y.stand = .waiting (.serving (.of pid)) := by
  cases h with
  | tread h =>
    obtain ⟨z, first, rest⟩ := h
    obtain discreet | ⟨pid, deadline, was, leads⟩ := first.discreet
    · exact .inl (discreet.trans rest.discreet)
    · have arrived : y = z := rest.eq_of_waits (by rw [leads]; rfl)
      exact .inr ⟨pid, deadline, was, arrived ▸ leads⟩
  | nudges h => exact .inl h.discreet
  | @drop w _ _ => exact .inl w.discreet_drop

end

/-! ## Moves -/

namespace World

variable {w v : World} {m : Move}

/-- A move vouches for a resolver: it leads to a session with one, the status becomes running, somebody
is told that it is, or the delays begin anew. -/
def Vouches (w v : World) : Prop :=
  (∃ pid, v.watch.phase = .serving (.of pid)) ∨
  (w.scene.status ≠ .running ∧ v.scene.status = .running) ∨
  (∃ new t, v.scene.journal.answers = new ++ w.scene.journal.answers ∧ (t, .running) ∈ new) ∨
  ∀ n, v.scene.backoff ≠ Backoff.advance^[n] w.scene.backoff

variable {policy : Policy} {settings : Settings} {draws : Nat → Nat} {ms : List Move}

/-- After a good answer to its probe the watch vouches for the resolver. -/
theorem step_answered {pid deadline : Nat}
    (probing : w.watch.phase = .attempting (.probing pid deadline)) :
    w.step (.watch (.answer (.probed none))) =
      some (w.setWatch { w.watch with scene := w.scene.vouched, phase := .serving (.of pid) }) := by
  simp only [step, Watch.resume, probing, Attempt.resume, Attempt.probed, Option.map_some]
  rfl

theorem not_vouches (discreet : w.scene.Discreet v.scene)
    (unserved : ∀ pid, v.watch.phase ≠ .serving (.of pid)) : ¬ w.Vouches v := by
  rintro (⟨pid, serving⟩ | ⟨was, running⟩ | ⟨new, t, answers, there⟩ | anew)
  · exact unserved pid serving
  · exact was (discreet.status running)
  · obtain ⟨deals, same, silent⟩ := discreet.deals
    have answers' : v.scene.journal.answers = deals.filterMap Deal.answer? ++ w.scene.journal.answers :=
      (congrArg (List.filterMap Deal.answer?) same).trans List.filterMap_append
    rw [List.append_cancel_right (answers.symm.trans answers')] at there
    obtain ⟨d, hd, told⟩ := List.mem_filterMap.1 there
    cases d with
    | answered t' s =>
      cases told
      exact silent t hd
    | _ => cases told
  · obtain ⟨n, delays⟩ := discreet.delays
    exact anew n delays

/--
A move in the course of an attempt vouches for a resolver exactly if it brings a good answer to the probe
of the attempt.  Then all that vouches for one happens, and the notice of the end of the process stays
where it was: nothing here depends on whether the process has ended.
-/
theorem vouches_iff {a : Attempt} (h : (World.initial policy settings draws).run ms = some w)
    (attempting : w.watch.phase = .attempting a) (next : w.step m = some v) :
    (w.Vouches v ↔ (∃ pid deadline, a = .probing pid deadline) ∧ m = .watch (.answer (.probed none))) ∧
    ∀ pid deadline, a = .probing pid deadline → m = .watch (.answer (.probed none)) →
      v.watch.phase = .serving (.of pid) ∧ v.scene.status = .running ∧
      v.scene.backoff = { w.scene.backoff with current := w.scene.backoff.first } ∧
      (∀ t, w.scene.pending = some t →
        v.scene.journal.answers = (t, .running) :: w.scene.journal.answers) ∧
      v.scene.processes = w.scene.processes := by
  have ready : ∀ pid deadline, a = .probing pid deadline → m = .watch (.answer (.probed none)) →
      v.watch.phase = .serving (.of pid) ∧ v.scene.status = .running ∧
      v.scene.backoff = { w.scene.backoff with current := w.scene.backoff.first } ∧
      (∀ t, w.scene.pending = some t →
        v.scene.journal.answers = (t, .running) :: w.scene.journal.answers) ∧
      v.scene.processes = w.scene.processes := by
    rintro pid deadline rfl rfl
    have came := Option.some.inj (next.symm.trans (step_answered attempting))
    subst came
    exact ⟨rfl, w.scene.status_vouched, w.scene.backoff_vouched,
      fun t held => w.scene.answers_vouched held, w.scene.processes_vouched⟩
  have serves_pid : ∀ {pid}, v.watch.phase = .serving (.of pid) → v.watch.phase.served? = some pid :=
    fun serves => by rw [serves]; rfl
  refine ⟨⟨fun vouches => ?_, ?_⟩, ready⟩
  · obtain ⟨pid, deadline, probing, serves⟩ :
        ∃ pid deadline, w.watch.phase = .attempting (.probing pid deadline) ∧
          v.watch.phase = .serving (.of pid) := by
      refine Classical.byContradiction fun other => ?_
      have stays : ¬ ∃ pid deadline, w.stance.stand = .waiting (.attempting (.probing pid deadline)) ∧
          v.stance.stand = .waiting (.serving (.of pid)) := fun ⟨pid, deadline, was, leads⟩ =>
        other ⟨pid, deadline, Stand.waiting.inj was, Stand.waiting.inj leads⟩
      refine not_vouches (((run_sound h).passage next).discreet.resolve_right stays) ?_ vouches
      intro pid serves
      obtain served | ⟨-, deadline, probing⟩ := step_served next (run_sound h) (serves_pid serves)
      · rw [attempting] at served
        cases served
      · exact other ⟨pid, deadline, probing, serves⟩
    obtain served | ⟨good, -⟩ := step_served next (run_sound h) (serves_pid serves)
    · rw [attempting] at served
      cases served
    · exact ⟨⟨pid, deadline, Phase.attempting.inj (attempting.symm.trans probing)⟩, good⟩
  · rintro ⟨⟨pid, deadline, rfl⟩, rfl⟩
    exact .inl ⟨pid, (ready pid deadline rfl rfl).1⟩

/-- The moves of a first start request whose first attempt fails, and of a second attempt whose process
ends while its probe is under way. -/
def endInProbe : List Move :=
  firstSession.take 9 ++
  [.watch (.answer (.filesSetUp (some (.other (.root "unreachable"))))), .pass 10000000000,
    .watch .elapsed, .watch (.answer (.filesSetUp none)), .watch (.answer (.listsBuilt {})),
    .watch (.answer (.configWritten none)), .watch (.answer (.started none)),
    .watch (.answer (.systemPointed none)), .exit 0 .dropped]

theorem bad_probe_is_discreet :
    ∃ w v, wanted.run endInProbe = some w ∧ w.scene.note? 0 = some .dropped ∧
      w.step (.watch (.answer (.probed (some .cancelled)))) = some v ∧ ¬ w.Vouches v := by
  have ran : ((wanted.run endInProbe).any fun w => decide
      (w.scene.note? 0 = some .dropped ∧
        w.watch.phase = .attempting (.probing 0 (Clock.endOfWait w.scene.now w.scene.policy.probeTimeout)) ∧
        (w.step (.watch (.answer (.probed (some .cancelled))))).isSome)) = true := by
    decide +kernel
  obtain ⟨w, hw, ran⟩ := (Option.any_eq_true _ _).1 ran
  obtain ⟨ended, probing, goes⟩ := of_decide_eq_true ran
  obtain ⟨v, hv⟩ := Option.isSome_iff_exists.1 goes
  refine ⟨w, v, hw, ended, hv, fun vouches => ?_⟩
  cases ((vouches_iff hw probing hv).1.1 vouches).2

/-- A process has ended while its probe is under way, and yet a good answer to the probe leads to a session
with it, is followed by the status running and by the same answer to the caller, and takes the delay back
to the default. -/
theorem vouches_for_ended_process :
    ∃ w v, wanted.run endInProbe = some w ∧ w.scene.note? 0 = some .dropped ∧ w.scene.live = 0 ∧
      w.scene.status = .crashed ∧ w.scene.backoff.current = .ofSeconds 20 ∧
      w.step (.watch (.answer (.probed none))) = some v ∧
      v.watch.phase = .serving (.of 0) ∧ v.scene.status = .running ∧
      v.scene.journal.answers = [(0, .running)] ∧ v.scene.backoff.current = .ofSeconds 10 ∧
      v.scene.live = 0 := by
  have ran : ((wanted.run endInProbe).any fun w =>
      (w.step (.watch (.answer (.probed none)))).any fun v => decide
        ((w.scene.note? 0 = some .dropped ∧ w.scene.live = 0 ∧ w.scene.status = .crashed ∧
          w.scene.backoff.current = .ofSeconds 20) ∧
          v.watch.phase = .serving (.of 0) ∧ v.scene.status = .running ∧
          v.scene.journal.answers = [(0, .running)] ∧ v.scene.backoff.current = .ofSeconds 10 ∧
          v.scene.live = 0)) = true := by
    decide +kernel
  obtain ⟨w, hw, ran⟩ := (Option.any_eq_true _ _).1 ran
  obtain ⟨v, hv, ran⟩ := (Option.any_eq_true _ _).1 ran
  obtain ⟨⟨ended, none, crashed, doubled⟩, vouches⟩ := of_decide_eq_true ran
  exact ⟨w, v, hw, ended, none, crashed, doubled, hv, vouches⟩

end World

end DnsWarden
