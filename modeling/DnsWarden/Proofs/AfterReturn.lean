import DnsWarden.Proofs.Parked

/-!
# After the watch has returned

What a watch that has returned leaves behind is decided where it was parked last.  Nobody stores a
status but crashed from there on, and DNS points where it pointed or at a plaintext nameserver.  So both
still present the resolver if a session was kept there, and neither does if none was.  The main
statement is `World.left_behind`.
-/

namespace DnsWarden

/-! ## Since the watch was parked last -/

/-- Whether the watch is parked there. -/
def Stand.isParked : Stand → Bool
  | .waiting p => p.isParked
  | _ => false

section

variable {J : Stance → Prop} {x y : Stance}

theorem Stand.not_isParked {st : Stand} (h : st.waits = false) : st.isParked = false := by
  cases st with
  | waiting p => cases h
  | _ => rfl

/-- A walk that does not lead to where the watch is parked does not begin there. -/
theorem Walk.not_isParked (h : Walk x y) (unparked : y.stand.isParked = false) :
    x.stand.isParked = false := by
  cases h with
  | wait => exact unparked
  | go onWay _ _ => exact Stand.not_isParked onWay

theorem Walk.keep_unparked (h : Walk x y)
    (shift : ∀ x y, Shift x y → y.stand.isParked = false → J x → J y)
    (unparked : y.stand.isParked = false) (hx : J x) : J y := by
  induction h with
  | wait => exact hx
  | go _ first rest ih =>
    exact ih unparked (shift _ _ (.stride first) (rest.not_isParked unparked) hx)

/-- What every shift keeps that does not park the watch, every move keeps that does not. -/
theorem Passage.keep_unparked (h : Passage x y)
    (shift : ∀ x y, Shift x y → y.stand.isParked = false → J x → J y)
    (unparked : y.stand.isParked = false) (hx : J x) : J y := by
  cases h with
  | tread h =>
    obtain ⟨z, first, rest⟩ := h
    have here := shift _ _ (.stride first) (rest.not_isParked unparked) hx
    exact rest.keep_unparked shift unparked here
  | nudges h =>
    induction h with
    | refl => exact hx
    | tail _ last ih => exact shift _ _ (.nudge last) unparked (ih (last.stand ▸ unparked))
  | drop isOpen begun => exact shift _ _ (.drop isOpen begun) unparked hx

end

namespace World

/-- Where the watch was parked last in the course of a run. -/
def lastParked? (w : World) : List Move → Option World
  | [] => if w.watch.phase.isParked then some w else none
  | m :: ms =>
    ((w.step m).bind fun v => v.lastParked? ms).or
      (if w.watch.phase.isParked then some w else none)

variable {w v u : World} {ms : List Move}

theorem not_isParked_of_lastParked? (none : w.lastParked? ms = none) :
    w.watch.phase.isParked = false := by
  cases ms <;> simp_all [lastParked?]

/-- What every shift keeps that does not park the watch, is kept from where it was parked last, or from
the beginning if it never was. -/
theorem Sound.since_parked {J : Stance → Prop}
    (shift : ∀ x y, Shift x y → y.stand.isParked = false → J x → J y) (sound : w.Sound)
    (h : w.run ms = some v) :
    (w.lastParked? ms = none → J w.stance → J v.stance) ∧
    ∀ u, w.lastParked? ms = some u → u.watch.phase.isParked = true ∧
      (∃ before after, w.run before = some u ∧ u.run after = some v) ∧ (J u.stance → J v.stance) := by
  induction ms generalizing w with
  | nil =>
    cases h
    refine ⟨fun _ => id, fun u last => ?_⟩
    simp only [lastParked?] at last
    split_ifs at last with parked
    cases last
    exact ⟨parked, ⟨[], [], rfl, rfl⟩, id⟩
  | cons m ms ih =>
    obtain ⟨x, hx, hv⟩ := Option.bind_eq_some_iff.1 h
    obtain ⟨never, since⟩ := ih (sound.step hx) hv
    cases later : x.lastParked? ms with
    | some u' =>
      have last : w.lastParked? (m :: ms) = some u' := by simp [lastParked?, hx, later]
      refine ⟨fun none => absurd (last.symm.trans none) nofun, fun u here => ?_⟩
      obtain rfl : u' = u := Option.some.inj (last.symm.trans here)
      obtain ⟨parked, ⟨before, after, hu, hv⟩, kept⟩ := since _ later
      exact ⟨parked, ⟨m :: before, after, by rw [run_cons, hx]; exact hu, hv⟩, kept⟩
    | none =>
      have onward : J w.stance → J v.stance := fun hw =>
        never later ((sound.passage hx).keep_unparked shift (not_isParked_of_lastParked? later) hw)
      refine ⟨fun _ => onward, fun u last => ?_⟩
      simp only [lastParked?, hx, Option.bind_some, later, Option.none_or] at last
      split_ifs at last with parked
      cases last
      exact ⟨parked, ⟨[], m :: ms, rfl, h⟩, onward⟩

end World

/-! ## What is left behind -/

/-- Where it stays, and where it turns crashed: what may have become of a status. -/
def Status.Stays (before after : Status) : Prop := after = before ∨ after = .crashed

theorem Status.Stays.trans {a b c : Status} (h : a.Stays b) (h' : b.Stays c) : a.Stays c := by
  obtain rfl | rfl := h'
  · exact h
  · exact .inr rfl

theorem Stride.status_stays {x y : Stance} (h : Stride x y) (unparked : y.stand.isParked = false) :
    x.scene.status.Stays y.scene.status := by
  cases h with
  | settle | pause | pauseLost | disable | haltQuiet | halted | stopIdle | ready => cases unparked
  | refreshFailed | refused | lost => exact .inr (by simp)
  | probeFailed ends => exact .inr ((Teardown.begin_handled ends).status.trans (by simp))
  | attempt | started => exact .inl rfl
  | refresh goes | request goes => exact .inl (Refresh.resume_told goes).status
  | pointed failure => exact .inl (Scene.status_systemPointed _ failure)
  | halt => exact .inl (Scene.cancelSession_handled _ _).status
  | lostCancelled =>
    exact .inl ((Scene.hear_handled _ _).trans (Scene.cancelSession_handled _ _)).status
  | clear ends => exact .inl (Teardown.begin_handled ends).status
  | clearing ends | cleared ends | clearAttempt ends | clearedAttempt ends =>
    exact .inl (Teardown.resume_handled ends).status
  | _ => exact .inl (by simp)

theorem Nudge.status_stays {x y : Stance} (h : Nudge x y) : x.scene.status.Stays y.scene.status := by
  cases h with
  | told told => exact .inl told.status
  | refreshFailed _ => exact .inr (by simp)
  | forsake => exact .inl (Scene.status_forsake _ _)
  | _ => exact .inl rfl

/-- Until the watch is parked once more, nobody stores a status but crashed. -/
theorem Shift.status_stays {x y : Stance} (h : Shift x y) (unparked : y.stand.isParked = false) :
    x.scene.status.Stays y.scene.status := by
  cases h with
  | stride h => exact h.status_stays unparked
  | nudge h => exact h.status_stays
  | @drop w _ _ => exact .inl w.status_drop

/-- Whether the watch stands where it has not been parked yet, or where it was dropped. -/
def Stand.isFresh : Stand → Bool
  | .waiting .unborn | .waiting .dropped => true
  | .waiting (.retreating after) | .retreating _ after | .resuming after => after.isEarly
  | _ => false

theorem Shift.fresh {x y : Stance} (h : Shift x y) (unparked : y.stand.isParked = false)
    (hx : x.stand.isFresh = true) : y.stand.isFresh = true := by
  cases h with
  | stride h =>
    cases h with
    | begin | retreat | strand | retreated => exact hx
    | settle => cases unparked
    | _ => cases hx
  | nudge h => cases h <;> exact hx
  | drop _ _ => rfl

/-- Whether the watch leads from an attempt, or to one. -/
def AfterRetreat.isAttempt : AfterRetreat → Bool
  | .attempt => true
  | _ => false

/-- Whether the watch can return from there without being parked once more. -/
def Stand.canReturn : Stand → Bool
  | .waiting .idle | .waiting (.pausing _ _) | .waiting (.serving _) => true
  | .waiting (.retreating after) | .retreating _ after | .resuming after => after.isAttempt
  | .waiting (.clearing _ _) | .clearing _ _ | .ending _ => true
  | .cycling | .attempting | .finishing | .waiting .returned => true
  | _ => false

/-- From where the watch can return, DNS points at a plaintext nameserver. -/
def Stance.LeavesDown (x : Stance) : Prop :=
  x.stand.canReturn = true → x.scene.FacesPlaintext

theorem Stance.LeavesDown.of_same {x y : Stance} (h : x.LeavesDown)
    (stand : y.stand.canReturn = true → x.stand.canReturn = true)
    (marks : y.scene.marks = x.scene.marks) : y.LeavesDown :=
  fun returns => (h (stand returns)).of_marks marks

theorem Stride.leavesDown {x y : Stance} (h : Stride x y) (unparked : y.stand.isParked = false)
    (hx : x.LeavesDown) : y.LeavesDown := by
  cases h with
  | settle | pause | pauseLost | disable | haltQuiet | halted | stopIdle | ready => cases unparked
  | begin | halt | attempt | unwanted | refresh | refreshFailed | request | refused | started
  | pointed | probeFailed | clearAttempt | clearedAttempt | stopServing | lost => nofun
  | @retreat s m failed after ip _ => exact fun _ => ⟨ip, rfl, rfl⟩
  | strand | venture | cycle | wake | cancelIdle | clearEmpty | endFinish => exact hx.of_same id rfl
  | wakeLost | cancelServing | startServing => exact hx.of_same (fun _ => rfl) rfl
  | retreated => exact hx.of_same id (by simp)
  | startIdle | giveUp | giveUpAttempt | endRestart | finish | finishRequest =>
    exact hx.of_same (fun _ => rfl) (by simp)
  | lostCancelled =>
    exact hx.of_same (fun _ => rfl)
      ((Scene.hear_handled _ _).trans (Scene.cancelSession_handled _ _)).marks
  | clear ends => exact hx.of_same (fun _ => rfl) (Teardown.begin_handled ends).marks
  | clearing ends | cleared ends => exact hx.of_same (fun _ => rfl) (Teardown.resume_handled ends).marks

theorem Shift.leavesDown {x y : Stance} (h : Shift x y) (unparked : y.stand.isParked = false)
    (hx : x.LeavesDown) : y.LeavesDown := by
  cases h with
  | stride h => exact h.leavesDown unparked hx
  | nudge h =>
    intro returns
    exact h.keeps_bearing (b := .plaintext) (hx (h.stand ▸ returns))
  | drop _ _ => nofun

/-- How a watch goes on that kept a session where it was parked last. -/
inductive Course where
  | serving
  /-- It ends the session and returns. -/
  | returning
  /-- It is parked once more, unless it is dropped. -/
  | parking
  | elsewhere

def AfterRetreat.course : AfterRetreat → Course
  | .halt _ _ | .recover _ _ => .parking
  | _ => .elsewhere

def AfterSession.course : AfterSession → Course
  | .finish => .returning
  | .restart _ => .elsewhere

def Phase.course : Phase → Course
  | .serving _ => .serving
  | .clearing _ after => after.course
  | .returned => .returning
  | .retreating after => after.course
  | .halting _ _ | .dropped => .parking
  | _ => .elsewhere

def Stand.course : Stand → Course
  | .waiting p => p.course
  | .clearing _ after | .ending after => after.course
  | .finishing => .returning
  | .retreating _ after | .resuming after => after.course
  | _ => .elsewhere

theorem Scene.FacesResolver.of_even {s s' : Scene} (h : s.FacesResolver) (even : s.Even s')
    (marks : s'.marks = s.marks) : s'.FacesResolver := by
  unfold FacesResolver
  rw [marks, even.policy]
  exact h

theorem Scene.FacesResolver.of_handled {s s' : Scene} (h : s.FacesResolver) (handled : s.Handled s') :
    s'.FacesResolver :=
  h.of_even (.of_handled handled) handled.marks

/-- Where a watch that kept a session returns, DNS points at the resolver. -/
def Stance.LeavesUp (x : Stance) : Prop :=
  match x.stand.course with
  | .serving => x.scene.FacesResolver ∧ ∀ t, x.mailbox ≠ some (.start t)
  | .returning => x.scene.FacesResolver
  | .parking => True
  | .elsewhere => False

theorem Stride.leavesUp {x y : Stance} (h : Stride x y) (unparked : y.stand.isParked = false)
    (hx : x.LeavesUp) : y.LeavesUp := by
  cases h with
  | settle | pause | pauseLost | disable | haltQuiet | halted | stopIdle | ready => cases unparked
  | @retreat s m failed after | @strand s m failed after | @retreated s m after =>
    cases after <;> exact hx
  | halt | stopServing | lost => trivial
  | cancelServing => exact hx.1
  | @startServing s t session => exact absurd rfl (hx.2 t)
  | lostCancelled =>
    exact Scene.FacesResolver.of_handled hx.1
      ((Scene.hear_handled _ _).trans (Scene.cancelSession_handled _ _))
  | @clear s s' m session after td ends =>
    cases after with
    | finish => exact Scene.FacesResolver.of_handled hx (Teardown.begin_handled ends)
    | restart reply => exact hx
  | clearEmpty | endFinish => exact hx
  | @clearing s s' m after td td' ends | @cleared s s' m after td ends =>
    cases after with
    | finish => exact Scene.FacesResolver.of_handled hx (Teardown.resume_handled ends)
    | restart reply => exact hx
  | finish | finishRequest =>
    exact Scene.FacesResolver.of_even hx (.of_same (by simp) (by simp)) (by simp)
  | _ => exact hx.elim

theorem Stand.isParked_of_serving {st : Stand} (h : st.course = .serving) : st.isParked = true := by
  cases st with
  | waiting p =>
    cases p with
    | serving session => rfl
    | retreating after => cases after <;> cases h
    | clearing td after => cases after <;> cases h
    | _ => cases h
  | retreating failed after | resuming after => cases after <;> cases h
  | clearing session after | ending after => cases after <;> cases h
  | _ => cases h

theorem Shift.leavesUp {x y : Stance} (h : Shift x y) (unparked : y.stand.isParked = false)
    (hx : x.LeavesUp) : y.LeavesUp := by
  cases h with
  | stride h => exact h.leavesUp unparked hx
  | nudge h =>
    unfold Stance.LeavesUp at hx ⊢
    rw [h.stand]
    cases course : x.stand.course with
    | serving =>
      have parked := Stand.isParked_of_serving course
      rw [← h.stand, unparked] at parked
      cases parked
    | returning =>
      rw [course] at hx
      exact h.keeps_bearing (b := .resolver) hx
    | parking => trivial
    | elsewhere =>
      rw [course] at hx
      exact hx
  | drop _ _ => trivial

/-! ## Runs -/

namespace World

variable {policy : Policy} {settings : Settings} {draws : Nat → Nat} {ms : List Move} {w u : World}

/-- The settings that were stored by then are known if all are. -/
theorem Sound.known {first : Settings} (sound : u.Sound) (h : u.run ms = some w)
    (known : w.scene.Known first) : u.scene.Known first := by
  have back : w.stance.scene.Known first → u.stance.scene.Known first :=
    (sound.run (J := fun x => x.scene.Known first → u.stance.scene.Known first)
      (fun _ _ shift before known => before (shift.known known)) h id).2
  exact back known

/--
While every settings value stored names a plaintext nameserver: what a watch that has returned leaves
behind is decided where it was parked last.  The status is what it was there, unless an attempt or a
periodic refresh failed since.  If the watch kept no session there, then the status is not running and
the warden's own lookups were pointed at a plaintext nameserver last.  If it kept one, then they still
point at the resolver, unless a start request was waiting in the mailbox.
-/
theorem left_behind (h : (World.initial policy settings draws).run ms = some w)
    (known : w.scene.Known settings) (returned : w.watch.phase = .returned) :
    ∃ u, (World.initial policy settings draws).lastParked? ms = some u ∧
      (w.scene.status = u.scene.status ∨ w.scene.status = .crashed) ∧
      (¬ u.KeepsSession → w.scene.status ≠ .running ∧
        ∃ ip, w.scene.journal.internalTarget? = some (ip, .plaintext)) ∧
      (u.KeepsSession → (∀ t, u.watch.mailbox ≠ some (.start t)) →
        w.scene.journal.internalTarget? = some (w.scene.policy.resolverAddress, .encrypted)) := by
  have sound := initial_sound policy settings draws
  have stand : w.stance.stand = .waiting .returned := congrArg Stand.waiting returned
  obtain ⟨u, last⟩ : ∃ u, (World.initial policy settings draws).lastParked? ms = some u := by
    refine Option.ne_none_iff_exists'.1 fun never => ?_
    have fresh : w.stance.stand.isFresh = true := by
      refine (sound.since_parked (J := fun x => x.stand.isFresh = true) ?_ h).1 never rfl
      exact fun _ _ shift => shift.fresh
    rw [stand] at fresh
    cases fresh
  have since := fun {J : Stance → Prop}
    (shift : ∀ x y, Shift x y → y.stand.isParked = false → J x → J y) =>
    (sound.since_parked shift h).2 u last
  obtain ⟨parked, ⟨before, after, hu, hw⟩, down⟩ :=
    since (J := Stance.LeavesDown) fun _ _ shift => shift.leavesDown
  have up := (since (J := Stance.LeavesUp) fun _ _ shift => shift.leavesUp).2.2
  have stays : u.scene.status.Stays w.scene.status :=
    (since (J := fun x => u.scene.status.Stays x.scene.status) fun _ _ shift unparked stays =>
      stays.trans (shift.status_stays unparked)).2.2 (.inl rfl)
  have bears : u.scene.Bears u.watch.phase.bearing :=
    (run_points hu).bears ((run_sound hu).known hw known)
  refine ⟨u, last, stays, fun left => ⟨fun running => ?_, ?_⟩, fun ⟨session, serving, kept⟩ none => ?_⟩
  · obtain same | crashed := stays
    · exact not_running_of_parked (run_agrees hu).status parked left (same.symm.trans running)
    · cases crashed.symm.trans running
  · have faces : w.scene.FacesPlaintext :=
      down (fun _ => facesPlaintext_of_parked bears parked left) (by rw [stand]; rfl)
    obtain ⟨ip, internal, -⟩ := faces
    exact ⟨ip, internal⟩
  · have place : u.stance.stand = .waiting (.serving session) := congrArg Stand.waiting serving
    rw [serving] at bears
    unfold Stance.LeavesUp at up
    rw [stand, place] at up
    exact (up ⟨bears.1 kept, none⟩).1

/-- The moves to the end of a watch that is cancelled before the first start request. -/
def cancelledIdle : List Move :=
  [.run, .watch (.answer (.systemPointed none)), .cancelWatch, .watch .cancelled]

theorem left_behind_idle :
    ∃ w, wanted.run cancelledIdle = some w ∧ w.watch.phase = .returned ∧ w.scene.status ≠ .running ∧
      ∃ ip, w.scene.journal.internalTarget? = some (ip, .plaintext) := by
  have ran : ((wanted.run cancelledIdle).any fun w => decide
      (w.scene.marks.stored = [] ∧ w.watch.phase = .returned ∧
        (wanted.lastParked? cancelledIdle).any fun u => decide (u.watch.phase = .idle))) = true := by
    decide
  obtain ⟨w, hw, ran⟩ := (Option.any_eq_true _ _).1 ran
  obtain ⟨stored, returned, idle⟩ := of_decide_eq_true ran
  have known : w.scene.Known { enabled := true, plaintextAddress := some .loopback } :=
    Scene.known_of_stored_nil stored rfl
  obtain ⟨u, last, -, down, -⟩ := left_behind hw known returned
  obtain ⟨u', last', idle⟩ := (Option.any_eq_true _ _).1 idle
  obtain rfl : u = u' := Option.some.inj (last.symm.trans last')
  refine ⟨w, hw, returned, down ?_⟩
  rintro ⟨session, serving, -⟩
  cases (of_decide_eq_true idle).symm.trans serving

/-- The moves from a first session to the end of a watch that is cancelled while it serves it. -/
def cancelledServing : List Move :=
  [.cancelWatch, .watch .cancelled, .exit 0 .clean, .watch .ended, .hangUp 0 .out, .hangUp 0 .err,
    .collect 0 (.read .out), .collect 0 (.read .err), .watch .ended]

/-- After a watch that was cancelled while it served a session, the status is running and the warden's
own lookups point at the resolver, though its process has ended. -/
theorem session_presented_after_return :
    ∃ w, wanted.run (firstSession ++ cancelledServing) = some w ∧
      w.scene.Known { enabled := true, plaintextAddress := some .loopback } ∧
      w.watch.phase = .returned ∧ w.scene.status = .running ∧
      w.scene.journal.internalTarget? = some (w.scene.policy.resolverAddress, .encrypted) ∧
      w.scene.live = 0 := by
  have ran : ((wanted.run (firstSession ++ cancelledServing)).any fun w => decide
      (w.scene.marks.stored = [] ∧ w.watch.phase = .returned ∧ w.scene.status = .running ∧
        w.scene.journal.internalTarget? = some (w.scene.policy.resolverAddress, .encrypted) ∧
        w.scene.live = 0)) = true := by
    decide
  obtain ⟨w, hw, ran⟩ := (Option.any_eq_true _ _).1 ran
  obtain ⟨stored, presented⟩ := of_decide_eq_true ran
  exact ⟨w, hw, Scene.known_of_stored_nil stored rfl, presented⟩

end World

end DnsWarden
