import DnsWarden.Proofs.OneProcess

/-!
# Where DNS points

Provided that every settings value ever stored names a plaintext nameserver, DNS points at the
resolver while the watch serves a session whose process it keeps, and at a plaintext nameserver
wherever else the watch waits without limit.  `Stand.bearing` says where DNS points at each place, and
the main statement is `World.dns_follows_session`.
-/

namespace DnsWarden

namespace Scene

/-- The warden's own lookups and the system were pointed at the same plaintext nameserver. -/
def FacesPlaintext (s : Scene) : Prop :=
  ∃ ip, s.marks.internal = some (ip, .plaintext) ∧ s.marks.system = some ip

/-- The warden's own lookups and the system were pointed at the resolver. -/
def FacesResolver (s : Scene) : Prop :=
  s.marks.internal = some (s.policy.resolverAddress, .encrypted) ∧
    s.marks.system = some s.policy.resolverAddress

/-- Every settings value stored so far, from the first one on, names a plaintext nameserver. -/
def Known (s : Scene) (first : Settings) : Prop :=
  ∀ t ∈ first :: s.marks.stored, t.plaintextTarget?.isSome = true

theorem known_of_stored_nil {s : Scene} {first : Settings} (stored : s.marks.stored = [])
    (target : first.plaintextTarget?.isSome = true) : s.Known first := by
  intro t ht
  rw [stored] at ht
  obtain rfl := List.mem_singleton.1 ht
  exact target

end Scene

/-- Where DNS points. -/
inductive Bearing where
  | anywhere
  | plaintext
  | resolver
  /-- At the resolver while the process of the session is kept, else at a plaintext nameserver. -/
  | session (session : Session)

/-- Whether the watch waits for a request, for the end of a pause, or with a session that it serves. -/
def Phase.isParked : Phase → Bool
  | .idle | .pausing _ _ | .serving _ => true
  | _ => false

def Phase.bearing : Phase → Bearing
  | .unborn | .clearing _ _ | .returned | .dropped => .anywhere
  | .retreating _ | .idle | .pausing _ _ | .halting _ _ => .plaintext
  | .attempting (.refreshing _) | .attempting (.starting _ _) => .plaintext
  | .attempting (.pointing _) | .attempting (.probing _ _) => .resolver
  | .attempting (.clearing _ _) => .anywhere
  | .serving session => .session session

/-- Where DNS points at a place of the watch. -/
def Stand.bearing : Stand → Bearing
  | .waiting p => p.bearing
  | .resuming _ | .attempting => .plaintext
  | _ => .anywhere

/-- DNS points where a bearing says. -/
def Scene.Bears (s : Scene) : Bearing → Prop
  | .anywhere => True
  | .plaintext => s.FacesPlaintext
  | .resolver => s.FacesResolver
  | .session session =>
    (s.Keeps session → s.FacesResolver) ∧ (¬ s.Keeps session → s.FacesPlaintext)

namespace Scene

variable {s s' : Scene} {b : Bearing} {session : Session}

theorem FacesPlaintext.of_marks (h : s.FacesPlaintext) (same : s'.marks = s.marks) :
    s'.FacesPlaintext := by
  unfold FacesPlaintext
  rw [same]
  exact h

theorem Bears.of_plaintext (h : s.FacesPlaintext) (kept : ¬ s.Keeps session) :
    s.Bears (.session session) :=
  ⟨fun keeps => absurd keeps kept, fun _ => h⟩

theorem Bears.of_resolver (h : s.FacesResolver) (kept : s.Keeps session) :
    s.Bears (.session session) :=
  ⟨fun _ => h, fun left => absurd kept left⟩

/-- Where DNS points is kept by what keeps the last calls, the policy and the kept processes. -/
theorem Bears.congr (h : s.Bears b) (internal : s'.marks.internal = s.marks.internal)
    (system : s'.marks.system = s.marks.system) (policy : s'.policy = s.policy)
    (keeps : ∀ session, s'.Keeps session ↔ s.Keeps session) : s'.Bears b := by
  have plaintext : s.FacesPlaintext → s'.FacesPlaintext := by
    unfold FacesPlaintext
    rw [internal, system]
    exact id
  have resolver : s.FacesResolver → s'.FacesResolver := by
    unfold FacesResolver
    rw [internal, system, policy]
    exact id
  cases b with
  | anywhere => trivial
  | plaintext => exact plaintext h
  | resolver => exact resolver h
  | session session =>
    have same := keeps session
    exact ⟨fun kept => resolver (h.1 (same.1 kept)), fun left => plaintext (h.2 (mt same.2 left))⟩

theorem Bears.of_same (h : s.Bears b) (premises : s'.premises = s.premises)
    (marks : s'.marks = s.marks) : s'.Bears b :=
  h.congr (congrArg Marks.internal marks) (congrArg Marks.system marks)
    (congrArg (fun p => p.2.2.1) premises) (keeps_congr premises)

end Scene

/-- Every stride leads to where DNS points as its end says, if a plaintext nameserver is known. -/
theorem Stride.bears {x y : Stance} (h : Stride x y) (tends : x.Tends)
    (known : x.scene.settings.plaintextTarget?.isSome = true) (hx : x.scene.Bears x.stand.bearing) :
    y.scene.Bears y.stand.bearing := by
  cases h with
  | begin | cancelIdle | startIdle | giveUp | cycle | giveUpAttempt | unwanted | refused | probeFailed
  | clearAttempt | clearedAttempt | wakeLost | cancelServing | startServing | stopServing
  | lostCancelled | lost | clear | clearEmpty | clearing | cleared | endRestart | endFinish | finish
  | finishRequest => trivial
  | @retreat s m failed after ip _ => exact ⟨ip, rfl, rfl⟩
  | strand target =>
    rw [target] at known
    cases known
  | settle | venture | wake => exact hx
  | retreated | pause | pauseLost | stopIdle | attempt | pointed => exact hx.of_same (by simp) (by simp)
  | disable =>
    exact .of_plaintext (Scene.FacesPlaintext.of_marks hx (by simp)) (Scene.not_keeps_empty _)
  | halt => exact Scene.FacesPlaintext.of_marks hx (Scene.cancelSession_handled _ _).marks
  | @haltQuiet s m t session _ =>
    have marks := (s.cancelSession_handled session).marks
    exact .of_plaintext (Scene.FacesPlaintext.of_marks hx (by simpa using marks))
      (Scene.not_keeps_answered Scene.not_keeps_cancelSession t)
  | @halted s m t session note _ =>
    have marks := (s.hear_handled session).marks
    exact .of_plaintext (Scene.FacesPlaintext.of_marks hx (by simpa using marks))
      (Scene.not_keeps_answered Scene.not_keeps_hear t)
  | refresh goes =>
    have told := Refresh.resume_told goes
    exact hx.of_same told.premises told.marks
  | refreshFailed goes =>
    have told := Refresh.resume_told goes
    exact (hx.of_same told.premises told.marks).of_same (by simp) (by simp)
  | @request s s' m r a goes =>
    have faces : s'.FacesPlaintext := Scene.FacesPlaintext.of_marks hx (Refresh.resume_told goes).marks
    obtain ⟨ip, internal, system⟩ := faces
    exact ⟨ip, internal, system⟩
  | started => exact ⟨rfl, rfl⟩
  | @ready s m pid =>
    have kept : s.Keeps (.of pid) := Scene.Sole.keeps tends
    have here : s.Bears (.session (.of pid)) := .of_resolver hx kept
    exact here.of_same (by simp) (by simp)

/-- Others do not point DNS anywhere. -/
theorem Nudge.keeps_bearing {x y : Stance} (h : Nudge x y) {b : Bearing} (hx : x.scene.Bears b) :
    y.scene.Bears b := by
  cases h with
  | told told => exact hx.of_same told.premises told.marks
  | drift found drifts => exact hx.congr rfl rfl rfl (Scene.keeps_drift found drifts)
  | cancel | pass | replace | openReply | post => exact hx.congr rfl rfl rfl fun _ => Iff.rfl
  | refreshFailed | restarted | forsake => exact hx.of_same (by simp) (by simp)

theorem Nudge.bears {x y : Stance} (h : Nudge x y) (hx : x.scene.Bears x.stand.bearing) :
    y.scene.Bears y.stand.bearing := by
  have here := h.keeps_bearing hx
  cases h <;> exact here

/-! ## The settings stored so far -/

theorem Stride.stored {x y : Stance} (h : Stride x y) :
    y.scene.settings = x.scene.settings ∧ y.scene.marks.stored = x.scene.marks.stored := by
  obtain even | ⟨-, s, detail, even, asked⟩ := h.even
  · exact ⟨even.settings, even.stored⟩
  · rw [asked, Scene.marks_requestProcess]
    exact ⟨even.settings, even.stored⟩

/-- Others store new settings or none. -/
theorem Nudge.stored {x y : Stance} (h : Nudge x y) :
    (y.scene.settings = x.scene.settings ∧ y.scene.marks.stored = x.scene.marks.stored) ∨
      y.scene.marks.stored = y.scene.settings :: x.scene.marks.stored := by
  have same : x.scene.Even y.scene →
      y.scene.settings = x.scene.settings ∧ y.scene.marks.stored = x.scene.marks.stored :=
    fun even => ⟨even.settings, even.stored⟩
  cases h with
  | told told => exact .inl (same (.of_told told))
  | drift _ _ => exact .inl (same (.of_handled (Scene.onProcess_handled _ _ _)))
  | cancel | pass | openReply => exact .inl ⟨rfl, rfl⟩
  | refreshFailed | restarted | forsake => exact .inl (same (.of_same (by simp) (by simp)))
  | replace => exact .inr rfl
  | @post p s r _ =>
    left
    cases r with
    | start t => exact ⟨rfl, rfl⟩
    | stop t => exact ⟨rfl, rfl⟩

/-- Settings are stored one by one. -/
theorem Shift.stored {x y : Stance} (h : Shift x y) :
    (y.scene.settings = x.scene.settings ∧ y.scene.marks.stored = x.scene.marks.stored) ∨
      y.scene.marks.stored = y.scene.settings :: x.scene.marks.stored := by
  cases h with
  | stride h => exact .inl h.stored
  | nudge h => exact h.stored
  | @drop w _ _ => exact .inl ⟨w.drop_even.settings, w.drop_even.stored⟩

/-- What was stored so far before a shift is among what was stored after it. -/
theorem Shift.known {first : Settings} {x y : Stance} (h : Shift x y) (known : y.scene.Known first) :
    x.scene.Known first := by
  intro t ht
  refine known t ?_
  obtain ⟨-, stored⟩ | stored := h.stored
  · rwa [stored]
  · rw [stored]
    obtain rfl | ht := List.mem_cons.1 ht
    · exact List.mem_cons_self
    · exact List.mem_cons_of_mem _ (List.mem_cons_of_mem _ ht)

/-! ## Runs -/

/-- The watch tends its process, and DNS points where the watch's place says. -/
structure Stance.Points (first : Settings) (x : Stance) : Prop where
  tends : x.Tends
  stored : x.scene.settings ∈ first :: x.scene.marks.stored
  bears : x.scene.Known first → x.scene.Bears x.stand.bearing

theorem Stance.Points.shift {first : Settings} (x y : Stance) (h : Shift x y) (hx : x.Points first) :
    y.Points first where
  tends := h.tends x y hx.tends
  stored := by
    obtain ⟨settings, stored⟩ | stored := h.stored
    · rw [settings, stored]
      exact hx.stored
    · rw [stored]
      exact List.mem_cons_of_mem _ List.mem_cons_self
  bears known := by
    have before : x.scene.Known first := h.known known
    cases h with
    | stride h => exact h.bears hx.tends (before _ hx.stored) (hx.bears before)
    | nudge h => exact h.bears (hx.bears before)
    | drop _ _ => trivial

namespace World

variable {policy : Policy} {settings : Settings} {draws : Nat → Nat} {ms : List Move} {w : World}

theorem run_points (h : (World.initial policy settings draws).run ms = some w) :
    w.stance.Points settings := by
  have start : (World.initial policy settings draws).stance.Points settings :=
    ⟨run_tends (run_nil _), List.mem_cons_self, fun _ => trivial⟩
  exact run_keep Stance.Points.shift h start

/-- The watch serves a session whose process was neither told to stop nor its end received. -/
def KeepsSession (w : World) : Prop :=
  ∃ session, w.watch.phase = .serving session ∧ w.scene.Keeps session

/-- Where the watch is parked without a session that it keeps, DNS points at a plaintext nameserver. -/
theorem facesPlaintext_of_parked (bears : w.scene.Bears w.watch.phase.bearing)
    (parked : w.watch.phase.isParked = true) (left : ¬ w.KeepsSession) : w.scene.FacesPlaintext := by
  cases phase : w.watch.phase with
  | serving session =>
    rw [phase] at bears
    exact bears.2 fun keeps => left ⟨session, phase, keeps⟩
  | idle | pausing _ _ =>
    rw [phase] at bears
    exact bears
  | _ =>
    rw [phase] at parked
    cases parked

/--
While every settings value stored names a plaintext nameserver: wherever the watch is parked, the
warden's own lookups were pointed at the resolver last exactly if the watch serves a session whose
process was neither told to stop nor its end received.  Otherwise they were pointed at a plaintext
nameserver, and the system was pointed at the same address in either case.
-/
theorem dns_follows_session (h : (World.initial policy settings draws).run ms = some w)
    (known : w.scene.Known settings) (parked : w.watch.phase.isParked = true) :
    (w.scene.journal.internalTarget? = some (w.scene.policy.resolverAddress, .encrypted) ↔
        w.KeepsSession) ∧
      (¬ w.KeepsSession → ∃ ip, w.scene.journal.internalTarget? = some (ip, .plaintext)) ∧
      w.scene.journal.internalTarget?.isSome = true ∧
      w.scene.journal.systemTarget? = w.scene.journal.internalTarget?.map Prod.fst := by
  have bears := (run_points h).bears known
  change w.scene.Bears w.watch.phase.bearing at bears
  by_cases kept : w.KeepsSession
  · obtain ⟨session, serving, keeps⟩ := kept
    rw [serving] at bears
    obtain ⟨internal, system⟩ := bears.1 keeps
    have kept : w.KeepsSession := ⟨session, serving, keeps⟩
    refine ⟨iff_of_true internal kept, fun left => absurd kept left, ?_, ?_⟩
    · exact Option.isSome_of_mem internal
    · rw [show w.scene.journal.internalTarget? = _ from internal]
      exact system
  · obtain ⟨ip, internal, system⟩ := facesPlaintext_of_parked bears parked kept
    have internal : w.scene.journal.internalTarget? = some (ip, .plaintext) := internal
    refine ⟨iff_of_false ?_ kept, fun _ => ⟨ip, internal⟩, ?_, ?_⟩
    · rw [internal]
      simp
    · exact Option.isSome_of_mem internal
    · rw [internal]
      exact system

theorem dns_follows_first_session :
    ∃ w, wanted.run firstSession = some w ∧ w.watch.phase.isParked = true ∧ w.KeepsSession ∧
      w.scene.journal.systemTarget? = some w.scene.policy.resolverAddress := by
  have ran : ((wanted.run firstSession).any fun w => decide
      (w.scene.marks.stored = [] ∧ w.watch.phase.isParked = true ∧
        w.scene.journal.internalTarget? =
          some (w.scene.policy.resolverAddress, .encrypted))) = true := by
    decide
  obtain ⟨w, hw, ran⟩ := (Option.any_eq_true _ _).1 ran
  obtain ⟨stored, parked, internal⟩ := of_decide_eq_true ran
  have known : w.scene.Known { enabled := true, plaintextAddress := some .loopback } :=
    Scene.known_of_stored_nil stored rfl
  obtain ⟨resolver, -, -, system⟩ := dns_follows_session hw known parked
  rw [internal] at system
  exact ⟨w, hw, parked, resolver.1 internal, system⟩

end World

end DnsWarden
