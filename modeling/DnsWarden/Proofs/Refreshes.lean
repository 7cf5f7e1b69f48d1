import DnsWarden.Proofs.OneAttempt

/-!
# The course of a refresh

A refresh sets up the cryptographic files, has the blocklists built and writes the configuration, while
others may do anything to the scene.  `Refresh.Course` lists the answers that it was given and the events
that it has recorded so far, and `Refresh.Stands` says what these are at each wait.  The main statement,
`Refresh.writes_built_lists`, says what they are at the end: the configuration was written once, with the
lists that were built in place of the old ones, unless the cryptographic files could not be set up.
-/

namespace DnsWarden

/-- The warning that an event is, if it is one. -/
def Event.warning? : Event → Option Notice
  | .notice n => if n.level = .warn then some n else none
  | _ => none

/-! ## Recording events -/

namespace Scene

/-- The scene with these events recorded, in their order, and nothing else changed. -/
def recordAll (s : Scene) (es : List Event) : Scene :=
  { s with journal := (es.map (Entry.mk s.now)).reverse ++ s.journal }

theorem recordAll_append (s : Scene) (es fs : List Event) :
    s.recordAll (es ++ fs) = (s.recordAll es).recordAll fs := by
  simp [recordAll]

theorem tellAll_eq (s : Scene) (ns : List Notice) : s.tellAll ns = s.recordAll (ns.map .notice) := by
  induction ns generalizing s with
  | nil => rfl
  | cons n ns ih => exact (ih (s.tell n)).trans (s.recordAll_append [.notice n] (ns.map .notice)).symm

theorem recordAll_injective (s : Scene) : Function.Injective s.recordAll := by
  intro es fs same
  have entries : (es.map (Entry.mk s.now)).reverse = (fs.map (Entry.mk s.now)).reverse :=
    List.append_cancel_right (congrArg journal same)
  have once : Function.Injective (Entry.mk s.now) := fun e f h => (Entry.mk.inj h).2
  exact List.map_injective_iff.2 once (List.reverse_injective entries)

end Scene

namespace Refresh

/-- What a refresh that began on the scene `s` has come to by these answers, with the events that it has
recorded, the oldest first.  Each answer may find it on any scene, whatever others have done meanwhile. -/
inductive Course (s : Scene) : List Answer → List Event → Next → Prop where
  | begin {es} (log : (begin s).1 = s.recordAll es) : Course s [] es (.waiting (begin s).2)
  | resume {as es r a x more n} (h : Course s as es (.waiting r))
    (goes : r.resume a x = some (x.recordAll more, n)) : Course s (as ++ [a]) (es ++ more) n

/-! ## Steps -/

/-- What a refresh records at first. -/
def askingKeys : List Event := [.notice .fetchingKeys, .call .setUpFiles]

/-- What a refresh records once the cryptographic files are set up. -/
def askingLists (settings : Settings) : List Event :=
  [.notice .fetchingLists, .call (.buildLists settings.blocklistChoice)]

/-- What a refresh records once the blocklists are built. -/
def askingConfig (settings : Settings) (lists : BuiltLists) : List Event :=
  lists.failures.map (fun f => .notice (.sourceFailed f)) ++
    [.call (.writeConfig { settings.resolver with blocklist := lists.blocklist })]

/-- What an answer makes of a refresh, and what is recorded then. -/
inductive Step : Refresh → Answer → List Event → Next → Prop where
  | refused {settings} (f : WriterFault) :
    Step (.settingUp settings) (.filesSetUp (some f)) [] (.done (some (.setUp f)))
  | setUp {settings} : Step (.settingUp settings) (.filesSetUp none) (askingLists settings)
      (.waiting (.building settings))
  | built {settings} (lists : BuiltLists) : Step (.building settings) (.listsBuilt lists)
      (askingConfig settings lists) (.waiting .writing)
  | written (failure : Option WriterFault) :
    Step .writing (.configWritten failure) [] (.done (failure.map .write))

variable {s x y : Scene} {r : Refresh} {a : Answer} {n : Next} {as : List Answer} {es : List Event}

theorem tellAll_call (x : Scene) (settings : Settings) (lists : BuiltLists) :
    (x.tellAll (lists.failures.map .sourceFailed)).call (.writeConfig (configured settings lists)) =
      x.recordAll (askingConfig settings lists) := by
  rw [Scene.tellAll_eq, List.map_map, askingConfig, Scene.recordAll_append]
  rfl

/-- A step depends on no scene, and changes nothing of the scene but the journal. -/
theorem resume_iff : r.resume a x = some (y, n) ↔ ∃ more, y = x.recordAll more ∧ Step r a more n := by
  constructor
  · intro goes
    unfold resume at goes
    split at goes <;> cases goes
    · exact ⟨[], rfl, .refused _⟩
    · exact ⟨_, rfl, .setUp⟩
    · exact ⟨_, tellAll_call _ _ _, .built _⟩
    · exact ⟨[], rfl, .written _⟩
  · rintro ⟨more, rfl, step⟩
    cases step with
    | built => exact congrArg (fun y => some (y, Next.waiting .writing)) (tellAll_call _ _ _)
    | refused | setUp | written => rfl

theorem begin_eq (s : Scene) : begin s = (s.recordAll askingKeys, .settingUp s.settings) := rfl

theorem Course.step {more : List Event} (h : Course s as es (.waiting r)) (step : Step r a more n) :
    Course s (as ++ [a]) (es ++ more) n :=
  .resume (x := s) h (resume_iff.2 ⟨more, rfl, step⟩)

/-! ## Whole courses -/

/-- What a refresh that began on the scene `s` was answered and has recorded, by what it waits for. -/
def Stands (s : Scene) (as : List Answer) (es : List Event) : Next → Prop
  | .waiting (.settingUp found) => found = s.settings ∧ as = [] ∧ es = askingKeys
  | .waiting (.building found) =>
    found = s.settings ∧ as = [.filesSetUp none] ∧ es = askingKeys ++ askingLists s.settings
  | .waiting .writing => ∃ lists, as = [.filesSetUp none, .listsBuilt lists] ∧
      es = askingKeys ++ askingLists s.settings ++ askingConfig s.settings lists
  | .done failure =>
    (∃ f, as = [.filesSetUp (some f)] ∧ es = askingKeys ∧ failure = some (.setUp f)) ∨
      ∃ lists result, as = [.filesSetUp none, .listsBuilt lists, .configWritten result] ∧
        es = askingKeys ++ askingLists s.settings ++ askingConfig s.settings lists ∧
        failure = result.map .write

theorem Stands.step {more : List Event} (h : Stands s as es (.waiting r)) (step : Step r a more n) :
    Stands s (as ++ [a]) (es ++ more) n := by
  cases step with
  | refused =>
    obtain ⟨-, rfl, rfl⟩ := h
    exact .inl ⟨_, rfl, rfl, rfl⟩
  | setUp =>
    obtain ⟨rfl, rfl, rfl⟩ := h
    exact ⟨rfl, rfl, rfl⟩
  | built =>
    obtain ⟨rfl, rfl, rfl⟩ := h
    exact ⟨_, rfl, rfl⟩
  | written =>
    obtain ⟨lists, rfl, rfl⟩ := h
    exact .inr ⟨lists, _, rfl, List.append_nil _, rfl⟩

theorem Course.stands (h : Course s as es n) : Stands s as es n := by
  induction h with
  | begin log => exact ⟨rfl, rfl, s.recordAll_injective (log.symm.trans (congrArg Prod.fst (begin_eq s)))⟩
  | @resume as es r a x more n _ goes ih =>
    obtain ⟨more', same, step⟩ := resume_iff.1 goes
    obtain rfl := x.recordAll_injective same
    exact ih.step step

/-- Whatever has been built can be brought to its end by any outcome of the write. -/
theorem course_writing (s : Scene) (lists : BuiltLists) :
    Course s [.filesSetUp none, .listsBuilt lists]
      (askingKeys ++ askingLists s.settings ++ askingConfig s.settings lists) (.waiting .writing) :=
  ((Course.begin rfl).step .setUp).step (.built lists)

theorem Stands.course (h : Stands s as es n) : Course s as es n := by
  have opened : Course s [] askingKeys (.waiting (.settingUp s.settings)) := .begin rfl
  match n with
  | .waiting (.settingUp found) =>
    obtain ⟨rfl, rfl, rfl⟩ := h
    exact opened
  | .waiting (.building found) =>
    obtain ⟨rfl, rfl, rfl⟩ := h
    exact opened.step .setUp
  | .waiting .writing =>
    obtain ⟨lists, rfl, rfl⟩ := h
    exact course_writing s lists
  | .done failure =>
    obtain ⟨f, rfl, rfl, rfl⟩ | ⟨lists, result, rfl, rfl, rfl⟩ := h
    · exact opened.step (.refused f)
    · have ends := (course_writing s lists).step (.written result)
      rwa [List.append_nil] at ends

/-- These answers and events are the beginning of a course that has ended. -/
def Ends (s : Scene) (as : List Answer) (es : List Event) : Prop :=
  ∃ as' es' failure, Course s (as ++ as') (es ++ es') (.done failure)

theorem Ends.of_step {more : List Event} (h : Ends s (as ++ [a]) (es ++ more)) : Ends s as es := by
  obtain ⟨as', es', failure, course⟩ := h
  rw [List.append_assoc, List.append_assoc] at course
  exact ⟨_, _, failure, course⟩

/-- Whatever a course has come to, it can be brought to its end. -/
theorem Course.ends (h : Course s as es n) : Ends s as es := by
  have fromWriting {as es} (h : Course s as es (.waiting .writing)) : Ends s as es :=
    ⟨_, _, _, h.step (.written none)⟩
  have fromBuilding {as es found} (h : Course s as es (.waiting (.building found))) : Ends s as es :=
    (fromWriting (h.step (.built {}))).of_step
  match n with
  | .waiting (.settingUp _) => exact (fromBuilding (h.step .setUp)).of_step
  | .waiting (.building _) => exact fromBuilding h
  | .waiting .writing => exact fromWriting h
  | .done failure =>
    refine ⟨[], [], failure, ?_⟩
    simpa only [List.append_nil] using h

theorem warnings_askingConfig (settings : Settings) (lists : BuiltLists) :
    (askingConfig settings lists).filterMap Event.warning? = lists.failures.map .sourceFailed := by
  rw [askingConfig, List.filterMap_append, List.filterMap_map]
  exact (List.append_nil _).trans (congrFun (List.filterMap_eq_map (f := Notice.sourceFailed)) _)

/-- A refresh writes the configuration only after the cryptographic files were set up and the lists of
these settings were built, then once, and with the lists that were built in place of the old ones; it tells
each source that failed once and in order, and no other warning; it fails just where one of the two calls
that can fail did, and says which.  Any answer to its call lets it go on, it changes nothing but the
journal, and what it has done when it is dropped is the beginning of such a course. -/
theorem writes_built_lists (s : Scene) :
    (∀ as es failure, Course s as es (.done failure) ↔
      (∃ f, as = [.filesSetUp (some f)] ∧ es = [.notice .fetchingKeys, .call .setUpFiles] ∧
        failure = some (.setUp f)) ∨
      ∃ lists result, as = [.filesSetUp none, .listsBuilt lists, .configWritten result] ∧
        es = [.notice .fetchingKeys, .call .setUpFiles, .notice .fetchingLists,
            .call (.buildLists s.settings.blocklistChoice)] ++
          lists.failures.map (fun f => .notice (.sourceFailed f)) ++
          [.call (.writeConfig { s.settings.resolver with blocklist := lists.blocklist })] ∧
        es.filterMap Event.warning? = lists.failures.map .sourceFailed ∧ failure = result.map .write) ∧
    (∀ as es n, Course s as es n →
      ∃ as' es' failure, Course s (as ++ as') (es ++ es') (.done failure)) ∧
    (∀ r a x, a.query = r.query → (resume r a x).isSome = true) ∧
    (∃ es, (begin s).1 = s.recordAll es) ∧
    ∀ r a x y n, resume r a x = some (y, n) → ∃ more, y = x.recordAll more := by
  refine ⟨fun as es failure => ⟨fun h => ?_, fun h => ?_⟩, fun as es n => Course.ends, ?_,
    ⟨askingKeys, rfl⟩, ?_⟩
  · obtain h | ⟨lists, result, rfl, rfl, rfl⟩ := h.stands
    · exact .inl h
    · refine .inr ⟨lists, result, rfl, by simp [askingKeys, askingLists, askingConfig], ?_, rfl⟩
      exact warnings_askingConfig s.settings lists
  · obtain h | ⟨lists, result, rfl, rfl, -, rfl⟩ := h
    · exact Stands.course (.inl h)
    · exact Stands.course (.inr ⟨lists, result, rfl, by simp [askingKeys, askingLists, askingConfig], rfl⟩)
  · intro r a x asked
    have waits : (Attempt.refreshing r).query? = some a.query := congrArg some asked.symm
    have goes := Attempt.resume_answer waits x
    exact (Option.isSome_map ..).symm.trans goes
  · intro r a x y n goes
    obtain ⟨more, rfl, -⟩ := resume_iff.1 goes
    exact ⟨more, rfl⟩

/-- Settings with a blocklist of an earlier refresh, and a hostname to be added to the next one. -/
def outdated : Settings :=
  { blocklistChoice := { addedHosts := ["new"] }
    resolver := { caching := false, blocklist := { hostnames := ["old", "older"] } } }

/-- Lists of which two sources failed. -/
def partialLists : BuiltLists :=
  { blocklist := { hostnames := ["new"] }
    failures := [.other (.root "first source"), .other (.root "second source")] }

/-- Two sources fail, and the write does too: what was written has the new list alone. -/
theorem outdated_blocklist_replaced :
    ∃ es, Course (.initial {} outdated fun _ => 0) [.filesSetUp none, .listsBuilt partialLists,
        .configWritten (some (.other (.root "full")))] es (.done (some (.write (.other (.root "full"))))) ∧
      es.filterMap Event.call? = [.setUpFiles, .buildLists { addedHosts := ["new"] },
        .writeConfig { caching := false, blocklist := { hostnames := ["new"] } }] ∧
      es.filterMap Event.warning? = [.sourceFailed (.other (.root "first source")),
        .sourceFailed (.other (.root "second source"))] :=
  ⟨_, ((writes_built_lists _).1 _ _ _).2 (.inr ⟨partialLists, some (.other (.root "full")), rfl, rfl,
    by decide, rfl⟩), by decide, by decide⟩

end Refresh

/-! ## The refresh of an attempt -/

namespace Attempt

/-- An attempt that began on the scene `s` was given these inputs by a refresh of the settings there, and
others since, if it has ended. -/
def Refreshes (s : Scene) (is : List Input) (n : Refresh.Next) (others : List Input) : Prop :=
  ∃ u as es, u.settings = s.settings ∧ is = as.map .answer ++ others ∧ Refresh.Course u as es n

/-- How the refresh of an attempt has gone. -/
def Refreshed (s : Scene) (is : List Input) : Next → Prop
  | .waiting (.refreshing r) => Refreshes s is (.waiting r) []
  | .failed (.refresh f) => Refreshes s is (.done (some f)) []
  | _ => ∃ others, Refreshes s is (.done none) others

variable {s t u : Scene} {is others : List Input} {n : Next}

theorem Refreshes.resume {r : Refresh} {x : Answer} {m : Refresh.Next}
    (h : Refreshes s is (.waiting r) []) (goes : r.resume x t = some (u, m)) :
    Refreshes s (is ++ [.answer x]) m [] := by
  obtain ⟨o, as, es, same, rfl, course⟩ := h
  obtain ⟨more, -, step⟩ := Refresh.resume_iff.1 goes
  exact ⟨o, as ++ [x], es ++ more, same, by simp, course.step step⟩

theorem Refreshes.later {m : Refresh.Next} (h : Refreshes s is m others) (i : Input) :
    Refreshes s (is ++ [i]) m (others ++ [i]) := by
  obtain ⟨o, as, es, same, rfl, course⟩ := h
  exact ⟨o, as, es, same, List.append_assoc .., course⟩

theorem Refreshed.resume {a : Attempt} {i : Input} {x : Scene × Next}
    (h : Refreshed s is (.waiting a)) (step : Resumes t a i x) : Refreshed s (is ++ [i]) x.2 := by
  cases step with
  | refreshing goes => exact Refreshes.resume h goes
  | @refreshed r x u failure goes =>
    cases failure with
    | some f => exact Refreshes.resume h goes
    | none => exact ⟨[], Refreshes.resume h goes⟩
  | @started pid keep failure =>
    obtain ⟨others, h⟩ := h
    cases failure <;> exact ⟨_, h.later _⟩
  | pointed =>
    obtain ⟨others, h⟩ := h
    exact ⟨_, h.later _⟩
  | @probed pid deadline i failure =>
    obtain ⟨others, h⟩ := h
    cases failure with
    | none => exact ⟨_, h.later _⟩
    | some f =>
      dsimp only [probed]
      split <;> exact ⟨_, h.later _⟩
  | clearing goes =>
    obtain ⟨others, h⟩ := h
    exact ⟨_, h.later _⟩
  | cleared goes =>
    obtain ⟨others, h⟩ := h
    exact ⟨_, h.later _⟩

/-- No attempt gets past its refresh unless this succeeded, and it reports a refresh's failure as such. -/
theorem Course.refreshed (h : Course s is t n) : Refreshed s is n := by
  induction h with
  | begin =>
    let u := (s.tally fun t => { t with attempts := t.attempts + 1 }).record .attemptBegan
    exact ⟨u, [], Refresh.askingKeys, rfl, rfl, .begin rfl⟩
  | meanwhile _ _ _ ih => exact ih
  | resume _ goes ih => exact ih.resume (resumes goes)

end Attempt

end DnsWarden
