import DnsWarden.Proofs.Turns

/-!
# Histories

Some statements are about an earlier move of a run: about where an attempt began, or where it was
found that no resolver is wanted.  `World.run_history` proves such statements by the moves made
before.  Each of them is either the watch's own, a tread unless the watch is dropped, or it is one
of others, who only nudge the watch: `World.step_watch` and `World.step_nudges`.
-/

namespace DnsWarden

/-- What every nudge keeps, several nudges keep. -/
theorem Nudges.keep {J : Stance → Prop} {x y : Stance} (h : Nudges x y)
    (step : ∀ x y, Nudge x y → J x → J y) (hx : J x) : J y := by
  induction h with
  | refl => exact hx
  | tail _ last ih => exact step _ _ last ih

/-- Whether a move is one of the watch. -/
def Move.isWatch : Move → Bool
  | .run | .watch _ | .dropWatch => true
  | _ => false

namespace Warden

variable {o v : Warden}

/-- What the refresher does is a nudge to the watch. -/
theorem resume_nudges {i : RefresherInput} (h : o.resume i = some v)
    (late : o.isRefreshing = true → o.stance.stand.isEarly = false) : Nudges o.stance v.stance := by
  unfold resume at h
  split at h
  · split_ifs at h
    cases h
    exact o.restart_beside.murmurs.nudges
  · split_ifs at h
    cases h
    exact (scheduled_beside { o with periodChanged := false } _ _).murmurs.nudges
  next s r a refreshing =>
    obtain ⟨⟨c, n⟩, hr, hv⟩ := Option.map_eq_some_iff.1 h
    have late := late (by simp [isRefreshing, refreshing])
    have told : Murmurs o.stance (o.update fun _ => c).stance := (Refresh.resume_told hr).murmurs
    cases n with
    | waiting r =>
      cases hv
      exact told.nudges
    | done failure =>
      cases hv
      have beside := refreshed_beside (o.update fun _ => c) s failure late
      exact told.nudges.trans beside.murmurs.nudges
  · obtain ⟨⟨d, n⟩, hd, hv⟩ := Option.map_eq_some_iff.1 h
    have nudges := Desk.step_nudges hd
    cases n with
    | waiting a =>
      cases hv
      exact nudges
    | done result =>
      cases hv
      exact nudges.trans (stopped_beside { o with desk := d } _ result).murmurs.nudges
  · obtain ⟨⟨d, n⟩, hd, hv⟩ := Option.map_eq_some_iff.1 h
    have nudges := Desk.step_nudges hd
    cases n with
    | waiting a =>
      cases hv
      exact nudges
    | done result =>
      cases hv
      exact nudges.trans (started_beside { o with desk := d } _ result).murmurs.nudges
  · split_ifs at h
    cases h
    exact o.abandon_nudges
  · cases h

end Warden

namespace World

variable {w v : World} {m : Move}

theorem ask_nudges {id : Nat} {desired : Status} {a : Ask} {waiting : Ask → Caller}
    {done : Except CallFault StatusOutcome → Caller} (h : w.ask id desired a waiting done = some v) :
    Nudges w.stance v.stance := by
  obtain ⟨⟨d, n⟩, hd, hv⟩ := Option.map_eq_some_iff.1 h
  have nudges := Desk.step_nudges hd
  cases n <;> cases hv <;> exact nudges

theorem caller_nudges {id : Nat} (h : w.caller? id = some v) : Nudges w.stance v.stance := by
  unfold caller? at h
  split at h
  · exact ask_nudges h
  · cases h
    exact .single .replace
  · cases h
    unfold compare
    split_ifs <;> exact .refl
  · exact ask_nudges h
  · exact ask_nudges h
  · cases h

/-- Moves of others only nudge the watch. -/
theorem step_nudges (h : w.step m = some v) (other : m.isWatch = false) (sound : w.Sound) :
    Nudges w.stance v.stance := by
  cases m with
  | run | watch _ | dropWatch => cases other
  | cancelRefresher | arrive _ =>
    cases h
    exact .refl
  | cancelWatch =>
    cases h
    exact .single .cancel
  | pass _ =>
    cases h
    exact .single .pass
  | beginRefresher =>
    simp only [step] at h
    split_ifs at h
    cases h
    exact (w.warden.scheduled_beside _ _).murmurs.nudges
  | refresher i =>
    obtain ⟨o, ho, rfl⟩ := Option.map_eq_some_iff.1 h
    exact Warden.resume_nudges ho sound.late
  | dropRefresher =>
    simp only [step] at h
    split_ifs at h
    cases h
    exact w.warden.abandon_nudges
  | caller id => exact caller_nudges h
  | leave id => exact leave_nudges h
  | exit pid note =>
    obtain ⟨s, hs, rfl⟩ := Option.map_eq_some_iff.1 h
    obtain ⟨p, found, hp⟩ := Option.bind_eq_some_iff.1 hs
    split_ifs at hp with up
    cases hp
    exact (Scene.drift_murmurs found (.exit (of_decide_eq_true up))).nudges
  | print pid stream line =>
    obtain ⟨s, hs, rfl⟩ := Option.map_eq_some_iff.1 h
    obtain ⟨p, found, hp⟩ := Option.bind_eq_some_iff.1 hs
    obtain ⟨c, hc, rfl⟩ := Option.map_eq_some_iff.1 hp
    exact (Scene.drift_murmurs found (.print hc)).nudges
  | hangUp pid stream =>
    cases h
    exact (w.scene.hangUp_murmurs pid stream).nudges
  | collect pid n =>
    obtain ⟨s, hs, rfl⟩ := Option.map_eq_some_iff.1 h
    obtain ⟨p, found, hp⟩ := Option.bind_eq_some_iff.1 hs
    obtain ⟨⟨c, told⟩, hc, rfl⟩ := Option.map_eq_some_iff.1 hp
    have first : Nudges w.stance
        (w.update (·.onProcess pid fun p => { p with collector := c })).stance :=
      (Scene.drift_murmurs found (.collect hc)).nudges
    cases told with
    | none => exact first
    | some t => exact first.tail (.told (Scene.record_told _ rfl))

/-- With a move of its own the watch begins, goes on with what ended its wait, or is dropped. -/
theorem step_own (h : w.step m = some v) (own : m.isWatch = true) :
    (w.watch.phase = .unborn ∧ v.watch = w.watch.begin) ∨
      (∃ i, m = .watch i ∧ w.watch.resume i = some v.watch) ∨ v.watch = w.watch.drop := by
  cases m with
  | run =>
    simp only [step] at h
    split_ifs at h with unborn
    cases h
    exact .inl ⟨unborn, rfl⟩
  | watch i =>
    obtain ⟨x, hx, rfl⟩ := Option.map_eq_some_iff.1 h
    exact .inr (.inl ⟨i, rfl, hx⟩)
  | dropWatch =>
    simp only [step] at h
    split_ifs at h
    cases h
    exact .inr (.inr rfl)
  | _ => cases own

/-- A move of the watch is a tread, unless the watch is dropped. -/
theorem step_watch (h : w.step m = some v) (own : m.isWatch = true) :
    Tread w.stance v.stance ∨ v.watch = w.watch.drop := by
  unfold stance
  obtain ⟨unborn, begun⟩ | ⟨i, -, goes⟩ | dropped := step_own h own
  · exact .inl (begun ▸ Watch.begin_tread unborn)
  · exact .inl (Watch.resume_tread goes)
  · exact .inr dropped

/-- A run goes on with one more move. -/
theorem run_concat {w x : World} {before : List Move} (hx : w.run before = some x)
    (hy : x.step m = some v) : w.run (before ++ [m]) = some v := by
  rw [run_append, hx]
  simp [run_cons, hy]

theorem Sound.of_run {ms : List Move} (sound : w.Sound) (h : w.run ms = some v) : v.Sound :=
  (sound.run (J := fun _ => True) (fun _ _ _ hx => hx) h trivial).1

/-- What is true of no moves and their beginning, and stays so with every move that follows, is true
of the moves of a run and its end. -/
theorem run_history {J : List Move → World → Prop} {ms : List Move} (h : w.run ms = some v)
    (start : J [] w)
    (onward : ∀ before m x y, w.run before = some x → x.step m = some y → J before x →
      J (before ++ [m]) y) : J ms v := by
  have rest : ∀ (ms before : List Move) (x : World), w.run before = some x → J before x →
      x.run ms = some v → J (before ++ ms) v := by
    intro ms
    induction ms with
    | nil =>
      rintro before x - here hv
      cases hv
      rw [List.append_nil]
      exact here
    | cons m ms ih =>
      intro before x hx here hv
      obtain ⟨y, hy, hv⟩ := Option.bind_eq_some_iff.1 hv
      rw [List.append_cons]
      exact ih (before ++ [m]) y (run_concat hx hy) (onward before m x y hx hy here) hv
  exact rest ms [] w rfl start h

/-- What is not true at first, and is true at the end, has become so with one of the moves. -/
theorem run_first {P : World → Prop} {ms : List Move} (h : w.run ms = some v) (start : ¬ P w)
    (here : P v) :
    ∃ first m rest x y, ms = first ++ m :: rest ∧ w.run first = some x ∧ x.step m = some y ∧
      y.run rest = some v ∧ ¬ P x ∧ P y := by
  induction ms generalizing w with
  | nil =>
    cases h
    exact absurd here start
  | cons m ms ih =>
    obtain ⟨y, hy, hv⟩ := Option.bind_eq_some_iff.1 h
    by_cases now : P y
    · exact ⟨[], m, ms, w, y, rfl, rfl, hy, hv, start, now⟩
    · obtain ⟨first, k, rest, x, z, rfl, hx, hz, hv, before, after⟩ := ih hv now
      exact ⟨m :: first, k, rest, x, z, rfl, by rw [run_cons, hy]; exact hx, hz, hv, before, after⟩

end World

end DnsWarden
