import DnsWarden.Proofs.Cancellation
import DnsWarden.Proofs.Deals
import DnsWarden.Proofs.Parked

/-!
# Trails of attempts

What an attempt does depends on the settings that it finds: those stored when it begins for its
files, and those stored when the files are ready for the process and for DNS.  A `Deed` is what the
watch does when a wait of it ends, with the settings stored then, and a `Trail` is the deeds of an
attempt that has come so far.  `World.run_underWay` finds where the attempt in progress began, with
its trail from there.
-/

namespace DnsWarden

/-! ## Deeds -/

/-- What the watch does when a wait of it ends. -/
structure Deed where
  /-- What ended the wait. -/
  input : Input
  /-- The calls that it makes, the oldest first. -/
  calls : List Call
  /-- The settings that are stored. -/
  settings : Settings
deriving DecidableEq

namespace World

/-- The calls made from one world to the next, the oldest first. -/
def callsSince (v w : World) : List Call :=
  (v.scene.journal.calls.take (v.scene.journal.calls.length - w.scene.journal.calls.length)).reverse

/-- What the watch does with a move that leads to another world, if the move ends its wait. -/
def deed? (w v : World) : Move → Option Deed
  | .watch i => some ⟨i, v.callsSince w, w.scene.settings⟩
  | _ => none

/-- What the watch does in the course of the moves, the oldest first. -/
def deeds (w : World) : List Move → List Deed
  | [] => []
  | m :: ms => (w.step m).elim [] fun v => (w.deed? v m).toList ++ v.deeds ms

variable {w v x : World} {m : Move} {before : List Move}

theorem callsSince_eq {cs : List Call}
    (made : v.scene.journal.calls = cs.reverse ++ w.scene.journal.calls) :
    v.callsSince w = cs := by
  unfold callsSince
  rw [made]
  simp

theorem deeds_concat (hx : w.run before = some x) (hv : x.step m = some v) :
    w.deeds (before ++ [m]) = w.deeds before ++ (x.deed? v m).toList := by
  induction before generalizing w with
  | nil =>
    cases hx
    simp [deeds, hv]
  | cons k before ih =>
    obtain ⟨y, hy, hx⟩ := Option.bind_eq_some_iff.1 hx
    simp only [List.cons_append, deeds, hy, Option.elim_some, ih hx, List.append_assoc]

theorem deed?_of_other (other : m.isWatch = false) : w.deed? v m = none := by
  cases m <;> first | rfl | cases other

/-- What is done was done in a world on the way, with the settings that were stored there. -/
theorem settings_of_mem_deeds {d : Deed} (h : w.run before = some v) (done : d ∈ w.deeds before) :
    ∃ first rest y, before = first ++ rest ∧ w.run first = some y ∧
      y.scene.settings = d.settings := by
  induction before generalizing w with
  | nil => cases done
  | cons m before ih =>
    obtain ⟨x, hx, hv⟩ := Option.bind_eq_some_iff.1 h
    simp only [deeds, hx, Option.elim_some, List.mem_append] at done
    obtain here | later := done
    · refine ⟨[], m :: before, w, rfl, rfl, ?_⟩
      cases m with
      | watch i =>
        obtain rfl := List.mem_singleton.1 here
        rfl
      | _ => cases here
    · obtain ⟨first, rest, y, rfl, hy, same⟩ := ih hv later
      exact ⟨m :: first, rest, y, rfl, by rw [run_cons, hx]; exact hy, same⟩

end World

/-! ## The trail of an attempt -/

/-- What an attempt has done that has come so far, if it found the settings `found` when it began,
and points DNS at this resolver. -/
inductive Trail (found : Settings) (resolver : IpAddress) : Attempt → List Deed → Prop where
  | settingUp : Trail found resolver (.refreshing (.settingUp found)) []
  | building {l s} (h : Trail found resolver (.refreshing (.settingUp found)) l) :
    Trail found resolver (.refreshing (.building found))
      (l ++ [⟨.answer (.filesSetUp none), [.buildLists found.blocklistChoice], s⟩])
  | writing {l lists s} (h : Trail found resolver (.refreshing (.building found)) l) :
    Trail found resolver (.refreshing .writing)
      (l ++ [⟨.answer (.listsBuilt lists),
        [.writeConfig { found.resolver with blocklist := lists.blocklist }], s⟩])
  | starting {l pid s} (h : Trail found resolver (.refreshing .writing) l) :
    Trail found resolver (.starting pid s.keepNameserver)
      (l ++ [⟨.answer (.configWritten none), [.start s.resolver.detail], s⟩])
  | pointing {l pid keep s} (h : Trail found resolver (.starting pid keep) l) :
    Trail found resolver (.pointing pid)
      (l ++ [⟨.answer (.started none),
        [.pointInternally resolver .encrypted, .pointSystem resolver keep], s⟩])
  | probing {l pid deadline failure s} (h : Trail found resolver (.pointing pid) l) :
    Trail found resolver (.probing pid deadline)
      (l ++ [⟨.answer (.systemPointed failure), [.probe], s⟩])

namespace Trail

variable {found : Settings} {resolver : IpAddress} {l : List Deed}

/-- What an attempt has done that has come to its probe. -/
theorem of_probing {pid deadline : Nat} (h : Trail found resolver (.probing pid deadline) l) :
    ∃ lists failure s₁ s₂ s₃ s₄ s₅,
      l = [⟨.answer (.filesSetUp none), [.buildLists found.blocklistChoice], s₁⟩,
        ⟨.answer (.listsBuilt lists),
          [.writeConfig { found.resolver with blocklist := lists.blocklist }], s₂⟩,
        ⟨.answer (.configWritten none), [.start s₃.resolver.detail], s₃⟩,
        ⟨.answer (.started none),
          [.pointInternally resolver .encrypted, .pointSystem resolver s₃.keepNameserver], s₄⟩,
        ⟨.answer (.systemPointed failure), [.probe], s₅⟩] := by
  cases h with
  | probing h => cases h with
    | pointing h => cases h with
      | starting h => cases h with
        | writing h => cases h with
          | building h => cases h with
            | settingUp => exact ⟨_, _, _, _, _, _, _, rfl⟩

end Trail

/-! ## The steps of an attempt -/

/-- Whether the probe of an attempt has failed. -/
def Attempt.isClearing : Attempt → Bool
  | .clearing _ _ => true
  | _ => false

namespace Scene

theorem calls_tellAll (s : Scene) (ns : List Notice) :
    (s.tellAll ns).journal.calls = s.journal.calls := by
  induction ns generalizing s with
  | nil => rfl
  | cons n ns ih => exact ih (s.tell n)

theorem calls_systemPointed (s : Scene) (failure : Option NameserverFault) :
    (s.systemPointed failure).journal.calls = s.journal.calls := by
  cases failure <;> rfl

end Scene

namespace Attempt

variable {found : Settings} {a a' : Attempt} {i : Input} {s s' : Scene} {l : List Deed}

/-- A probe that has failed leads to no other wait of an attempt that goes on. -/
theorem probed_isClearing {pid : Nat} {failure : Option ProbeFault}
    (h : probed s pid failure = (s', .waiting a')) : a'.isClearing = true := by
  cases failure with
  | none => cases h
  | some f =>
    obtain ⟨t, clears⟩ := probed_failed h
    cases clears
    rfl

/-- With every step an attempt that goes on adds a deed to its trail. -/
theorem resume_trail (h : a.resume i s = some (s', .waiting a')) (goes : a'.isClearing = false)
    (trail : Trail found s.policy.resolverAddress a l) :
    ∃ calls, s'.journal.calls = calls.reverse ++ s.journal.calls ∧
      Trail found s.policy.resolverAddress a' (l ++ [⟨i, calls, s.settings⟩]) := by
  have fails : ∀ {pid failure}, probed s pid failure = (s', .waiting a') → False := fun h => by
    cases (probed_isClearing h).symm.trans goes
  generalize reaches : s.policy.resolverAddress = resolver at trail ⊢
  cases trail with
  | settingUp =>
    rcases i with _ | _ | _ | _ | (_ | f) | _ | _ | _ | _ | _ <;> cases h
    exact ⟨_, rfl, .building .settingUp⟩
  | building trail =>
    rcases i with _ | _ | _ | _ | _ | lists | _ | _ | _ | _ <;> cases h
    refine ⟨[.writeConfig { found.resolver with blocklist := lists.blocklist }], ?_,
      .writing (.building trail)⟩
    exact congrArg _ (Scene.calls_tellAll _ _)
  | writing trail =>
    rcases i with _ | _ | _ | _ | _ | _ | (_ | f) | _ | _ | _ <;> cases h
    exact ⟨_, rfl, .starting (.writing trail)⟩
  | starting trail =>
    rcases i with _ | _ | _ | _ | _ | _ | _ | (_ | f) | _ | _ <;> cases h
    exact ⟨_, by rw [← reaches]; rfl, .pointing (.starting trail)⟩
  | pointing trail =>
    rcases i with _ | _ | _ | _ | _ | _ | _ | _ | failure | _ <;> cases h
    refine ⟨[.probe], ?_, .probing (.pointing trail)⟩
    exact congrArg _ (Scene.calls_systemPointed _ _)
  | probing trail =>
    rcases i with _ | _ | _ | _ | _ | _ | _ | _ | _ | failure <;> try cases h
    · simp only [resume] at h
      split_ifs at h
      exact (fails (Option.some.inj h)).elim
    · exact (fails (Option.some.inj h)).elim

theorem resume_isClearing (h : a.resume i s = some (s', .waiting a')) (clears : a.isClearing = true) :
    a'.isClearing = true := by
  cases a with
  | clearing f t =>
    cases i with
    | ended =>
      obtain ⟨⟨s₁, t₁⟩, -, hn⟩ := Option.map_eq_some_iff.1 h
      cases t₁ <;> cases hn
      rfl
    | _ => cases h
  | _ => cases clears

/-- An attempt that goes on holds the start request that it held. -/
theorem resume_pending (h : a.resume i s = some (s', .waiting a')) (goes : a'.isClearing = false) :
    s'.pending = s.pending := by
  cases resume_stride (m := none) h with
  | refresh resumes | request resumes => exact (Refresh.resume_told resumes).pending
  | started => rfl
  | pointed failure => simp
  | probeFailed | clearAttempt => cases goes

end Attempt

/-- A watch that waits for a step of an attempt, and then for another one, has made that step. -/
theorem Watch.resume_attempting {w v : Watch} {i : Input} {a a' : Attempt}
    (attempts : w.phase = .attempting a) (h : w.resume i = some v) (goes : v.phase = .attempting a') :
    a.resume i w.scene = some (v.scene, .waiting a') := by
  obtain ⟨s, p, m⟩ := w
  obtain rfl : p = .attempting a := attempts
  obtain ⟨⟨s₁, n⟩, hn, hv⟩ := Option.map_eq_some_iff.1 h
  cases n with
  | waiting a₁ =>
    cases hv
    cases goes
    exact hn
  | ready pid =>
    cases hv
    cases goes
  | failed f =>
    cases hv
    simp only [failed, retreat, pause] at goes
    split_ifs at goes
    · split at goes <;> cases goes

/-! ## The beginning of an attempt -/

section

variable {x y : Stance} {a : Attempt}

/-- The watch comes to an attempt from the attempt itself, or begins it with the settings that it
finds. -/
theorem Stride.begins (h : Stride x y) (leads : y.stand = .waiting (.attempting a)) :
    (∃ a', x.stand = .waiting (.attempting a')) ∨
      a = .refreshing (.settingUp y.scene.settings) ∧
        y.scene.journal.attempts = x.scene.journal.attempts + 1 := by
  cases h with
  | attempt =>
    cases leads
    exact .inr ⟨rfl, List.count_cons_self⟩
  | refresh | request | started | pointed | probeFailed | clearAttempt => exact .inl ⟨_, rfl⟩
  | _ => cases leads

theorem Walk.begins (h : Walk x y) (onWay : x.stand.waits = false)
    (leads : y.stand = .waiting (.attempting a)) :
    a = .refreshing (.settingUp y.scene.settings) ∧
      y.scene.journal.attempts = x.scene.journal.attempts + 1 := by
  induction h with
  | wait => cases onWay
  | @go x z y _ first rest ih =>
    cases waits : z.stand.waits with
    | true =>
      obtain rfl := rest.eq_of_waits waits
      obtain ⟨a', was⟩ | begins := first.begins leads
      · rw [was] at onWay
        cases onWay
      · exact begins
    | false =>
      obtain same | ⟨-, -, -, waits', -⟩ := first.attempts
      · rw [← same]
        exact ih waits leads
      · cases waits.symm.trans waits'

/-- An attempt that is not gone on with between two waits is begun there. -/
theorem Tread.begins (h : Tread x y) (waits : x.stand.waits = true)
    (new : ∀ a', x.stand ≠ .waiting (.attempting a')) (leads : y.stand = .waiting (.attempting a)) :
    a = .refreshing (.settingUp y.scene.settings) ∧
      y.scene.journal.attempts = x.scene.journal.attempts + 1 := by
  obtain ⟨z, first, rest⟩ := h
  cases waits' : z.stand.waits with
  | true =>
    obtain rfl := rest.eq_of_waits waits'
    obtain ⟨a', was⟩ | begins := first.begins leads
    · exact absurd was (new a')
    · exact begins
  | false =>
    obtain same | ⟨was, -⟩ := first.attempts
    · rw [← same]
      exact rest.begins waits' leads
    · rw [was] at waits
      cases waits

theorem Shift.policy (h : Shift x y) : y.scene.policy = x.scene.policy := by
  cases h with
  | stride h =>
    obtain even | ⟨-, s, detail, even, asked⟩ := h.even
    · exact even.policy
    · rw [asked]
      exact even.policy
  | nudge h =>
    cases h with
    | told told => exact (Scene.Even.of_told told).policy
    | drift => exact (Scene.Even.of_handled (Scene.onProcess_handled _ _ _)).policy
    | refreshFailed | restarted | forsake =>
      exact (Scene.Even.of_same (by simp) (by simp)).policy
    | _ => rfl
  | drop => exact (Watch.drop_even _).policy

end

/-! ## Runs -/

namespace World

variable {w u v x : World} {m : Move} {ms : List Move}

theorem Sound.step_policy (sound : w.Sound) (h : w.step m = some v) :
    v.scene.policy = w.scene.policy :=
  (sound.passage h).keep (J := fun x => x.scene.policy = w.scene.policy)
    (fun _ _ shift same => shift.policy.trans same) rfl

/-- Of the moves `began ++ k :: course`, which lead from the world `w` to `u`, the move `k` is the
last with which an attempt began. -/
structure BeganWith (w : World) (began : List Move) (k : Move) (z : World) (course : List Move)
    (u : World) : Prop where
  began : ∃ y, w.run began = some y ∧ y.step k = some z ∧
    z.scene.journal.attempts = y.scene.journal.attempts + 1
  follows : z.run course = some u
  last : u.scene.journal.attempts = z.scene.journal.attempts

/-- The attempt that began with the move `k` has come so far. -/
structure UnderWay (w : World) (began : List Move) (k : Move) (z : World) (course : List Move)
    (u : World) (a : Attempt) : Prop extends w.BeganWith began k z course u where
  held : u.scene.pending = z.scene.pending
  trail : Trail z.scene.settings z.scene.policy.resolverAddress a (z.deeds course)
  policy : u.scene.policy = z.scene.policy

namespace UnderWay

variable {began course : List Move} {k : Move} {y z : World} {a a' : Attempt} {i : Input}

/-- Others leave the attempt where it is. -/
theorem beside (hx : w.UnderWay began k z course x a) (h : x.step m = some y) (sound : x.Sound)
    (other : m.isWatch = false) : w.UnderWay began k z (course ++ [m]) y a where
  began := hx.began
  follows := run_concat hx.follows h
  last := by
    refine (step_nudges h other sound).keep
      (J := fun s => s.scene.journal.attempts = z.scene.journal.attempts)
      (fun _ _ goes same => ?_) hx.last
    exact (Scene.attempts_of_cadence goes.cadence).trans same
  held := (step_nudges h other sound).keep (J := fun s => s.scene.pending = z.scene.pending)
    (fun _ _ goes same => goes.pending.trans same) hx.held
  trail := by
    rw [deeds_concat hx.follows h, deed?_of_other other]
    exact (List.append_nil _).symm ▸ hx.trail
  policy := (sound.step_policy h).trans hx.policy

/-- A step of the attempt adds its deed to the trail. -/
theorem step (hx : w.UnderWay began k z course x a) (h : x.step (.watch i) = some y) (sound : x.Sound)
    (goes : a.resume i x.scene = some (y.scene, .waiting a')) (unfailed : a'.isClearing = false) :
    w.UnderWay began k z (course ++ [.watch i]) y a' where
  began := hx.began
  follows := run_concat hx.follows h
  last := by
    obtain same | ⟨waits, -⟩ := (Attempt.resume_stride (m := none) goes).attempts
    · exact same.trans hx.last
    · cases waits
  held := (Attempt.resume_pending goes unfailed).trans hx.held
  trail := by
    obtain ⟨calls, made, trail⟩ := Attempt.resume_trail goes unfailed (hx.policy ▸ hx.trail)
    rw [deeds_concat hx.follows h, ← hx.policy]
    simpa only [deed?, callsSince_eq made, Option.toList_some] using trail
  policy := (sound.step_policy h).trans hx.policy

end UnderWay

/-- An attempt in progress that has not failed began in the course of the moves, or the start
request that is held was held before them. -/
theorem run_underWay {a : Attempt} (sound : w.Sound) (h : w.run ms = some u)
    (attempts : u.watch.phase = .attempting a) (unfailed : a.isClearing = false) :
    (∃ began k z course, ms = began ++ k :: course ∧ w.UnderWay began k z course u a) ∨
      u.scene.pending = w.scene.pending := by
  refine run_history (J := fun ms u => ∀ a, u.watch.phase = .attempting a → a.isClearing = false →
    (∃ began k z course, ms = began ++ k :: course ∧ w.UnderWay began k z course u a) ∨
      u.scene.pending = w.scene.pending) h (fun _ _ _ => .inr rfl) ?_ a attempts unfailed
  intro before m x y hx hy found a attempts unfailed
  have sound : x.Sound := sound.of_run hx
  cases own : m.isWatch with
  | false =>
    have nudges := step_nudges hy own sound
    have same : y.watch.phase = x.watch.phase := Stand.waiting.inj nudges.stand
    obtain ⟨began, k, z, course, rfl, here⟩ | held := found a (same ▸ attempts) unfailed
    · exact .inl ⟨began, k, z, course ++ [m], by simp, here.beside hy sound own⟩
    · exact .inr (nudges.keep (J := fun s => s.scene.pending = w.scene.pending)
        (fun _ _ goes same => goes.pending.trans same) held)
  | true =>
    obtain tread | dropped := step_watch hy own
    · by_cases was : ∃ a', x.watch.phase = .attempting a'
      · -- The attempt was in progress, so that the move is a step of it.
        obtain ⟨a', was⟩ := was
        obtain ⟨unborn, -⟩ | ⟨i, rfl, resumes⟩ | dropped := step_own hy own
        · cases was.symm.trans unborn
        · have step := Watch.resume_attempting was resumes attempts
          have unfailed' : a'.isClearing = false := eq_false_of_ne_true fun clears => by
            cases (Attempt.resume_isClearing step clears).symm.trans unfailed
          obtain ⟨began, k, z, course, rfl, here⟩ | held := found a' was unfailed'
          · exact .inl ⟨began, k, z, course ++ [.watch i], by simp, here.step hy sound step unfailed⟩
          · exact .inr ((Attempt.resume_pending step unfailed).trans held)
        · rw [dropped] at attempts
          cases attempts
      · have new : ∀ a', x.stance.stand ≠ .waiting (.attempting a') := fun a' waits =>
          was ⟨a', Stand.waiting.inj waits⟩
        obtain ⟨rfl, more⟩ := tread.begins rfl new (congrArg Stand.waiting attempts)
        exact .inl ⟨before, m, y, [], rfl, ⟨⟨x, hx, hy, more⟩, rfl, rfl⟩, rfl, .settingUp, rfl⟩
    · rw [dropped] at attempts
      cases attempts

end World

end DnsWarden
