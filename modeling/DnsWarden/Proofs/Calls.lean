import DnsWarden.Proofs.Stopping

/-!
# The ends of calls

What a caller is told at the end of its call, it was told at the desk, and a client that is told there
that all is well leaves the watch as it is.  `World.throughout` says of a run from some world on that
something is true all along it.
-/

namespace DnsWarden

instance decidableEqExcept {ε α : Type} [DecidableEq ε] [DecidableEq α] : DecidableEq (Except ε α)
  | .ok a, .ok b => decidable_of_iff (a = b) (by simp only [Except.ok.injEq])
  | .error a, .error b => decidable_of_iff (a = b) (by simp only [Except.error.injEq])
  | .ok _, .error _ => isFalse (by rintro ⟨⟩)
  | .error _, .ok _ => isFalse (by rintro ⟨⟩)

deriving instance DecidableEq for Outcome
deriving instance DecidableEq for Caller

/-- Whether a call is over. -/
def Caller.isOver : Caller → Bool
  | .done _ | .gone => true
  | _ => false

theorem Desk.step_ok_watch {d d' : Desk} {c : Client} {desired : Status} {a : Ask} {o : StatusOutcome}
    (h : d.step c desired a = some (d', .done (.ok o))) : d'.watch = d.watch := by
  cases a with
  | arriving => cases h
  | queued =>
    simp only [step] at h
    split_ifs at h
    cases h
  | reading =>
    simp only [step, Option.some.injEq, decide] at h
    cases desired with
    | running | stopped =>
      dsimp only at h
      split_ifs at h <;> cases h
      rfl
    | crashed => cases h
  | sending r =>
    simp only [step] at h
    split_ifs at h <;> cases h
  | awaiting t =>
    simp only [step] at h
    split at h <;> cases h
    rfl

namespace World

variable {w v u : World} {id : Nat}

theorem getElem?_setCaller {old : Caller} (found : w.callers[id]? = some old)
    (same : u.callers = w.callers) (new : Caller) : (u.setCaller id new).callers[id]? = some new := by
  have lt : id < u.callers.length := by
    rw [same]
    exact (List.getElem?_eq_some_iff.1 found).1
  exact List.getElem?_set_self lt

/-- A call that ends at the desk ends with the result of the change of status. -/
theorem ask_ends {old : Caller} {desired : Status} {a : Ask} {waiting : Ask → Caller}
    {done : Except CallFault StatusOutcome → Caller} (found : w.callers[id]? = some old)
    (h : w.ask id desired a waiting done = some v) {o : Outcome}
    (ended : v.callers[id]? = some (.done o)) (onward : ∀ a, waiting a ≠ .done o) :
    ∃ result, w.warden.desk.step (.caller id) desired a = some (v.warden.desk, .done result) ∧
      done result = .done o := by
  have lt : id < w.callers.length := (List.getElem?_eq_some_iff.1 found).1
  obtain ⟨⟨d, n⟩, step, hv⟩ := Option.map_eq_some_iff.1 h
  cases n with
  | waiting a' =>
    cases hv
    have here : (w.callers.set id (waiting a'))[id]? = some (.done o) := ended
    rw [List.getElem?_set_self lt] at here
    exact absurd (Option.some.inj here) (onward a')
  | done result =>
    cases hv
    have here : (w.callers.set id (done result))[id]? = some (.done o) := ended
    rw [List.getElem?_set_self lt] at here
    exact ⟨result, step, Option.some.inj here⟩

/-- A caller that is told about the status that it asked for was told so at the desk. -/
theorem settles_of_told {desired : Status} {a : Ask} {o : StatusOutcome}
    (asking : w.callers[id]? = some (.asking desired a)) (h : w.step (.caller id) = some v)
    (told : v.callers[id]? = some (.done (.status (.ok o)))) :
    w.Settles (.caller id) desired (.ok o) ∧ v.watch = w.watch := by
  have h : w.caller? id = some v := h
  unfold caller? at h
  rw [asking] at h
  obtain ⟨result, step, same⟩ := ask_ends asking h told nofun
  cases same
  have asked : w.ask? (.caller id) = some (desired, a) := by
    show w.callers[id]?.bind Caller.ask? = _
    rw [asking]
    rfl
  exact ⟨⟨a, _, asked, step⟩, Desk.step_ok_watch step⟩

/-- A caller that is told that the resolver stays stopped, since none is wanted any more, was told at the
desk that it is stopped. -/
theorem settles_of_disabled (h : w.step (.caller id) = some v)
    (told : v.callers[id]? = some (.done (.settings (.ok .disabled)))) :
    ∃ o, w.Settles (.caller id) .stopped (.ok o) ∧ v.watch = w.watch := by
  have h : w.caller? id = some v := h
  unfold caller? at h
  split at h
  next found =>
    obtain ⟨result, -, same⟩ := ask_ends found h told nofun
    cases same
  next found =>
    cases h
    cases (getElem?_setCaller found rfl _).symm.trans told
  next found =>
    cases h
    unfold compare at told
    split_ifs at told
    all_goals cases (getElem?_setCaller found rfl _).symm.trans told
  next new a found =>
    obtain ⟨result, step, same⟩ := ask_ends found h told nofun
    have asked : w.ask? (.caller id) = some (.stopped, a) := by
      show w.callers[id]?.bind Caller.ask? = _
      rw [found]
      rfl
    cases result with
    | error f => cases same
    | ok o => exact ⟨o, ⟨a, _, asked, step⟩, Desk.step_ok_watch step⟩
  next found =>
    obtain ⟨result, -, same⟩ := ask_ends found h told nofun
    cases result <;> cases same
  next => cases h

/-! ## All along a run -/

/-- Whether something is true of a world and of all that come of it by the moves. -/
def throughout (P : World → Bool) (w : World) : List Move → Bool
  | [] => P w
  | m :: ms => P w && (w.step m).all fun v => v.throughout P ms

theorem throughout_head {P : World → Bool} {ms : List Move} (h : w.throughout P ms = true) :
    P w = true := by
  cases ms with
  | nil => exact h
  | cons m ms => exact (Bool.and_eq_true _ _ ▸ h).1

/-- What every move keeps that leads from a world of some kind to another one, a run keeps that passes
through such worlds only. -/
theorem keep_throughout {P : World → Bool} {J : World → Prop} {ms : List Move}
    (step : ∀ m ∈ ms, ∀ x y : World, x.step m = some y → P x = true → P y = true → J x → J y)
    (h : w.run ms = some v) (all : w.throughout P ms = true) (hw : J w) : J v := by
  induction ms generalizing w with
  | nil =>
    cases h
    exact hw
  | cons m ms ih =>
    obtain ⟨x, hx, hv⟩ := Option.bind_eq_some_iff.1 h
    have here := throughout_head all
    unfold throughout at all
    rw [hx, Bool.and_eq_true] at all
    have kept := step m List.mem_cons_self w x hx here (throughout_head all.2) hw
    exact ih (fun m' hm => step m' (List.mem_cons_of_mem m hm)) hv all.2 kept

end World

end DnsWarden
