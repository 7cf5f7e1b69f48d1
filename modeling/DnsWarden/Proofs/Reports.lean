import DnsWarden.Fault.Kinds
import DnsWarden.IpRange

/-!
# Reports of failures

A failure of each kind has a message and perhaps another failure as its source; one of an unknown kind
passes for what it holds, and has that failure's message and source.  `AnyFault` is a failure of any kind
with these two, and `AnyFault.write` writes its message and, source after source, all others behind it.  The
main statement is `AnyFault.report_joins_messages`: what is written is the report that the operator is told,
with the message of each failure in the chain of sources once and in order.
-/

namespace DnsWarden

/-- A failure of any kind. -/
inductive AnyFault where
  | unknown (f : Fault)
  | io (e : IoFailure)
  | engine (f : EngineFault)
  | writer (f : WriterFault)
  | nameserver (f : NameserverFault)
  | probe (f : ProbeFault)
  | blocklist (f : BlocklistFault)
  | refresh (f : RefreshFault)
  | session (f : SessionFault)
  | call (f : CallFault)
  | range (r : IpRange.Refusal)
deriving DecidableEq

/-! ## Faults and their causes -/

namespace Fault

theorem report_of_root {f : Fault} (h : f.cause? = none) : f.report = f.message := by
  cases f with
  | root m => rfl
  | because m c => cases h

theorem report_of_cause {f c : Fault} (h : f.cause? = some c) :
    f.report = f.message ++ ": " ++ c.report := by
  cases f with
  | root m => cases h
  | because m c' =>
    cases h
    rfl

end Fault

namespace AnyFault

/-- The failure of an unknown kind that a failure passes for, if it does. -/
def held? : AnyFault → Option Fault
  | .engine (.other f) | .writer (.other f) | .nameserver (.other f) | .probe (.other f)
  | .blocklist (.other f) => some f
  | _ => none

/-- What a failure says by itself. -/
def message : AnyFault → String
  | .unknown f => f.message
  | .io e => e.text
  | .engine (.io _) | .writer (.io _) | .nameserver (.io _) => "I/O Error"
  | .engine (.exited s) => "resolver exited with " ++ s.text
  | .engine (.other f) | .writer (.other f) | .nameserver (.other f) | .probe (.other f)
  | .blocklist (.other f) => f.message
  | .probe .cancelled => "DNS probe cancelled"
  | .probe .timedOut => "DNS probe timed out"
  | .blocklist (.fetch source _) => "cannot fetch blocklist from " ++ source
  | .refresh (.setUp _) => "cannot set up resolver files"
  | .refresh (.write _) => "cannot write resolver configuration"
  | .session (.refresh _) => "cannot update files"
  | .session (.start _) => "cannot start resolver"
  | .session (.probe _) => "resolver is not answering DNS queries"
  | .session (.ended _) => "resolver exited unexpectedly"
  | .call f => f.message
  | .range r => r.message

/-- The failure that caused a failure, if one did. -/
def source? : AnyFault → Option AnyFault
  | .unknown f => f.cause?.map .unknown
  | .io (.caused _ f) => some (.unknown f)
  | .engine (.io e) | .writer (.io e) | .nameserver (.io e) => some (.io e)
  | .engine (.other f) | .writer (.other f) | .nameserver (.other f) | .probe (.other f)
  | .blocklist (.other f) => f.cause?.map .unknown
  | .blocklist (.fetch _ f) => some (.unknown f)
  | .refresh (.setUp f) | .refresh (.write f) => some (.writer f)
  | .session (.refresh f) => some (.refresh f)
  | .session (.start f) => some (.engine f)
  | .session (.probe f) => some (.probe f)
  | .session (.ended f) => f.map .engine
  | .io (.os _) | .io (.custom _) | .engine (.exited _) | .probe .cancelled | .probe .timedOut
  | .call _ | .range _ => none

/-- The fault that a failure is reported as. -/
def fault : AnyFault → Fault
  | .unknown f => f
  | .io e => e.bare
  | .engine f => f.fault
  | .writer f => f.fault
  | .nameserver f => f.fault
  | .probe f => f.fault
  | .blocklist f => f.fault
  | .refresh f => f.fault
  | .session f => f.fault
  | .call f => .root f.message
  | .range r => .root r.message

/-! ## Faults -/

theorem message_fault (f : AnyFault) : f.fault.message = f.message := by
  cases f with
  | unknown | call | range => rfl
  | io f | engine f | writer f | nameserver f | probe f | blocklist f | refresh f => cases f <;> rfl
  | session f =>
    cases f with
    | ended f => cases f <;> rfl
    | _ => rfl

/-- The cause of a fault is the fault of the source. -/
theorem cause?_fault (f : AnyFault) : f.fault.cause? = f.source?.map fault := by
  have same : ∀ g : Fault, g.cause? = (g.cause?.map unknown).map fault := fun g => by
    cases g <;> rfl
  cases f with
  | unknown g => exact same g
  | call | range => rfl
  | io e => cases e <;> rfl
  | engine f | writer f | nameserver f | probe f | blocklist f =>
    cases f with
    | other g => exact same g
    | _ => rfl
  | refresh f => cases f <;> rfl
  | session f =>
    cases f with
    | ended f => cases f <;> rfl
    | _ => rfl

theorem messages_length_lt {f g : AnyFault} (h : f.source? = some g) :
    g.fault.messages.length < f.fault.messages.length := by
  have cause : f.fault.cause? = some g.fault := by rw [cause?_fault, h, Option.map_some]
  cases hf : f.fault with
  | root m =>
    rw [hf] at cause
    cases cause
  | because m c =>
    rw [hf] at cause
    cases cause
    exact Nat.lt_succ_self _

/-! ## Chains -/

/-- The failures from a failure to its first cause, each the source of the one before it. -/
inductive Chain : AnyFault → List AnyFault → Prop where
  | last {f} (first : f.source? = none) : Chain f [f]
  | link {f g gs} (caused : f.source? = some g) (rest : Chain g gs) : Chain f (f :: gs)

theorem exists_chain (f : AnyFault) : ∃ chain, f.Chain chain := by
  cases caused : f.source? with
  | none => exact ⟨[f], .last caused⟩
  | some g =>
    obtain ⟨gs, rest⟩ := exists_chain g
    exact ⟨f :: gs, .link caused rest⟩
termination_by f.fault.messages.length
decreasing_by exact messages_length_lt caused

theorem Chain.ne_nil {f : AnyFault} {chain : List AnyFault} (h : f.Chain chain) : chain ≠ [] := by
  cases h <;> exact List.cons_ne_nil _ _

theorem Chain.unique {f : AnyFault} {chain other : List AnyFault} (h : f.Chain chain)
    (h' : f.Chain other) : other = chain := by
  induction h generalizing other with
  | last first =>
    cases h' with
    | last _ => rfl
    | link caused _ => cases first.symm.trans caused
  | link caused _ ih =>
    cases h' with
    | last first => cases first.symm.trans caused
    | link caused' rest' =>
      obtain rfl := Option.some.inj (caused.symm.trans caused')
      rw [ih rest']

/-! ## Reports -/

theorem report_last {f : AnyFault} (first : f.source? = none) : f.fault.report = f.message := by
  have root : f.fault.cause? = none := by rw [cause?_fault, first, Option.map_none]
  rw [Fault.report_of_root root, message_fault]

theorem report_link {f g : AnyFault} (caused : f.source? = some g) :
    f.fault.report = f.message ++ ": " ++ g.fault.report := by
  have cause : f.fault.cause? = some g.fault := by rw [cause?_fault, caused, Option.map_some]
  rw [Fault.report_of_cause cause, message_fault]

theorem Chain.report {f : AnyFault} {chain : List AnyFault} (h : f.Chain chain) :
    f.fault.report = ": ".intercalate (chain.map message) := by
  induction h with
  | last first => rw [report_last first, List.map_singleton, String.intercalate_singleton]
  | link caused rest ih =>
    have more : List.map message _ ≠ [] := fun h => rest.ne_nil (List.map_eq_nil_iff.1 h)
    rw [report_link caused, ih, List.map_cons, String.intercalate_cons_of_ne_nil more]

/-- A failure that passes for another says what that one says, and has its report and its source. -/
theorem of_held {f : AnyFault} {g : Fault} (held : f.held? = some g) :
    f.message = g.message ∧ f.source? = (unknown g).source? ∧ f.fault.report = g.report := by
  cases f with
  | engine f | writer f | nameserver f | probe f | blocklist f =>
    cases f <;> cases held
    exact ⟨rfl, rfl, rfl⟩
  | _ => cases held

/-! ## What is written -/

/-- Writes, source after source, the messages of the failures beneath a failure. -/
def writeSources (written : String) (f : AnyFault) : String :=
  match _caused : f.source? with
  | none => written
  | some g => writeSources (written ++ ": " ++ g.message) g
termination_by f.fault.messages.length
decreasing_by exact messages_length_lt ‹_›

/-- A failure's message, and behind it those of all failures beneath it. -/
def write (f : AnyFault) : String := f.writeSources f.message

theorem writeSources_last {f : AnyFault} (first : f.source? = none) (written : String) :
    f.writeSources written = written := by
  rw [writeSources]
  split
  · rfl
  · rename_i caused
    cases first.symm.trans caused

theorem writeSources_link {f g : AnyFault} (caused : f.source? = some g) (written : String) :
    f.writeSources written = g.writeSources (written ++ ": " ++ g.message) := by
  rw [writeSources]
  split
  · rename_i first
    cases first.symm.trans caused
  · rename_i caused'
    obtain rfl := Option.some.inj (caused.symm.trans caused')
    rfl

/-- Behind what is written stands the report, once the message stands there. -/
theorem Chain.writeSources {f : AnyFault} {chain : List AnyFault} (h : f.Chain chain)
    (written : String) : f.writeSources (written ++ f.message) = written ++ f.fault.report := by
  induction h generalizing written with
  | last first => rw [writeSources_last first, report_last first]
  | link caused _ ih =>
    rw [writeSources_link caused, ih, report_link caused, String.append_assoc, String.append_assoc,
      String.append_assoc]

theorem write_eq_report (f : AnyFault) : f.write = f.fault.report := by
  obtain ⟨chain, h⟩ := f.exists_chain
  have empty := h.writeSources ""
  rwa [String.empty_append, String.empty_append] at empty

/--
What is written for a failure is its report: the messages of the failures in its chain of sources, which is
finite and the only one, each once and in order, with a colon and a blank between them.  So a failure with
a source is reported by its message, a colon, a blank and the report of the source, and one without by its
message alone, such as the end of a resolver by itself without an error.  A failure that passes for one of
an unknown kind is reported as that one, whatever causes it has, and does not repeat its message.
-/
theorem report_joins_messages (f : AnyFault) :
    f.write = f.fault.report ∧
    (∃ chain, f.Chain chain ∧ (∀ other, f.Chain other → other = chain) ∧
      f.fault.report = ": ".intercalate (chain.map message)) ∧
    (∀ g, f.source? = some g → f.fault.report = f.message ++ ": " ++ g.fault.report) ∧
    (f.source? = none → f.fault.report = f.message) ∧
    (f = .session (.ended none) → f.fault.report = "resolver exited unexpectedly") ∧
    ∀ g, f.held? = some g →
      f.message = g.message ∧ f.source? = (unknown g).source? ∧ f.fault.report = g.report := by
  obtain ⟨chain, h⟩ := f.exists_chain
  refine ⟨f.write_eq_report, ⟨chain, h, fun _ => h.unique, h.report⟩, fun _ => report_link, report_last,
    ?_, fun _ => of_held⟩
  rintro rfl
  rfl

/-- A resolver could not be started, for a reason of an unknown kind with a cause of its own. -/
def unstartable : AnyFault := .session (.start (.other (.because "cannot fork" (.root "out of memory"))))

theorem report_joins_messages_unstartable :
    unstartable.source? = some (.engine (.other (.because "cannot fork" (.root "out of memory")))) ∧
      unstartable.fault.report = "cannot start resolver: cannot fork: out of memory" ∧
      (engine (.other (.because "cannot fork" (.root "out of memory")))).fault.report =
        "cannot fork: out of memory" ∧
      (session (.ended none)).fault.report = "resolver exited unexpectedly" ∧
      (io (.os 2)).fault.report = "No such file or directory (os error 2)" := by
  obtain ⟨-, -, linked, -⟩ := report_joins_messages unstartable
  obtain ⟨-, -, -, -, -, held⟩ := report_joins_messages
    (.engine (.other (.because "cannot fork" (.root "out of memory"))))
  obtain ⟨-, -, -, -, ended, -⟩ := report_joins_messages (.session (.ended none))
  obtain ⟨-, -, -, alone, -⟩ := report_joins_messages (.io (.os 2))
  refine ⟨rfl, (linked _ rfl).trans ?_, (held _ rfl).2.2, ended rfl, (alone rfl).trans ?_⟩
  · decide
  · decide

end AnyFault

end DnsWarden
