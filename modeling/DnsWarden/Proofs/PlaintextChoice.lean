import DnsWarden.Retreat

/-!
# Which plaintext nameserver a retreat finds

Settings offer a plaintext address if one is set, or if any provider has an IPv4 address, but a
retreat looks at the first provider alone.  `Scene.retreat_reaches_offered_iff` says that a retreat
points DNS at an address that the settings offer, and gives up only where they offer none, unless
the settings overlook a provider.
-/

namespace DnsWarden

namespace Settings

/-- An address for plaintext DNS: the one that is set, or else an IPv4 address of some provider. -/
def Offers (s : Settings) (ip : IpAddress) : Prop :=
  match s.plaintextAddress with
  | some given => ip = given
  | none => ∃ p ∈ s.resolver.providers, ∃ a ∈ p.ipv4, ip = .v4 a

/-- No address is set, and the first provider has no IPv4 address while a later one has. -/
def Overlooks (s : Settings) : Prop :=
  s.plaintextAddress = none ∧ ∃ first rest, s.resolver.providers = first :: rest ∧
    first.ipv4 = [] ∧ ∃ p ∈ rest, p.ipv4 ≠ []

variable {s : Settings}

theorem offers_of_plaintextTarget? {ip : IpAddress} (target : s.plaintextTarget? = some ip) :
    s.Offers ip := by
  unfold plaintextTarget? at target
  unfold Offers
  cases address : s.plaintextAddress with
  | some given =>
    rw [address] at target
    exact (Option.some.inj target).symm
  | none =>
    rw [address] at target
    obtain ⟨p, first, found⟩ := Option.bind_eq_some_iff.1 target
    obtain ⟨a, head, rfl⟩ := Option.map_eq_some_iff.1 found
    exact ⟨p, List.mem_of_head? first, a, List.mem_of_head? head, rfl⟩

/-- No target is found exactly if none is offered, or if a provider is overlooked. -/
theorem plaintextTarget?_eq_none_iff :
    s.plaintextTarget? = none ↔ (∀ ip, ¬ s.Offers ip) ∨ s.Overlooks := by
  unfold plaintextTarget? Offers Overlooks
  cases address : s.plaintextAddress with
  | some given => simp
  | none =>
    cases providers : s.resolver.providers with
    | nil => simp
    | cons first rest =>
      cases addresses : first.ipv4 with
      | nil =>
        -- Whether a later provider has an address decides which side holds.
        by_cases later : ∃ p ∈ rest, p.ipv4 ≠ []
        · refine iff_of_true ?_ (.inr ⟨rfl, first, rest, rfl, addresses, later⟩)
          simp [Provider.plaintextAddress?, addresses]
        · refine iff_of_true ?_ (.inl ?_)
          · simp [Provider.plaintextAddress?, addresses]
          · rintro ip ⟨p, hp, a, ha, -⟩
            obtain rfl | hp := List.mem_cons.1 hp
            · rw [addresses] at ha
              cases ha
            · exact later ⟨p, hp, List.ne_nil_of_mem ha⟩
      | cons a as =>
        refine iff_of_false ?_ ?_
        · simp [Provider.plaintextAddress?, addresses]
        · rintro (none | ⟨-, first', rest', same, empty, -⟩)
          · exact none (.v4 a) ⟨first, List.mem_cons_self, a, by simp [addresses], rfl⟩
          · cases same
            rw [addresses] at empty
            cases empty

theorem Overlooks.offers (h : s.Overlooks) : ∃ ip, s.Offers ip := by
  obtain ⟨address, first, rest, providers, -, p, hp, some⟩ := h
  obtain ⟨a, ha⟩ := List.exists_mem_of_ne_nil _ some
  unfold Offers
  rw [address, providers]
  exact ⟨.v4 a, p, List.mem_cons_of_mem _ hp, a, ha, rfl⟩

end Settings

namespace Scene

/-- What a retreat does, by the target that the settings name. -/
theorem retreat_of_target (s : Scene) (failed : Bool) :
    (∃ ip, s.settings.plaintextTarget? = some ip ∧ s.retreat failed =
      (((s.tallyRetreat failed).tell (if failed then .fallingBack ip else .usingPlaintext ip)).pointAt
        ip .plaintext s.settings.keepNameserver, true)) ∨
    (s.settings.plaintextTarget? = none ∧
      s.retreat failed = ((s.tallyRetreat failed).tell .noPlaintext, false)) := by
  have same : (s.tallyRetreat failed).settings = s.settings := rfl
  unfold retreat
  dsimp only
  cases target : (s.tallyRetreat failed).settings.plaintextTarget? with
  | none => exact .inr ⟨same ▸ target, rfl⟩
  | some ip => exact .inl ⟨ip, same ▸ target, rfl⟩

/--
Wherever the settings offer a plaintext address, a retreat points the warden's own lookups and then
the system at an address that they offer, and it tells that there is none, and does nothing else, only
where they offer none: this holds exactly unless the settings overlook a provider.
-/
theorem retreat_reaches_offered_iff (s : Scene) (failed : Bool) :
    (((∃ ip, s.settings.Offers ip) → ∃ ip, s.settings.Offers ip ∧ s.retreat failed =
        (((s.tallyRetreat failed).tell
          (if failed then .fallingBack ip else .usingPlaintext ip)).pointAt ip .plaintext
            s.settings.keepNameserver, true)) ∧
      (s.retreat failed = ((s.tallyRetreat failed).tell .noPlaintext, false) →
        ∀ ip, ¬ s.settings.Offers ip)) ↔
    ¬ s.settings.Overlooks := by
  obtain ⟨ip, target, points⟩ | ⟨target, stays⟩ := s.retreat_of_target failed
  · refine iff_of_true ⟨fun _ => ?_, fun stays => ?_⟩ fun overlooks => ?_
    · exact ⟨ip, Settings.offers_of_plaintextTarget? target, points⟩
    · rw [points] at stays
      cases (Prod.mk.inj stays).2
    · rw [Settings.plaintextTarget?_eq_none_iff.2 (.inr overlooks)] at target
      cases target
  · constructor
    · rintro ⟨-, only⟩ overlooks
      obtain ⟨ip, offered⟩ := overlooks.offers
      exact only stays ip offered
    · intro straight
      obtain none | overlooks := Settings.plaintextTarget?_eq_none_iff.1 target
      · exact ⟨fun ⟨ip, offered⟩ => absurd offered (none ip), fun _ => none⟩
      · exact absurd overlooks straight

/-- Settings whose first provider has only an IPv6 address, and whose second one has an IPv4 address. -/
def secondProviderOnly : Settings where
  resolver.providers :=
    [{ name := "six", tlsName := "six.example.net", ipv4 := [],
       ipv6 := [⟨[0x2620, 0xfe, 0, 0, 0, 0, 0, 0xfe], rfl⟩] },
     { name := "quad9", tlsName := "dns.quad9.net", ipv4 := [⟨9, 9, 9, 9⟩], ipv6 := [] }]

/-- The address of the second provider is offered, and a retreat tells that no provider has one. -/
theorem retreat_overlooks_second_provider :
    secondProviderOnly.Offers (.v4 ⟨9, 9, 9, 9⟩) ∧
      let s := Scene.initial {} secondProviderOnly fun _ => 0
      s.retreat true = ((s.tallyRetreat true).tell .noPlaintext, false) ∧
        (s.retreat true).1.journal.calls = [] ∧
        Notice.noPlaintext.message =
          "no plaintext DNS address available: no address set and no provider has an IPv4 address" :=
  ⟨⟨_, List.mem_cons_of_mem _ List.mem_cons_self, _, List.mem_cons_self, rfl⟩, rfl, rfl, rfl⟩

end Scene

end DnsWarden
