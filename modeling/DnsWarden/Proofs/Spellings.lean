import DnsWarden.Proofs.AddressTexts

/-!
# What spells a number or an address

The texts that are read as numbers and as addresses, given as forms rather than by a reader.  A number
is a row of digits, of either case and with any number of leading zeros.  An IPv4 address has a single
spelling, the one in which it is written.  An IPv6 address has many: its groups in full or with one `::`
for a row of zero groups, each with any number of leading zeros up to four digits, and the last two
possibly as an IPv4 address.  `IpAddress.read?_iff` is the main statement.
-/

namespace DnsWarden

/-! ## Numbers -/

namespace Numeral

/-- The characters are digits of base `b`, most significant first, that make up the number. -/
def Spells (b : Nat) (cs : List Char) (n : Nat) : Prop :=
  ∃ ds : List Nat, ds ≠ [] ∧ cs.map (digitIn? b) = ds.map some ∧ n = Nat.ofDigits b ds.reverse

/-- The characters are decimal digits that make up the number, possibly after one plus sign. -/
def SpellsSigned (cs : List Char) (n : Nat) : Prop :=
  ∃ ds, (cs = ds ∨ cs = '+' :: ds) ∧ Spells 10 ds n

theorem digitIn?_lt {b d : Nat} {c : Char} (h : digitIn? b c = some d) : d < b := by
  simpa using (Option.filter_eq_some_iff.1 h).2

theorem readAfter?_iff {b acc n : Nat} {cs : List Char} :
    readAfter? b acc cs = some n ↔ ∃ ds : List Nat, cs.map (digitIn? b) = ds.map some ∧
      n = acc * b ^ ds.length + Nat.ofDigits b ds.reverse := by
  induction cs generalizing acc with
  | nil =>
    constructor
    · rintro ⟨⟩
      exact ⟨[], rfl, by simp⟩
    · rintro ⟨ds, digits, rfl⟩
      rw [List.map_eq_nil_iff.1 digits.symm]
      simp [readAfter?]
  | cons c cs ih =>
    -- The first digit counts as often as the base has been multiplied in by the digits after it.
    have shift (d : Nat) (ds : List Nat) :
        (acc * b + d) * b ^ ds.length + Nat.ofDigits b ds.reverse =
          acc * b ^ (d :: ds).length + Nat.ofDigits b (d :: ds).reverse := by
      rw [List.reverse_cons, Nat.ofDigits_append, Nat.ofDigits_singleton, List.length_reverse,
        List.length_cons]
      ring
    constructor
    · intro h
      obtain ⟨d, digit, rest⟩ := Option.bind_eq_some_iff.1 h
      obtain ⟨ds, digits, rfl⟩ := ih.1 rest
      exact ⟨d :: ds, by rw [List.map_cons, List.map_cons, digit, digits], shift d ds⟩
    · rintro ⟨ds, digits, rfl⟩
      cases ds with
      | nil => cases digits
      | cons d ds =>
        obtain ⟨digit, digits⟩ := List.cons.inj digits
        rw [readAfter?, digit, Option.bind_some]
        exact ih.2 ⟨ds, digits, (shift d ds).symm⟩

theorem read?_iff {b n : Nat} {cs : List Char} : read? b cs = some n ↔ Spells b cs n := by
  cases cs with
  | nil =>
    constructor
    · rintro ⟨⟩
    · rintro ⟨ds, some, digits, -⟩
      exact absurd (List.map_eq_nil_iff.1 digits.symm) some
  | cons c cs =>
    rw [read?, List.isEmpty_cons, if_neg Bool.false_ne_true, readAfter?_iff]
    constructor
    · rintro ⟨ds, digits, value⟩
      refine ⟨ds, ?_, digits, by simpa using value⟩
      rintro rfl
      cases digits
    · rintro ⟨ds, -, digits, value⟩
      exact ⟨ds, digits, by simpa using value⟩

theorem Spells.lt {b n : Nat} {cs : List Char} (several : 1 < b) (h : Spells b cs n) :
    n < b ^ cs.length := by
  obtain ⟨ds, -, digits, rfl⟩ := h
  have below : ∀ d ∈ ds.reverse, d < b := by
    intro d there
    have image : some d ∈ cs.map (digitIn? b) :=
      digits ▸ List.mem_map_of_mem (List.mem_reverse.1 there)
    obtain ⟨c, -, digit⟩ := List.mem_map.1 image
    exact digitIn?_lt digit
  have long : cs.length = ds.reverse.length := by simpa using congrArg List.length digits
  rw [long]
  exact Nat.ofDigits_lt_base_pow_length several below

theorem readBelow?_iff {bound n : Nat} {cs : List Char} :
    readBelow? bound cs = some n ↔ SpellsSigned cs n ∧ n < bound := by
  have below (ds : List Char) :
      (read? 10 ds).filter (· < bound) = some n ↔ Spells 10 ds n ∧ n < bound := by
    rw [Option.filter_eq_some_iff, read?_iff, decide_eq_true_iff]
  unfold readBelow?
  split
  next ds =>
    rw [below]
    refine and_congr_left fun _ => ⟨fun h => ⟨ds, .inr rfl, h⟩, ?_⟩
    rintro ⟨ds', rfl | same, h⟩
    · exact absurd rfl (digit?_of_read? (read?_iff.2 h) '+' List.mem_cons_self)
    · cases same
      exact h
  next unsigned =>
    rw [below]
    refine and_congr_left fun _ => ⟨fun h => ⟨cs, .inl rfl, h⟩, ?_⟩
    rintro ⟨ds, rfl | rfl, h⟩
    · exact h
    · exact absurd rfl (unsigned ds)

/-! ### Numerals without leading zeros -/

theorem eq_digitChar {c : Char} {d : Nat} (h : digitIn? 10 c = some d) : c = d.digitChar := by
  have lt : d < 10 := digitIn?_lt h
  have digit : digit? c = some d := (Option.filter_eq_some_iff.1 h).1
  have chars : ∀ k < 10, Char.ofNat (k + '0'.toNat) = k.digitChar := by decide
  unfold digit? at digit
  split_ifs at digit with decimal
  · have low : '0'.toNat ≤ c.toNat := decimal.1
    cases digit
    rw [← chars _ lt, Nat.sub_add_cancel low, Char.ofNat_toNat]
  all_goals
    have := Option.some.inj digit
    omega

/-- A decimal number that does not begin with a zero, or is a single digit, is as it would be written. -/
theorem eq_write {cs : List Char} {n : Nat} (h : read? 10 cs = some n)
    (canonical : cs.head? = some '0' → cs.length ≤ 1) : cs = write 10 n := by
  induction cs using List.reverseRecOn generalizing n with
  | nil => cases h
  | append_singleton cs c ih =>
    rw [read?, if_neg (by simp), readAfter?_append] at h
    obtain ⟨m, front, last⟩ := Option.bind_eq_some_iff.1 h
    obtain ⟨d, digit, value⟩ := Option.bind_eq_some_iff.1 last
    have lt : d < 10 := digitIn?_lt digit
    cases value
    rw [eq_digitChar digit]
    cases cs with
    | nil =>
      cases front
      rw [Nat.zero_mul, Nat.zero_add, write_of_lt lt, List.nil_append]
    | cons e cs =>
      have other : e ≠ '0' := by
        rintro rfl
        simpa using canonical rfl
      have same : e :: cs = write 10 m := ih front fun zero => absurd (Option.some.inj zero) other
      have pos : 0 < m := by
        refine Nat.pos_of_ne_zero fun zero => other ?_
        rw [zero] at same
        exact (List.cons.inj same).1
      rw [same, write_of_le (by omega) (show 10 ≤ m * 10 + d by omega)]
      congr 3 <;> omega

end Numeral

/-! ## IPv4 -/

namespace Ipv4

theorem readOctet?_iff {cs : List Char} {o : UInt8} :
    readOctet? cs = some o ↔ cs = Numeral.write 10 o.toNat := by
  constructor
  · intro h
    unfold readOctet? at h
    split_ifs at h with short
    obtain ⟨-, canonical⟩ := not_or.1 short
    obtain ⟨n, hn, rfl⟩ := Option.map_eq_some_iff.1 h
    obtain ⟨hn, lt⟩ := Option.filter_eq_some_iff.1 hn
    rw [UInt8.toNat_ofNat_of_lt' (by simpa using lt)]
    exact Numeral.eq_write hn fun zero => Nat.le_of_not_lt fun long => canonical ⟨zero, long⟩
  · rintro rfl
    exact readOctet?_write o

/-- An IPv4 address is read from the text that it is written as, and from no other. -/
theorem read?_iff {cs : List Char} {ip : Ipv4} : read? cs = some ip ↔ cs = ip.write := by
  constructor
  · intro h
    unfold read? at h
    split at h
    next a b c d parts =>
      obtain ⟨a', ha, h⟩ := Option.bind_eq_some_iff.1 h
      obtain ⟨b', hb, h⟩ := Option.bind_eq_some_iff.1 h
      obtain ⟨c', hc, h⟩ := Option.bind_eq_some_iff.1 h
      obtain ⟨d', hd, rfl⟩ := Option.map_eq_some_iff.1 h
      rw [← intercalate_pieces '.' cs, parts, readOctet?_iff.1 ha, readOctet?_iff.1 hb,
        readOctet?_iff.1 hc, readOctet?_iff.1 hd]
      rfl
    · cases h
  · rintro rfl
    exact ip.read?_write

theorem colon_not_mem_write (ip : Ipv4) : ':' ∉ ip.write := ip.not_mem_write (by decide) rfl

theorem write_ne_nil (ip : Ipv4) : ip.write ≠ [] := List.ne_nil_of_mem ip.point_mem_write

end Ipv4

/-! ## IPv6 -/

namespace Ipv6

/-- One to four hexadecimal digits. -/
def SpellsGroup (cs : List Char) (g : UInt16) : Prop :=
  cs.length ≤ 4 ∧ Numeral.Spells 16 cs g.toNat

/-- Groups with colons between them, where an IPv4 address may stand for the last two if `mixed`. -/
inductive SpellsGroups (mixed : Bool) : List Char → List UInt16 → Prop
  | group {cs : List Char} {g : UInt16} (group : SpellsGroup cs g) : SpellsGroups mixed cs [g]
  | inner (ip : Ipv4) (allowed : mixed = true) : SpellsGroups mixed ip.write ip.asGroups
  | more {cs rest : List Char} {g : UInt16} {gs : List UInt16} (group : SpellsGroup cs g)
      (groups : SpellsGroups mixed rest gs) : SpellsGroups mixed (cs ++ ':' :: rest) (g :: gs)

/-- What may stand on a side of `::`: groups, or nothing. -/
def SpellsSide (mixed : Bool) (cs : List Char) (gs : List UInt16) : Prop :=
  (cs = [] ∧ gs = []) ∨ SpellsGroups mixed cs gs

/-- The spellings of an IPv6 address: all eight groups, or those on both sides of one `::` that stands
for at least one zero group. -/
inductive Spells (ip : Ipv6) : List Char → Prop
  | full {cs : List Char} (groups : SpellsGroups true cs ip.groups) : ip.Spells cs
  | shrunk {front back : List Char} {fs bs : List UInt16} (before : SpellsSide false front fs)
      (zeros : Nat) (after : SpellsSide true back bs)
      (groups : ip.groups = fs ++ List.replicate (zeros + 1) 0 ++ bs) :
      ip.Spells (front ++ ':' :: ':' :: back)

theorem readGroup?_iff {cs : List Char} {g : UInt16} :
    readGroup? cs = some g ↔ SpellsGroup cs g := by
  constructor
  · intro h
    unfold readGroup? at h
    split_ifs at h with long
    have short : cs.length ≤ 4 := Nat.le_of_not_lt long
    obtain ⟨n, hn, rfl⟩ := Option.map_eq_some_iff.1 h
    have spells : Numeral.Spells 16 cs n := Numeral.read?_iff.1 hn
    have lt : n < 16 ^ 4 :=
      Nat.lt_of_lt_of_le (spells.lt (by omega)) (Nat.pow_le_pow_right (by omega) short)
    refine ⟨short, ?_⟩
    rwa [UInt16.toNat_ofNat_of_lt' lt]
  · rintro ⟨short, spells⟩
    rw [readGroup?, if_neg (Nat.not_lt.2 short), Numeral.read?_iff.2 spells]
    simp

theorem SpellsGroup.clear {cs : List Char} {g : UInt16} (h : SpellsGroup cs g) :
    ':' ∉ cs ∧ cs ≠ [] := by
  obtain ⟨-, spells⟩ := h
  have read := Numeral.read?_iff.2 spells
  refine ⟨fun there => Numeral.digit?_of_read? read ':' there rfl, ?_⟩
  rintro rfl
  cases read

/-- What spells groups is a row of pieces between colons, none of them empty. -/
theorem SpellsGroups.pieces {mixed : Bool} {cs : List Char} {gs : List UInt16}
    (h : SpellsGroups mixed cs gs) :
    ∃ ps, cs = List.intercalate [':'] ps ∧ ps ≠ [] ∧ (∀ p ∈ ps, ':' ∉ p ∧ p ≠ []) ∧
      readGroups? mixed ps = some gs := by
  induction h with
  | @group cs g group =>
    refine ⟨[cs], by simp, by simp, by simpa using group.clear, ?_⟩
    simp [readGroups?, readGroup?_iff.2 group]
  | inner ip allowed =>
    refine ⟨[ip.write], by simp, by simp, by simpa using ⟨ip.colon_not_mem_write, ip.write_ne_nil⟩, ?_⟩
    simp [readGroups?, readGroup?_write_ipv4, allowed, Ipv4.read?_write]
  | @more cs rest g gs group groups ih =>
    obtain ⟨ps, rfl, some, clear, read⟩ := ih
    refine ⟨cs :: ps, ?_, by simp, List.forall_mem_cons.2 ⟨group.clear, clear⟩, ?_⟩
    · cases ps with
      | nil => exact absurd rfl some
      | cons p ps => rw [List.intercalate_cons_cons, List.append_assoc, List.singleton_append]
    · rw [readGroups?, readGroup?_iff.2 group, read]
      · rfl
      · exact some

theorem spellsGroups_of_read {mixed : Bool} {ps : List (List Char)} {gs : List UInt16} (some : ps ≠ [])
    (h : readGroups? mixed ps = .some gs) : SpellsGroups mixed (List.intercalate [':'] ps) gs := by
  induction ps generalizing gs with
  | nil => exact absurd rfl some
  | cons p ps ih =>
    cases ps with
    | nil =>
      rw [List.intercalate_singleton]
      rw [readGroups?] at h
      cases group : readGroup? p with
      | some g =>
        rw [group] at h
        cases h
        exact .group (readGroup?_iff.1 group)
      | none =>
        rw [group] at h
        cases mixed with
        | false => cases h
        | true =>
          obtain ⟨ip, hip, rfl⟩ := Option.map_eq_some_iff.1 h
          rw [Ipv4.read?_iff.1 hip]
          exact .inner ip rfl
    | cons q qs =>
      rw [readGroups?] at h
      · obtain ⟨g, group, h⟩ := Option.bind_eq_some_iff.1 h
        obtain ⟨gs, rest, rfl⟩ := Option.map_eq_some_iff.1 h
        rw [List.intercalate_cons_cons, List.append_assoc, List.singleton_append]
        exact .more (readGroup?_iff.1 group) (ih (List.cons_ne_nil q qs) rest)
      · simp

theorem SpellsGroups.ne_nil {mixed : Bool} {cs : List Char} {gs : List UInt16}
    (h : SpellsGroups mixed cs gs) : cs ≠ [] := by
  cases h with
  | group group => exact group.clear.2
  | inner ip _ => exact ip.write_ne_nil
  | more _ _ => simp

theorem readPart?_iff {mixed : Bool} {cs : List Char} {gs : List UInt16} :
    readPart? mixed cs = some gs ↔ SpellsSide mixed cs gs := by
  unfold readPart? SpellsSide
  constructor
  · intro h
    split_ifs at h with empty
    · cases h
      exact .inl ⟨List.isEmpty_iff.1 empty, rfl⟩
    · exact .inr (intercalate_pieces ':' cs ▸ spellsGroups_of_read (pieces_ne_nil ':' cs) h)
  · rintro (⟨rfl, rfl⟩ | groups)
    · rfl
    · rw [if_neg (by simpa using groups.ne_nil)]
      obtain ⟨ps, rfl, some, clear, read⟩ := groups.pieces
      rw [pieces_intercalate (fun p hp => (clear p hp).1) some, read]

/-- The first `::` of a text is not before the end of a side that groups spell. -/
theorem SpellsSide.cutAtPair {mixed : Bool} {cs : List Char} {gs : List UInt16}
    (h : SpellsSide mixed cs gs) (rest : List Char) :
    cutAtPair ':' (cs ++ rest) = (cutAtPair ':' rest).map fun q => (cs ++ q.1, q.2) := by
  obtain ⟨rfl, rfl⟩ | groups := h
  · simp
  · obtain ⟨ps, rfl, -, clear, -⟩ := groups.pieces
    exact cutAtPair_intercalate clear rest

theorem read?_iff {cs : List Char} {ip : Ipv6} : read? cs = some ip ↔ ip.Spells cs := by
  have eight := ip.length_groups
  constructor
  · intro h
    unfold read? at h
    split at h
    · obtain ⟨gs, part, h⟩ := Option.bind_eq_some_iff.1 h
      rw [← ofGroups?_iff.1 h] at part
      obtain ⟨-, none⟩ | groups := readPart?_iff.1 part
      · rw [none] at eight
        cases eight
      · exact .full groups
    next front back cuts =>
      obtain ⟨fs, before, h⟩ := Option.bind_eq_some_iff.1 h
      obtain ⟨bs, after, h⟩ := Option.bind_eq_some_iff.1 h
      split_ifs at h with room
      obtain ⟨zeros, missing⟩ := Nat.exists_eq_add_of_lt room
      rw [show 8 - (fs.length + bs.length) = zeros + 1 by omega] at h
      rw [cutAtPair_eq_some cuts]
      exact .shrunk (readPart?_iff.1 before) zeros (readPart?_iff.1 after) (ofGroups?_iff.1 h)
  · rintro (groups | ⟨before, zeros, after, groups⟩)
    · have cuts := SpellsSide.cutAtPair (.inr groups) []
      rw [List.append_nil] at cuts
      unfold read?
      rw [cuts]
      simp only [cutAtPair, Option.map_none, readPart?_iff.2 (.inr groups), Option.bind_some]
      exact ofGroups?_iff.2 rfl
    · rw [groups, List.length_append, List.length_append, List.length_replicate] at eight
      unfold read?
      rw [before.cutAtPair]
      simp only [cutAtPair, and_self, if_true, Option.map_some, List.append_nil,
        readPart?_iff.2 before, readPart?_iff.2 after, Option.bind_some]
      rw [if_pos (by omega), ofGroups?_iff, groups]
      congr 3
      omega

/-- Several groups have a colon between them. -/
theorem SpellsGroups.colon_mem {mixed : Bool} {cs : List Char} {gs : List UInt16}
    (h : SpellsGroups mixed cs gs) (several : 2 < gs.length) : ':' ∈ cs := by
  cases h with
  | group _ => simp at several
  | inner ip _ => simp [Ipv4.asGroups] at several
  | more _ _ => simp

theorem Spells.colon_mem {ip : Ipv6} {cs : List Char} (h : ip.Spells cs) : ':' ∈ cs := by
  cases h with
  | full groups => exact groups.colon_mem (by rw [ip.length_groups]; omega)
  | shrunk _ _ _ _ => simp

end Ipv6

/-! ## Both families -/

namespace IpAddress

/-- The spellings of an address. -/
def Spells : IpAddress → List Char → Prop
  | .v4 ip, cs => cs = ip.write
  | .v6 ip, cs => ip.Spells cs

/-- An address is read from its spellings, and from nothing else. -/
theorem read?_iff {cs : List Char} {ip : IpAddress} : read? cs = some ip ↔ ip.Spells cs := by
  unfold read?
  cases h : Ipv4.read? cs with
  | some inner =>
    have written := Ipv4.read?_iff.1 h
    cases ip with
    | v4 ip =>
      rw [Option.some.injEq, IpAddress.v4.injEq, ← Option.some.injEq, ← h]
      exact Ipv4.read?_iff
    | v6 ip =>
      constructor
      · rintro ⟨⟩
      · intro spells
        exact absurd (written ▸ spells.colon_mem) inner.colon_not_mem_write
  | none =>
    cases ip with
    | v4 ip => simp [Spells, ← Ipv4.read?_iff, h]
    | v6 ip => simp [Spells, ← Ipv6.read?_iff]

theorem read?_eq_none_iff {cs : List Char} : read? cs = none ↔ ∀ ip : IpAddress, ¬ ip.Spells cs := by
  rw [Option.eq_none_iff_forall_ne_some]
  exact forall_congr' fun ip => not_congr read?_iff

/-- A text spells one address at most. -/
theorem Spells.unique {cs : List Char} {ip ip' : IpAddress} (h : ip.Spells cs) (h' : ip'.Spells cs) :
    ip = ip' :=
  Option.some.inj ((read?_iff.2 h).symm.trans (read?_iff.2 h'))

end IpAddress

end DnsWarden
