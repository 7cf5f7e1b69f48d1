import DnsWarden.Proofs.Spellings

/-!
# What spells a range

Every text is read in exactly one way, which the part before its first slash and the rest after it
decide: the first fault among no slash, no address, no length is the one reported, and without a fault
the range is the address and the length that the two parts spell.  `IpRange.parse_follows_form` is the
main statement.
-/

namespace DnsWarden.IpRange

/-- The parts of a text before and after its first slash. -/
def Halves (s : String) (front back : List Char) : Prop :=
  s.toList = front ++ '/' :: back ∧ '/' ∉ front

/-- The text spells this address before its first slash, and this length after it. -/
def Denotes (s : String) (addr : IpAddress) (bits : UInt8) : Prop :=
  ∃ front back, Halves s front back ∧ addr.Spells front ∧ Numeral.SpellsSigned back bits.toNat

/-- How a text is to be read. -/
inductive Reading (s : String) : Except Refusal IpRange → Prop
  | whole (whole : '/' ∉ s.toList) : Reading s (.error (.missingLength s))
  | noAddress {front back : List Char} (halves : Halves s front back)
      (none : ∀ addr : IpAddress, ¬ addr.Spells front) : Reading s (.error (.address s))
  | noLength {front back : List Char} {addr : IpAddress} (halves : Halves s front back)
      (spells : addr.Spells front) (none : ∀ bits : UInt8, ¬ Numeral.SpellsSigned back bits.toNat) :
      Reading s (.error (.length s))
  | tooLong {front back : List Char} {addr : IpAddress} {bits : UInt8} (halves : Halves s front back)
      (spells : addr.Spells front) (length : Numeral.SpellsSigned back bits.toNat)
      (long : addr.width < bits.toNat) : Reading s (.error (.length s))
  | range {r : IpRange} (denotes : Denotes s r.addr r.bits) : Reading s (.ok r)

section

variable {s : String} {front back : List Char} {addr : IpAddress} {bits : UInt8}

theorem readBits?_iff : readBits? back = some bits ↔ Numeral.SpellsSigned back bits.toNat := by
  unfold readBits?
  constructor
  · intro h
    obtain ⟨n, hn, rfl⟩ := Option.map_eq_some_iff.1 h
    obtain ⟨spells, lt⟩ := Numeral.readBelow?_iff.1 hn
    rwa [UInt8.toNat_ofNat_of_lt' lt]
  · intro spells
    rw [Numeral.readBelow?_iff.2 ⟨spells, bits.toNat_lt⟩, Option.map_some, UInt8.ofNat_toNat]

theorem readBits?_eq_none_iff :
    readBits? back = none ↔ ∀ bits : UInt8, ¬ Numeral.SpellsSigned back bits.toNat := by
  rw [Option.eq_none_iff_forall_ne_some]
  exact forall_congr' fun bits => not_congr readBits?_iff

theorem halves_iff : Halves s front back ↔ cut '/' s.toList = some (front, back) :=
  cut_eq_some_iff.symm

theorem Halves.unique {front' back' : List Char} (h : Halves s front back)
    (h' : Halves s front' back') : front = front' ∧ back = back' := by
  have same := (halves_iff.1 h).symm.trans (halves_iff.1 h')
  cases same
  exact ⟨rfl, rfl⟩

/-- A text denotes one address and one length at most. -/
theorem Denotes.unique {addr' : IpAddress} {bits' : UInt8} (h : Denotes s addr bits)
    (h' : Denotes s addr' bits') : addr = addr' ∧ bits = bits' := by
  obtain ⟨front, back, halves, spells, length⟩ := h
  obtain ⟨front', back', halves', spells', length'⟩ := h'
  obtain ⟨rfl, rfl⟩ := halves.unique halves'
  exact ⟨spells.unique spells',
    Option.some.inj ((readBits?_iff.2 length).symm.trans (readBits?_iff.2 length'))⟩

/-! ## The reading of a text -/

theorem reading_parse (s : String) : Reading s (parse s) := by
  unfold parse
  cases halves : cut '/' s.toList with
  | none => exact .whole (cut_eq_none.1 halves)
  | some p =>
    obtain ⟨front, back⟩ := p
    replace halves := halves_iff.2 halves
    dsimp only
    cases address : IpAddress.read? front with
    | none => exact .noAddress halves (IpAddress.read?_eq_none_iff.1 address)
    | some addr =>
      have spells := IpAddress.read?_iff.1 address
      cases length : readBits? back with
      | none => exact .noLength halves spells (readBits?_eq_none_iff.1 length)
      | some bits =>
        replace length := readBits?_iff.1 length
        by_cases fits : bits.toNat ≤ addr.width
        · simp only [Option.bind_some, ofParts?, dif_pos fits]
          exact .range ⟨front, back, halves, spells, length⟩
        · simp only [Option.bind_some, ofParts?, dif_neg fits]
          exact .tooLong halves spells length (Nat.lt_of_not_le fits)

/-- A text is to be read in one way only. -/
theorem Reading.parse_eq {v : Except Refusal IpRange} (h : Reading s v) : parse s = v := by
  unfold parse
  cases h with
  | whole whole => rw [cut_eq_none.2 whole]
  | noAddress halves none =>
    simp only [halves_iff.1 halves, IpAddress.read?_eq_none_iff.2 none]
  | noLength halves spells none =>
    simp only [halves_iff.1 halves, IpAddress.read?_iff.2 spells, readBits?_eq_none_iff.2 none,
      Option.bind_none]
  | tooLong halves spells length long =>
    simp only [halves_iff.1 halves, IpAddress.read?_iff.2 spells, readBits?_iff.2 length,
      Option.bind_some, ofParts?, dif_neg (Nat.not_le_of_lt long)]
  | @range r denotes =>
    obtain ⟨front, back, halves, spells, length⟩ := denotes
    simp only [halves_iff.1 halves, IpAddress.read?_iff.2 spells, readBits?_iff.2 length,
      Option.bind_some, ofParts?, dif_pos r.bits_le]

theorem parse_iff {v : Except Refusal IpRange} : parse s = v ↔ Reading s v :=
  ⟨fun h => h ▸ reading_parse s, Reading.parse_eq⟩

end

/-! ## Each outcome -/

section

variable {s t : String}

theorem parse_eq_missingLength_iff :
    parse s = .error (.missingLength t) ↔ t = s ∧ '/' ∉ s.toList := by
  rw [parse_iff]
  constructor
  · intro h
    cases h with
    | whole whole => exact ⟨rfl, whole⟩
  · rintro ⟨rfl, whole⟩
    exact .whole whole

theorem parse_eq_address_iff :
    parse s = .error (.address t) ↔ t = s ∧ ∃ front back, Halves s front back ∧
      ∀ addr : IpAddress, ¬ addr.Spells front := by
  rw [parse_iff]
  constructor
  · intro h
    cases h with
    | noAddress halves none => exact ⟨rfl, _, _, halves, none⟩
  · rintro ⟨rfl, front, back, halves, none⟩
    exact .noAddress halves none

/-- Of two faults the first is reported. -/
example : parse "10.0.0/x" = .error (.address "10.0.0/x") := rfl

theorem parse_eq_length_iff :
    parse s = .error (.length t) ↔ t = s ∧ ∃ front back, Halves s front back ∧
      ∃ addr : IpAddress, addr.Spells front ∧
        ((∀ bits : UInt8, ¬ Numeral.SpellsSigned back bits.toNat) ∨
          ∃ bits : UInt8, Numeral.SpellsSigned back bits.toNat ∧ addr.width < bits.toNat) := by
  rw [parse_iff]
  constructor
  · intro h
    cases h with
    | noLength halves spells none => exact ⟨rfl, _, _, halves, _, spells, .inl none⟩
    | tooLong halves spells length long =>
      exact ⟨rfl, _, _, halves, _, spells, .inr ⟨_, length, long⟩⟩
  · rintro ⟨rfl, front, back, halves, addr, spells, none | ⟨bits, length, long⟩⟩
    · exact .noLength halves spells none
    · exact .tooLong halves spells length long

theorem parse_eq_ok_iff {r : IpRange} : parse s = .ok r ↔ Denotes s r.addr r.bits := by
  rw [parse_iff]
  constructor
  · intro h
    cases h with
    | range denotes => exact denotes
  · exact .range

end

theorem ofParts?_eq_some_iff {addr : IpAddress} {bits : UInt8} {r : IpRange} :
    ofParts? addr bits = some r ↔ r.addr = addr ∧ r.bits = bits := by
  obtain ⟨addr', bits', fits⟩ := r
  unfold ofParts?
  constructor
  · intro h
    split_ifs at h
    cases h
    exact ⟨rfl, rfl⟩
  · rintro ⟨rfl, rfl⟩
    exact dif_pos fits

/-- Every address and every length that the family has room for make a range, whose text is read as that
range.  And every text is read by its form: without a slash it lacks a length; else, unless an address
is spelled before the first slash, it has no address; else, unless a length is spelled after that slash
and the family has room for it, it has no length; else it is the range of the two.  So texts are read as
the same range just when they denote the same. -/
theorem parse_follows_form :
    (∀ addr bits, bits.toNat ≤ addr.width ↔
      ∃ r, ofParts? addr bits = some r ∧ r.addr = addr ∧ r.bits = bits ∧ parse r.text = .ok r) ∧
    (∀ s t, parse s = .error (.missingLength t) ↔ t = s ∧ '/' ∉ s.toList) ∧
    (∀ s t, parse s = .error (.address t) ↔ t = s ∧ ∃ front back, Halves s front back ∧
      ∀ addr : IpAddress, ¬ addr.Spells front) ∧
    (∀ s t, parse s = .error (.length t) ↔ t = s ∧ ∃ front back, Halves s front back ∧
      ∃ addr : IpAddress, addr.Spells front ∧
        ((∀ bits : UInt8, ¬ Numeral.SpellsSigned back bits.toNat) ∨
          ∃ bits : UInt8, Numeral.SpellsSigned back bits.toNat ∧ addr.width < bits.toNat)) ∧
    (∀ s r, parse s = .ok r ↔ Denotes s r.addr r.bits) ∧
    ∀ s s' r r', parse s = .ok r → parse s' = .ok r' →
      (r = r' ↔ ∃ addr bits, Denotes s addr bits ∧ Denotes s' addr bits) := by
  refine ⟨fun addr bits => ⟨fun fits => ?_, ?_⟩, fun _ _ => parse_eq_missingLength_iff,
    fun _ _ => parse_eq_address_iff, fun _ _ => parse_eq_length_iff, fun _ _ => parse_eq_ok_iff,
    fun s s' r r' h h' => ⟨?_, ?_⟩⟩
  · exact ⟨⟨addr, bits, fits⟩, ofParts?_eq_some_iff.2 ⟨rfl, rfl⟩, rfl, rfl, parse_text _⟩
  · rintro ⟨r, -, rfl, rfl, -⟩
    exact r.bits_le
  · rintro rfl
    exact ⟨r.addr, r.bits, parse_eq_ok_iff.1 h, parse_eq_ok_iff.1 h'⟩
  · rintro ⟨addr, bits, denotes, denotes'⟩
    obtain ⟨sameAddr, sameBits⟩ := denotes.unique (parse_eq_ok_iff.1 h)
    obtain ⟨sameAddr', sameBits'⟩ := denotes'.unique (parse_eq_ok_iff.1 h')
    obtain ⟨addr₁, bits₁, _⟩ := r
    obtain ⟨addr₂, bits₂, _⟩ := r'
    cases sameAddr
    cases sameBits
    cases sameAddr'
    cases sameBits'
    rfl

/-- Two spellings of one range: with a signed length and an IPv4 address inside, and in groups alone. -/
theorem parse_follows_form_mapped :
    ∃ r, parse "::FFFF:1.2.3.4/+096" = .ok r ∧ parse "0::ffff:0102:304/96" = .ok r ∧
      ∃ addr bits, Denotes "::FFFF:1.2.3.4/+096" addr bits ∧
        Denotes "0::ffff:0102:304/96" addr bits := by
  obtain ⟨-, -, -, -, -, same⟩ := parse_follows_form
  refine ⟨⟨.v6 ⟨[0, 0, 0, 0, 0, 0xffff, 0x102, 0x304], rfl⟩, 96, by decide⟩, rfl, rfl, ?_⟩
  exact (same _ _ ⟨.v6 ⟨[0, 0, 0, 0, 0, 0xffff, 0x102, 0x304], rfl⟩, 96, by decide⟩ _ rfl rfl).1 rfl

end DnsWarden.IpRange
