import DnsWarden.IpRange
import DnsWarden.Proofs.Texts

/-!
# Addresses and ranges as texts

An address that was written is read back as the same address, also where zero groups were shrunk to `::`
and where an IPv4 address stands in the last two groups.  A range is an address, a slash and a length;
`IpRange.parse_text` is the main statement.
-/

namespace DnsWarden

/-! ## IPv4 -/

namespace Ipv4

theorem readOctet?_write (o : UInt8) : readOctet? (Numeral.write 10 o.toNat) = some o := by
  have lt : o.toNat < 256 := o.toNat_lt
  have short : ¬ 3 < (Numeral.write 10 o.toNat).length :=
    Nat.not_lt.2 (Numeral.length_write_le (by omega) (by omega) (by omega))
  have canonical : ¬ ((Numeral.write 10 o.toNat).head? = some '0' ∧
      1 < (Numeral.write 10 o.toNat).length) := by
    rintro ⟨head, long⟩
    rw [Numeral.head?_write (by omega) head] at long
    simp [Numeral.write] at long
  unfold readOctet?
  rw [if_neg (not_or.2 ⟨short, canonical⟩), Numeral.read?_write (by omega) (by omega)]
  simp [lt]

/-- What is read as an octet holds nothing but digits. -/
theorem digit?_of_readOctet? {cs : List Char} {o : UInt8} (h : readOctet? cs = some o) :
    ∀ c ∈ cs, Numeral.digit? c ≠ none := by
  unfold readOctet? at h
  split_ifs at h
  obtain ⟨n, hn, -⟩ := Option.map_eq_some_iff.1 h
  exact Numeral.digit?_of_read? (Option.filter_eq_some_iff.1 hn).1

theorem pieces_write (ip : Ipv4) :
    pieces '.' ip.write = ip.octets.map fun o => Numeral.write 10 o.toNat := by
  refine pieces_intercalate (fun p hp => ?_) (by simp [octets])
  obtain ⟨o, -, rfl⟩ := List.mem_map.1 hp
  exact Numeral.not_mem_write (by omega) (by omega) rfl

theorem read?_write (ip : Ipv4) : read? ip.write = some ip := by
  unfold read?
  rw [pieces_write]
  simp [octets, readOctet?_write]

/-- What is read as an IPv4 address holds nothing but digits and points. -/
theorem digit?_of_read? {cs : List Char} {ip : Ipv4} (h : read? cs = some ip) :
    ∀ c ∈ cs, c ≠ '.' → Numeral.digit? c ≠ none := by
  intro c there other
  obtain ⟨p, hp, there⟩ := mem_pieces there other
  unfold read? at h
  split at h
  next a b c d parts =>
    obtain ⟨a', ha, h⟩ := Option.bind_eq_some_iff.1 h
    obtain ⟨b', hb, h⟩ := Option.bind_eq_some_iff.1 h
    obtain ⟨c', hc, h⟩ := Option.bind_eq_some_iff.1 h
    obtain ⟨d', hd, -⟩ := Option.map_eq_some_iff.1 h
    rw [parts] at hp
    simp only [List.mem_cons, List.not_mem_nil, or_false] at hp
    obtain rfl | rfl | rfl | rfl := hp
    · exact digit?_of_readOctet? ha _ there
    · exact digit?_of_readOctet? hb _ there
    · exact digit?_of_readOctet? hc _ there
    · exact digit?_of_readOctet? hd _ there
  · cases h

theorem point_mem_write (ip : Ipv4) : '.' ∈ ip.write := by
  simp [write, octets, List.intercalate_cons_cons]

theorem mem_write {ip : Ipv4} {c : Char} (h : c ∈ ip.write) : c = '.' ∨ Numeral.digit? c ≠ none :=
  or_iff_not_imp_left.2 (digit?_of_read? ip.read?_write c h)

theorem not_mem_write (ip : Ipv4) {c : Char} (other : c ≠ '.') (none : Numeral.digit? c = none) :
    c ∉ ip.write :=
  fun there => (mem_write there).elim other (· none)

end Ipv4

/-! ## IPv6 -/

namespace Ipv6

theorem readGroup?_write (g : UInt16) : readGroup? (Numeral.write 16 g.toNat) = some g := by
  have lt : g.toNat < 16 ^ 4 := g.toNat_lt
  have short : ¬ 4 < (Numeral.write 16 g.toNat).length :=
    Nat.not_lt.2 (Numeral.length_write_le (by omega) (by omega) lt)
  unfold readGroup?
  rw [if_neg short, Numeral.read?_write (by omega) (by omega)]
  simp

theorem readGroups?_write (mixed : Bool) (gs : List UInt16) :
    readGroups? mixed (gs.map fun g => Numeral.write 16 g.toNat) = some gs := by
  induction gs with
  | nil => rfl
  | cons g gs ih =>
    cases gs with
    | nil => simp [readGroups?, readGroup?_write]
    | cons g' gs =>
      rw [List.map_cons] at ih
      rw [List.map_cons, List.map_cons, readGroups?, readGroup?_write]
      · simp [ih]
      · simp

/-- The groups of an address as texts hold something, but no colon. -/
theorem clear_groups (gs : List UInt16) :
    ∀ p ∈ gs.map (fun g => Numeral.write 16 g.toNat), ':' ∉ p ∧ p ≠ [] := by
  intro p hp
  obtain ⟨g, -, rfl⟩ := List.mem_map.1 hp
  exact ⟨Numeral.not_mem_write (by omega) (by omega) rfl, Numeral.write_ne_nil _ _⟩

theorem writeGroups_ne_nil (g : UInt16) (gs : List UInt16) : writeGroups (g :: gs) ≠ [] := by
  have some := Numeral.write_ne_nil 16 g.toNat
  cases gs <;> simp [writeGroups, List.intercalate_cons_cons, some]

theorem readPart?_writeGroups (mixed : Bool) (gs : List UInt16) :
    readPart? mixed (writeGroups gs) = some gs := by
  cases gs with
  | nil => rfl
  | cons g gs =>
    unfold readPart?
    rw [if_neg (by simpa using writeGroups_ne_nil g gs), writeGroups,
      pieces_intercalate (fun p hp => (clear_groups (g :: gs) p hp).1) (by simp),
      readGroups?_write]

theorem cutAtPair_writeGroups (gs : List UInt16) (rest : List Char) :
    cutAtPair ':' (writeGroups gs ++ rest) =
      (cutAtPair ':' rest).map fun q => (writeGroups gs ++ q.1, q.2) :=
  cutAtPair_intercalate (clear_groups gs) rest

/-! ### Zero groups -/

theorem leadingZeros_le (gs : List UInt16) : leadingZeros gs ≤ gs.length := by
  induction gs with
  | nil => exact Nat.le_refl _
  | cons g gs ih =>
    unfold leadingZeros
    split_ifs
    · exact Nat.succ_le_succ ih
    · exact Nat.zero_le _

theorem leadingZeros_append (gs : List UInt16) :
    List.replicate (leadingZeros gs) 0 ++ gs.drop (leadingZeros gs) = gs := by
  induction gs with
  | nil => rfl
  | cons g gs ih =>
    unfold leadingZeros
    split_ifs with zero
    · rw [List.replicate_succ, List.cons_append, List.drop_succ_cons, ih, zero]
    · rfl

/-- The run of zero groups lies within the groups, and holds zeros. -/
theorem longestZeros_run (gs : List UInt16) :
    (longestZeros gs).1 + (longestZeros gs).2 ≤ gs.length ∧
      gs.take (longestZeros gs).1 ++ List.replicate (longestZeros gs).2 0 ++
        gs.drop ((longestZeros gs).1 + (longestZeros gs).2) = gs := by
  induction gs with
  | nil => exact ⟨Nat.le_refl _, rfl⟩
  | cons g gs ih =>
    rw [longestZeros]
    split_ifs
    · refine ⟨by simpa using leadingZeros_le (g :: gs), ?_⟩
      simpa using leadingZeros_append (g :: gs)
    · obtain ⟨le, same⟩ := ih
      refine ⟨by simp; omega, ?_⟩
      dsimp only
      rw [List.take_succ_cons, Nat.add_right_comm, List.drop_succ_cons, List.cons_append,
        List.cons_append, same]

/-! ### The forms of an address -/

/-- The groups of an IPv4-mapped address are those of the IPv4 address after the marks. -/
theorem groups_of_mapped? {ip : Ipv6} {inner : Ipv4} (h : ip.mapped? = some inner) :
    ip.groups = [0, 0, 0, 0, 0, 0xffff] ++ inner.asGroups := by
  unfold mapped? at h
  split at h
  next g k groups =>
    cases h
    have pack : ∀ g : UInt16,
        UInt16.ofNat ((UInt8.ofNat (g.toNat / 256)).toNat * 256 + (UInt8.ofNat g.toNat).toNat) = g := by
      intro g
      have lt : g.toNat < 65536 := g.toNat_lt
      apply UInt16.toNat_inj.1
      simp only [UInt16.toNat_ofNat', UInt8.toNat_ofNat']
      omega
    rw [groups, Ipv4.asGroups, pack, pack]
    rfl
  · cases h

/-- An IPv4 address is no group. -/
theorem readGroup?_write_ipv4 (inner : Ipv4) : readGroup? inner.write = none := by
  cases h : readGroup? inner.write with
  | none => rfl
  | some g =>
    unfold readGroup? at h
    split_ifs at h
    obtain ⟨n, hn, -⟩ := Option.map_eq_some_iff.1 h
    exact absurd rfl (Numeral.digit?_of_read? hn '.' inner.point_mem_write)

theorem readPart?_mapped (inner : Ipv4) :
    readPart? true ("ffff:".toList ++ inner.write) = some (0xffff :: inner.asGroups) := by
  have colon : ':' ∉ inner.write := inner.not_mem_write (by decide) rfl
  have parts : pieces ':' ("ffff:".toList ++ inner.write) = ["ffff".toList, inner.write] := by
    rw [show "ffff:".toList ++ inner.write = "ffff".toList ++ ':' :: inner.write from rfl,
      pieces_append (by decide), pieces_of_not_mem colon]
  have marks : readGroup? "ffff".toList = some 0xffff := by decide
  unfold readPart?
  rw [if_neg (by simp), parts, readGroups?, marks, readGroups?, readGroup?_write_ipv4]
  · simp [Ipv4.read?_write]
  · simp

theorem ofGroups?_iff {gs : List UInt16} {ip : Ipv6} : ofGroups? gs = some ip ↔ ip.groups = gs := by
  constructor
  · intro h
    unfold ofGroups? at h
    split_ifs at h
    cases h
    rfl
  · rintro rfl
    exact dif_pos ip.length_groups

theorem read?_write (ip : Ipv6) : read? ip.write = some ip := by
  unfold write
  cases mapped : ip.mapped? with
  | some inner =>
    have cuts : cutAtPair ':' ("::ffff:".toList ++ inner.write) =
        some ([], "ffff:".toList ++ inner.write) := rfl
    dsimp only
    unfold read?
    rw [cuts]
    dsimp only
    rw [readPart?_mapped]
    exact ofGroups?_iff.2 (groups_of_mapped? mapped)
  | none =>
    obtain ⟨le, same⟩ := longestZeros_run ip.groups
    have eight := ip.length_groups
    dsimp only
    split_ifs with shrinks
    · rw [List.append_assoc, List.cons_append, List.singleton_append]
      unfold read?
      rw [cutAtPair_writeGroups]
      simp only [cutAtPair, and_self, if_true, Option.map_some, List.append_nil,
        readPart?_writeGroups, Option.bind_some, List.length_take, List.length_drop]
      rw [if_pos (by omega)]
      refine ofGroups?_iff.2 ?_
      have missing : 8 - (min (longestZeros ip.groups).1 ip.groups.length +
          (ip.groups.length - ((longestZeros ip.groups).1 + (longestZeros ip.groups).2))) =
          (longestZeros ip.groups).2 := by omega
      rw [missing, same]
    · have cuts := cutAtPair_writeGroups ip.groups []
      rw [List.append_nil] at cuts
      unfold read?
      rw [cuts]
      simp only [cutAtPair, Option.map_none, readPart?_writeGroups, Option.bind_some]
      exact ofGroups?_iff.2 rfl

/-- Every address has a colon in it. -/
theorem colon_mem_write (ip : Ipv6) : ':' ∈ ip.write := by
  unfold write
  cases ip.mapped? with
  | some inner => simp
  | none =>
    dsimp only
    split_ifs
    · simp
    · have eight := ip.length_groups
      match groups : ip.groups, eight with
      | g :: g' :: gs, _ => simp [writeGroups, List.intercalate_cons_cons]

theorem digit?_of_mem_writeGroups {gs : List UInt16} {c : Char} (h : c ∈ writeGroups gs)
    (other : c ≠ ':') : Numeral.digit? c ≠ none := by
  cases gs with
  | nil => cases h
  | cons g gs =>
    obtain ⟨p, hp, there⟩ := mem_pieces h other
    rw [writeGroups, pieces_intercalate (fun p hp => (clear_groups (g :: gs) p hp).1) (by simp)] at hp
    obtain ⟨g', -, rfl⟩ := List.mem_map.1 hp
    exact fun none => Numeral.not_mem_write (by omega) (by omega) none there

theorem mem_write {ip : Ipv6} {c : Char} (h : c ∈ ip.write) :
    c = ':' ∨ c = '.' ∨ Numeral.digit? c ≠ none := by
  refine or_iff_not_imp_left.2 fun other => ?_
  unfold write at h
  cases mapped : ip.mapped? with
  | some inner =>
    rw [mapped] at h
    obtain h | h := List.mem_append.1 h
    · have marks : c ∈ [':', ':', 'f', 'f', 'f', 'f', ':'] := h
      have digit : c = 'f' := by simpa [other] using marks
      exact .inr (digit ▸ by decide)
    · exact Ipv4.mem_write h
  | none =>
    rw [mapped] at h
    dsimp only at h
    split_ifs at h
    · obtain h | h := List.mem_append.1 h
      · obtain h | h := List.mem_append.1 h
        · exact .inr (digit?_of_mem_writeGroups h other)
        · simp [other] at h
      · exact .inr (digit?_of_mem_writeGroups h other)
    · exact .inr (digit?_of_mem_writeGroups h other)

end Ipv6

/-! ## Both families -/

namespace IpAddress

theorem read?_write (ip : IpAddress) : read? ip.write = some ip := by
  cases ip with
  | v4 ip => simp [read?, write, Ipv4.read?_write]
  | v6 ip =>
    have colon : Ipv4.read? ip.write = none := by
      cases h : Ipv4.read? ip.write with
      | none => rfl
      | some inner => exact absurd rfl (Ipv4.digit?_of_read? h ':' ip.colon_mem_write (by decide))
    simp [read?, write, colon, Ipv6.read?_write]

theorem parse?_text (ip : IpAddress) : parse? ip.text = some ip := by
  unfold parse? text
  rw [String.toList_ofList, read?_write]

theorem slash_not_mem_write (ip : IpAddress) : '/' ∉ ip.write := by
  intro there
  cases ip with
  | v4 ip => exact ip.not_mem_write (by decide) rfl there
  | v6 ip =>
    obtain colon | point | digit := Ipv6.mem_write there
    · cases colon
    · cases point
    · exact digit rfl

end IpAddress

/-! ## Ranges -/

namespace IpRange

theorem readBits?_write (bits : UInt8) : readBits? (Numeral.write 10 bits.toNat) = some bits := by
  have lt : bits.toNat < 256 := bits.toNat_lt
  have unsigned : ∀ r, Numeral.write 10 bits.toNat ≠ '+' :: r := fun r signed =>
    Numeral.not_mem_write (c := '+') (b := 10) (n := bits.toNat) (by omega) (by omega) rfl
      (signed ▸ List.mem_cons_self)
  unfold readBits? Numeral.readBelow?
  split
  next r signed => exact absurd signed (unsigned r)
  · rw [Numeral.read?_write (by omega) (by omega)]
    simp [lt]

/-- The text of an address and a length is read as a range of just these, if the length fits the family,
and is refused for its length otherwise. -/
theorem parse_parts (addr : IpAddress) (bits : UInt8) :
    let s := String.ofList (addr.write ++ '/' :: Numeral.write 10 bits.toNat)
    parse s = match ofParts? addr bits with
      | some range => .ok range
      | none => .error (.length s) := by
  dsimp only
  unfold parse
  rw [String.toList_ofList, cut_append addr.slash_not_mem_write]
  dsimp only
  rw [IpAddress.read?_write]
  dsimp only
  rw [readBits?_write, Option.bind_some]
  cases ofParts? addr bits <;> rfl

/-- A range that was written is read back as the same range. -/
theorem parse_text (r : IpRange) : parse r.text = .ok r := by
  unfold text
  rw [parse_parts, ofParts?, dif_pos r.bits_le]

end IpRange

end DnsWarden
