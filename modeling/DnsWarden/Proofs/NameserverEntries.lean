import DnsWarden.NameserverFile
import DnsWarden.Proofs.Lines
import DnsWarden.Proofs.Spellings

/-!
# The entries of the nameserver file

The file is written again with every start, stop and failure of the resolver, so that what was written
once is read again later.  Its lines are those that were written, and so its entries are the addresses
that the system was pointed at, the newest use first and each of them once, before what is left of the
entries that were there at first: `NameserverFile.entries_follow_uses`.  Addresses are compared by their
spelling, so that another spelling of an address is kept behind it: `NameserverFile.denoted_once_iff`.
-/

namespace DnsWarden

/-! ## Addresses as words -/

theorem Numeral.isBlank_of_digit? {c : Char} (digit : digit? c ≠ none) : isBlank c = false := by
  have within : ('0' ≤ c ∧ c ≤ '9') ∨ ('a' ≤ c ∧ c ≤ 'f') ∨ ('A' ≤ c ∧ c ≤ 'F') := by
    by_contra outside
    obtain ⟨decimal, outside⟩ := not_or.1 outside
    obtain ⟨lower, upper⟩ := not_or.1 outside
    refine digit ?_
    unfold digit?
    rw [if_neg decimal, if_neg lower, if_neg upper]
  -- The bounds as numbers, all of them between the blanks.
  have bounds : (48 ≤ c.toNat ∧ c.toNat ≤ 57) ∨ (97 ≤ c.toNat ∧ c.toNat ≤ 102) ∨
      (65 ≤ c.toNat ∧ c.toNat ≤ 70) := within
  simp only [isBlank, Bool.or_eq_false_iff, Bool.and_eq_false_iff, decide_eq_false_iff_not,
    beq_eq_false_iff_ne]
  omega

namespace IpAddress

theorem write_ne_nil (ip : IpAddress) : ip.write ≠ [] := by
  cases ip with
  | v4 ip => exact ip.write_ne_nil
  | v6 ip => exact List.ne_nil_of_mem ip.colon_mem_write

/-- An address has no blank in it. -/
theorem solid_write (ip : IpAddress) : ∀ c ∈ ip.write, isBlank c = false := by
  intro c there
  cases ip with
  | v4 ip =>
    obtain rfl | digit := Ipv4.mem_write there
    · rfl
    · exact Numeral.isBlank_of_digit? digit
  | v6 ip =>
    obtain rfl | rfl | digit := Ipv6.mem_write there
    · rfl
    · rfl
    · exact Numeral.isBlank_of_digit? digit

theorem write_injective : Function.Injective write := by
  intro ip ip' same
  have read := ip.read?_write
  rw [same, ip'.read?_write] at read
  exact (Option.some.inj read).symm

end IpAddress

namespace NameserverFile

/-! ## What is written -/

/-- Whether a line is no entry. -/
def isOther (line : List Char) : Bool := Option.isNone <| entry? line

/-- Lines that are written each with a line end are read back, but for carriage returns at their
ends. -/
theorem lines_unlines {ls : List (List Char)} (clear : ∀ l ∈ ls, '\n' ∉ l) :
    lines (unlines ls) = ls.map withoutReturn := by
  induction ls with
  | nil => rfl
  | cons l ls ih =>
    obtain ⟨here, later⟩ := List.forall_mem_cons.1 clear
    have front : unlines (l :: ls) = l ++ '\n' :: unlines ls := by
      simp [unlines]
    rw [front, lines_append_newline here, ih later, List.map_cons]

theorem entry?_withoutReturn (l : List Char) : entry? (withoutReturn l) = entry? l := by
  unfold entry?
  rw [words_withoutReturn]

theorem isOther_withoutReturn (l : List Char) : isOther (withoutReturn l) = isOther l := by
  unfold isOther
  rw [entry?_withoutReturn]

theorem solid_keyword : ∀ c ∈ keyword, isBlank c = false := by
  have solid : keyword.all (fun c => !isBlank c) = true := by decide
  simpa using solid

section

variable (contents : List Char) (ip : IpAddress) (keep : Bool)

/-- The line that points the system at an address. -/
def pointer : List Char := keyword ++ ' ' :: ip.write

theorem entry?_pointer : entry? (pointer ip) = some ip.write := by
  unfold entry? pointer
  rw [words_append_cons solid_keyword (by decide) isBlank_space, words_of_solid ip.solid_write ip.write_ne_nil]
  exact if_pos rfl

theorem mem_pointer {c : Char} (there : c ∈ pointer ip) : c = ' ' ∨ isBlank c = false := by
  obtain there | there := List.mem_append.1 there
  · exact .inr (solid_keyword c there)
  · obtain rfl | there := List.mem_cons.1 there
    · exact .inl rfl
    · exact .inr (ip.solid_write c there)

theorem not_mem_pointer {c : Char} (blank : isBlank c = true) (other : c ≠ ' ') : c ∉ pointer ip := by
  intro there
  obtain space | solid := mem_pointer ip there
  · exact other space
  · rw [blank] at solid
    cases solid

theorem withoutReturn_pointer : withoutReturn (pointer ip) = pointer ip :=
  withoutReturn_of_ne fun last =>
    not_mem_pointer ip isBlank_return (by decide) (List.mem_of_getLast? last)

/-- The lines of the file are the new entry and the lines that stay. -/
theorem lines_pointAt : lines (pointAt contents ip keep) =
    pointer ip :: ((lines contents).filter (stays ip.write keep)).map withoutReturn := by
  have clear : ∀ l ∈ pointer ip :: (lines contents).filter (stays ip.write keep), '\n' ∉ l := by
    refine List.forall_mem_cons.2 ⟨not_mem_pointer ip isBlank_newline (by decide), fun l there => ?_⟩
    exact newline_not_mem_of_mem_lines (List.mem_filter.1 there).1
  have written := lines_unlines clear
  rwa [List.map_cons, withoutReturn_pointer] at written

/-- The entries among lines that stay, if the entries for one address go, or all of them. -/
theorem filterMap_stays (ls : List (List Char)) (address : List Char) :
    (ls.filter (stays address keep)).filterMap entry? =
      if keep then (ls.filterMap entry?).filter (· ≠ address) else [] := by
  induction ls with
  | nil => cases keep <;> rfl
  | cons l ls ih =>
    cases entry : entry? l with
    | none =>
      have stay : stays address keep l = true := by simp [stays, entry]
      rw [List.filter_cons_of_pos stay, List.filterMap_cons_none entry, ih,
        List.filterMap_cons_none entry]
    | some a =>
      rw [List.filterMap_cons_some entry]
      by_cases stay : stays address keep l = true
      · have kept : keep = true ∧ a ≠ address := by simpa [stays, entry] using stay
        obtain ⟨rfl, other⟩ := kept
        rw [List.filter_cons_of_pos stay, List.filterMap_cons_some entry, ih]
        simp [other]
      · rw [List.filter_cons_of_neg stay, ih]
        cases keep with
        | false => rfl
        | true =>
          have same : a = address := by simpa [stays, entry] using stay
          simp [same]

/-- The entries of the file are the new one and, if they are kept, those that are spelled otherwise. -/
theorem entries_pointAt : entries (pointAt contents ip keep) =
    ip.write :: if keep then (entries contents).filter (· ≠ ip.write) else [] := by
  have same : entry? ∘ withoutReturn = entry? := funext entry?_withoutReturn
  unfold entries
  rw [lines_pointAt, List.filterMap_cons_some (entry?_pointer ip), List.filterMap_map, same,
    filterMap_stays]

/-- The other lines of the file are as they were, but for carriage returns at their ends. -/
theorem others_pointAt : (lines (pointAt contents ip keep)).filter isOther =
    ((lines contents).filter isOther).map withoutReturn := by
  have entry : ¬ isOther (pointer ip) = true := by simp [isOther, entry?_pointer]
  have same : isOther ∘ withoutReturn = isOther := funext isOther_withoutReturn
  have stay : ∀ l, isOther l = true → stays ip.write keep l = true := by
    intro l other
    have none : entry? l = none := Option.isNone_iff_eq_none.1 other
    simp [stays, none]
  rw [lines_pointAt, List.filter_cons_of_neg entry, List.filter_map, same, List.filter_filter]
  refine congrArg (List.map withoutReturn) (List.filter_congr fun l _ => ?_)
  cases other : isOther l with
  | false => rfl
  | true => simp [stay l other]

end

/-! ## One use after another -/

/-- One time that the system is pointed at a nameserver. -/
structure Use where
  ip : IpAddress
  keep : Bool
deriving DecidableEq

/-- The file after uses, the newest of which comes first. -/
def afterUses (contents : List Char) : List Use → List Char
  | [] => contents
  | u :: earlier => pointAt (afterUses contents earlier) u.ip u.keep

/-- The addresses of the uses since the last one that kept nothing, that one included, the newest
first. -/
def inUse : List Use → List IpAddress
  | [] => []
  | u :: earlier => u.ip :: if u.keep then inUse earlier else []

/-- The addresses in use, each of them once, by their newest use. -/
def recent : List Use → List IpAddress
  | [] => []
  | u :: earlier => u.ip :: if u.keep then (recent earlier).filter (· ≠ u.ip) else []

theorem mem_recent {ip : IpAddress} (uses : List Use) : ip ∈ recent uses ↔ ip ∈ inUse uses := by
  induction uses with
  | nil => exact Iff.rfl
  | cons u earlier ih =>
    unfold recent inUse
    cases u.keep with
    | false => exact Iff.rfl
    | true =>
      by_cases same : ip = u.ip
      · simp [same]
      · simp [same, ih]

theorem nodup_recent (uses : List Use) : (recent uses).Nodup := by
  induction uses with
  | nil => exact List.nodup_nil
  | cons u earlier ih =>
    unfold recent
    cases u.keep with
    | false => exact List.nodup_singleton _
    | true =>
      refine List.nodup_cons.2 ⟨fun again => ?_, ih.filter _⟩
      simp at again

/-- An address comes before another one if its newest use came later. -/
theorem pairwise_recent (uses : List Use) :
    (recent uses).Pairwise fun a b => (inUse uses).idxOf a < (inUse uses).idxOf b := by
  induction uses with
  | nil => exact .nil
  | cons u earlier ih =>
    unfold recent inUse
    cases u.keep with
    | false => exact List.pairwise_singleton _ _
    | true =>
      have later : ∀ a ∈ (recent earlier).filter (· ≠ u.ip),
          (u.ip :: inUse earlier).idxOf a = (inUse earlier).idxOf a + 1 := by
        intro a there
        have other : a ≠ u.ip := by simpa using (List.mem_filter.1 there).2
        exact List.idxOf_cons_ne _ (Ne.symm other)
      refine List.pairwise_cons.2 ⟨fun a there => ?_, ?_⟩
      · rw [if_pos rfl, later a there, List.idxOf_cons_self]
        exact Nat.succ_pos _
      · refine (ih.filter _).imp_of_mem fun {a b} hereA hereB lt => ?_
        rw [if_pos rfl, later a hereA, later b hereB]
        exact Nat.succ_lt_succ lt

/-- The entries that were there at first and are there still. -/
def survivors (contents : List Char) (uses : List Use) : List (List Char) :=
  if uses.all Use.keep then
    (entries contents).filter fun e => ∀ ip ∈ inUse uses, e ≠ ip.write
  else []

theorem entries_afterUses (contents : List Char) (uses : List Use) :
    entries (afterUses contents uses) =
      (recent uses).map IpAddress.write ++ survivors contents uses := by
  induction uses with
  | nil => simp [afterUses, recent, survivors, inUse]
  | cons u earlier ih =>
    obtain ⟨ip, keep⟩ := u
    unfold afterUses
    rw [entries_pointAt, ih]
    cases keep with
    | false => simp [recent, survivors]
    | true =>
      have spelled : (fun e => decide (e ≠ ip.write)) ∘ IpAddress.write =
          fun other => decide (other ≠ ip) := by
        funext other
        exact decide_eq_decide.2 (not_congr IpAddress.write_injective.eq_iff)
      have rest : (survivors contents earlier).filter (· ≠ ip.write) =
          survivors contents (⟨ip, true⟩ :: earlier) := by
        unfold survivors
        simp only [List.all_cons, Bool.true_and]
        split_ifs
        · rw [List.filter_filter]
          refine List.filter_congr fun e _ => ?_
          simp [inUse]
        · rfl
      simp only [if_true, List.filter_append, List.filter_map, spelled, rest, recent,
        List.map_cons, List.cons_append]

/-- Each address in use has one entry. -/
theorem count_entries (contents : List Char) {uses : List Use} {ip : IpAddress}
    (used : ip ∈ inUse uses) : (entries (afterUses contents uses)).count ip.write = 1 := by
  have once : (recent uses).count ip = 1 :=
    List.count_eq_one_of_mem (nodup_recent uses) ((mem_recent uses).2 used)
  have gone : (survivors contents uses).count ip.write = 0 := by
    refine List.count_eq_zero.2 fun there => ?_
    unfold survivors at there
    split_ifs at there
    · have others := (List.mem_filter.1 there).2
      exact of_decide_eq_true others ip used rfl
    · cases there
  rw [entries_afterUses, List.count_append, gone,
    List.count_map_of_injective _ _ IpAddress.write_injective, once]

/-- If no line ends in a carriage return, then none does after any uses, and the lines that are no
entries stay. -/
theorem others_afterUses {contents : List Char}
    (clear : ∀ l ∈ lines contents, l.getLast? ≠ some '\r') (uses : List Use) :
    (∀ l ∈ lines (afterUses contents uses), l.getLast? ≠ some '\r') ∧
      (lines (afterUses contents uses)).filter isOther = (lines contents).filter isOther := by
  induction uses with
  | nil => exact ⟨clear, rfl⟩
  | cons u earlier ih =>
    obtain ⟨ends, others⟩ := ih
    have stay : ∀ l ∈ (lines (afterUses contents earlier)).filter (stays u.ip.write u.keep),
        l.getLast? ≠ some '\r' := fun l there => ends l (List.mem_filter.1 there).1
    constructor
    · unfold afterUses
      rw [lines_pointAt, map_withoutReturn stay]
      refine List.forall_mem_cons.2 ⟨fun last => ?_, stay⟩
      exact not_mem_pointer u.ip isBlank_return (by decide) (List.mem_of_getLast? last)
    · have ends' : ∀ l ∈ (lines contents).filter isOther, l.getLast? ≠ some '\r' :=
        fun l there => clear l (List.mem_filter.1 there).1
      unfold afterUses
      rw [others_pointAt, others, map_withoutReturn ends']

/--
When the system is pointed at an address, its entry is the first one, and if the others are kept, those
with another spelling follow it in their order; and unless a line ends in a carriage return, the lines
that are no entries stay as they are.  So after any uses one after another, the newest address is in
front, every address used since the last use that kept nothing has one entry, the newest use first, and
behind these the entries that were there at first are left only if every use has kept them.
-/
theorem entries_follow_uses :
    (∀ contents ip keep, entries (pointAt contents ip keep) =
      ip.write :: if keep then (entries contents).filter (· ≠ ip.write) else []) ∧
    (∀ contents, (∀ l ∈ lines contents, l.getLast? ≠ some '\r') →
      (∀ ip keep, (lines (pointAt contents ip keep)).filter isOther =
        (lines contents).filter isOther) ∧
      ∀ uses, (lines (afterUses contents uses)).filter isOther = (lines contents).filter isOther) ∧
    ∀ contents u earlier, ∃ (order : List IpAddress) (left : List (List Char)),
      entries (afterUses contents (u :: earlier)) = order.map IpAddress.write ++ left ∧
      order.head? = some u.ip ∧ order.Nodup ∧ (∀ ip, ip ∈ order ↔ ip ∈ inUse (u :: earlier)) ∧
      (order.Pairwise fun a b =>
        (inUse (u :: earlier)).idxOf a < (inUse (u :: earlier)).idxOf b) ∧
      (∀ ip ∈ inUse (u :: earlier),
        (entries (afterUses contents (u :: earlier))).count ip.write = 1) ∧
      left = if (u :: earlier).all Use.keep then
        (entries contents).filter fun e => ∀ ip ∈ inUse (u :: earlier), e ≠ ip.write else [] := by
  refine ⟨entries_pointAt, fun contents clear => ⟨fun ip keep => ?_, fun uses => ?_⟩,
    fun contents u earlier => ?_⟩
  · exact (others_afterUses clear [⟨ip, keep⟩]).2
  · exact (others_afterUses clear uses).2
  · refine ⟨recent (u :: earlier), survivors contents (u :: earlier), entries_afterUses _ _, rfl,
      nodup_recent _, fun _ => mem_recent _, pairwise_recent _, fun ip used => ?_, rfl⟩
    exact count_entries contents used

/-- A file as another program leaves it, with two entries and without a line end behind the last line. -/
def leased : List Char :=
  ("# generated by DHCP\nsearch example.internal\nnameserver 192.168.1.1\nnameserver\n" ++
    "nameserver\t127.0.0.1 # local\noptions edns0").toList

theorem leased_lines_stay :
    (∀ l ∈ lines leased, l.getLast? ≠ some '\r') ∧
      (lines (afterUses leased [⟨.loopback, true⟩, ⟨.v4 ⟨9, 9, 9, 9⟩, false⟩])).filter isOther =
        ["# generated by DHCP".toList, "search example.internal".toList, "nameserver".toList,
          "options edns0".toList] := by
  have clear : ∀ l ∈ lines leased, l.getLast? ≠ some '\r' := by decide +kernel
  obtain ⟨-, stay, -⟩ := entries_follow_uses
  exact ⟨clear, ((stay leased clear).2 _).trans (by decide +kernel)⟩

/-! ## Orders to the system and to the process -/

/-- The use of the file that an order makes, if it is to the system. -/
def Order.use? : Order → Option Use
  | .system ip keep => some ⟨ip, keep⟩
  | .process _ => none

/-- The nameserver that an order publishes, if it is to the process. -/
def Order.published? : Order → Option IpAddress
  | .process ip => some ip
  | .system _ _ => none

/-- What orders lead to, the newest of which comes first. -/
def Publisher.after (p : Publisher) : List Order → Publisher
  | [] => p
  | o :: earlier => ((p.after earlier).obey o).1

/-- Orders to the process and to the system do not meddle: after any of them the file is as the uses leave
it, and the newest nameserver for the process is published. -/
theorem Publisher.after_text (s : String) (internal : Option IpAddress) (orders : List Order) :
    Publisher.after ⟨.text s, internal⟩ orders =
      ⟨.text (String.ofList (afterUses s.toList (orders.filterMap Order.use?))),
        (orders.findSome? Order.published?).or internal⟩ := by
  induction orders with
  | nil => simp [after, afterUses]
  | cons o earlier ih =>
    rw [after, ih]
    cases o with
    | process ip => rfl
    | system ip keep =>
      simp only [obey, Disk.pointAt, String.toList_ofList]
      rfl

/-! ## Spellings of one address -/

/-- Of these entries the first one is read as the address, and no other one is. -/
def FirstAlone (ip : IpAddress) : List (List Char) → Prop
  | [] => False
  | e :: es => IpAddress.read? e = some ip ∧ ∀ e' ∈ es, IpAddress.read? e' ≠ some ip

theorem firstAlone_pointAt_iff (contents : List Char) (ip : IpAddress) (keep : Bool) :
    FirstAlone ip (entries (pointAt contents ip keep)) ↔
      keep = false ∨ ∀ e ∈ entries contents, IpAddress.read? e = some ip → e = ip.write := by
  rw [entries_pointAt]
  cases keep with
  | false => exact iff_of_true ⟨ip.read?_write, nofun⟩ (.inl rfl)
  | true =>
    constructor
    · rintro ⟨-, alone⟩
      refine .inr fun e there read => by_contra fun other => ?_
      exact alone e (List.mem_filter.2 ⟨there, decide_eq_true other⟩) read
    · rintro (⟨⟨⟩⟩ | spelled)
      refine ⟨ip.read?_write, fun e there read => ?_⟩
      obtain ⟨there, other⟩ := List.mem_filter.1 there
      exact of_decide_eq_true other (spelled e there read)

/-- An IPv4 address has one spelling. -/
theorem eq_write_of_read?_v4 {e : List Char} {ip : Ipv4} (read : IpAddress.read? e = some (.v4 ip)) :
    e = IpAddress.write (.v4 ip) := by
  have spells : IpAddress.Spells (.v4 ip) e := IpAddress.read?_iff.1 read
  exact spells

/--
Once the system was pointed at an address, the first entry is read as that address and no other one is,
unless the entries are kept and one of them has another spelling of the address.  An IPv4 address has no
other spelling.
-/
theorem denoted_once_iff (contents : List Char) (ip : IpAddress) (keep : Bool) :
    (FirstAlone ip (entries (pointAt contents ip keep)) ↔
      keep = false ∨ ∀ e ∈ entries contents, IpAddress.read? e = some ip → e = ip.write) ∧
    ∀ v4, ip = .v4 v4 → FirstAlone ip (entries (pointAt contents ip keep)) := by
  refine ⟨firstAlone_pointAt_iff contents ip keep, ?_⟩
  rintro v4 rfl
  exact (firstAlone_pointAt_iff _ _ _).2 (.inr fun e _ read => eq_write_of_read?_v4 read)

/-- The address of a public nameserver, which has four zero groups. -/
def publicAddress : IpAddress := .v6 ⟨[0x2001, 0x4860, 0x4860, 0, 0, 0, 0, 0x8888], rfl⟩

theorem denoted_once_beside_other_entries :
    let contents := "nameserver 2001:4860:4860::8888\nnameserver 2001:4860:4860::8844\n".toList
    FirstAlone publicAddress (entries (pointAt contents publicAddress true)) ∧
      entries (pointAt contents publicAddress true) =
        ["2001:4860:4860::8888".toList, "2001:4860:4860::8844".toList] := by
  refine ⟨(denoted_once_iff _ _ _).1.2 (.inr ?_), by decide +kernel⟩
  decide +kernel

/-- An entry whose zero groups are written out is kept behind the same address. -/
theorem kept_under_other_spelling :
    let after := entries (pointAt "nameserver 2001:4860:4860:0:0:0:0:8888\n".toList publicAddress true)
    after = ["2001:4860:4860::8888".toList, "2001:4860:4860:0:0:0:0:8888".toList] ∧
      (∀ e ∈ after, IpAddress.read? e = some publicAddress) ∧ ¬ FirstAlone publicAddress after := by
  have written : entries (pointAt "nameserver 2001:4860:4860:0:0:0:0:8888\n".toList publicAddress true) =
      ["2001:4860:4860::8888".toList, "2001:4860:4860:0:0:0:0:8888".toList] := by decide +kernel
  have read : ∀ e ∈ ["2001:4860:4860::8888".toList, "2001:4860:4860:0:0:0:0:8888".toList],
      IpAddress.read? e = some publicAddress := by decide +kernel
  dsimp only
  rw [written]
  refine ⟨rfl, read, fun alone => ?_⟩
  exact alone.2 _ (List.mem_singleton_self _) (read _ (List.mem_cons_of_mem _ (List.mem_singleton_self _)))

end NameserverFile

end DnsWarden
