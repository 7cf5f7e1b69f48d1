import DnsWarden.Text.Numeral
import DnsWarden.Text.Split
import Mathlib.Data.Nat.Digits.Lemmas

/-!
# Numerals and separators

A numeral that was written is read back as the same number, it has no leading zero, and it holds nothing
but digits.  So where such texts are joined by a separator, cutting the text there gives them back.
-/

namespace DnsWarden

/-! ## Numerals -/

namespace Numeral

theorem digit?_digitChar : ∀ d < 16, digit? d.digitChar = some d := by
  decide

theorem digitIn?_digitChar {b d : Nat} (base : b ≤ 16) (lt : d < b) :
    digitIn? b d.digitChar = some d := by
  simp [digitIn?, digit?_digitChar d (Nat.lt_of_lt_of_le lt base), lt]

theorem readAfter?_append (b acc : Nat) (cs ds : List Char) :
    readAfter? b acc (cs ++ ds) = (readAfter? b acc cs).bind fun n => readAfter? b n ds := by
  induction cs generalizing acc with
  | nil => rfl
  | cons c cs ih =>
    rw [List.cons_append, readAfter?, readAfter?]
    cases digitIn? b c with
    | none => rfl
    | some d => exact ih _

theorem write_ne_nil (b n : Nat) : write b n ≠ [] := Nat.toDigits_ne_nil

theorem write_of_lt {b n : Nat} (lt : n < b) : write b n = [n.digitChar] := Nat.toDigits_of_lt_base lt

section

variable {b : Nat} (several : 1 < b)

include several

theorem write_of_le {n : Nat} (le : b ≤ n) : write b n = write b (n / b) ++ [(n % b).digitChar] :=
  Nat.toDigits_of_base_le several le

theorem readAfter?_write (base : b ≤ 16) (n : Nat) : readAfter? b 0 (write b n) = some n := by
  induction n using Nat.strong_induction_on with
  | _ n ih =>
    by_cases lt : n < b
    · simp [write_of_lt lt, readAfter?, digitIn?_digitChar base lt]
    · have le : b ≤ n := Nat.le_of_not_lt lt
      have smaller : n / b < n := Nat.div_lt_self (by omega) several
      have digit : n % b < b := Nat.mod_lt n (by omega)
      rw [write_of_le several le, readAfter?_append, ih _ smaller]
      simp [readAfter?, digitIn?_digitChar base digit, Nat.div_add_mod']

theorem read?_write (base : b ≤ 16) (n : Nat) : read? b (write b n) = some n := by
  unfold read?
  rw [if_neg (by simp [write]), readAfter?_write several base]

theorem mem_write {n : Nat} {c : Char} (h : c ∈ write b n) :
    ∃ d < b, c = d.digitChar := by
  induction n using Nat.strong_induction_on with
  | _ n ih =>
    by_cases lt : n < b
    · rw [write_of_lt lt] at h
      exact ⟨n, lt, List.mem_singleton.1 h⟩
    · have le : b ≤ n := Nat.le_of_not_lt lt
      rw [write_of_le several le] at h
      obtain h | h := List.mem_append.1 h
      · exact ih _ (Nat.div_lt_self (by omega) several) h
      · exact ⟨n % b, Nat.mod_lt n (by omega), List.mem_singleton.1 h⟩

/-- A character that is no digit is in no numeral. -/
theorem not_mem_write {n : Nat} {c : Char} (base : b ≤ 16)
    (other : digit? c = none) : c ∉ write b n := by
  intro h
  obtain ⟨d, lt, rfl⟩ := mem_write several h
  cases other.symm.trans (digit?_digitChar d (Nat.lt_of_lt_of_le lt base))

/-- Only the numeral of zero begins with a zero. -/
theorem head?_write {n : Nat} (h : (write b n).head? = some '0') : n = 0 := by
  induction n using Nat.strong_induction_on with
  | _ n ih =>
    by_cases lt : n < b
    · rw [write_of_lt lt] at h
      exact Nat.digitChar_eq_zero.1 (Option.some.inj h)
    · have le : b ≤ n := Nat.le_of_not_lt lt
      rw [write_of_le several le, List.head?_append_of_ne_nil _ (write_ne_nil _ _)] at h
      have zero : n / b = 0 := ih _ (Nat.div_lt_self (by omega) several) h
      have pos : 0 < n / b := Nat.div_pos le (by omega)
      omega

theorem length_write_le {n k : Nat} (pos : 0 < k) (lt : n < b ^ k) : (write b n).length ≤ k :=
  (Nat.length_toDigits_le_iff several pos).2 lt

end

/-- What is read as a number holds nothing but digits. -/
theorem digit?_of_read? {b n : Nat} {cs : List Char} (h : read? b cs = some n) :
    ∀ c ∈ cs, digit? c ≠ none := by
  have after : ∀ acc, readAfter? b acc cs = some n → ∀ c ∈ cs, digit? c ≠ none := by
    clear h
    induction cs with
    | nil => simp
    | cons c cs ih =>
      intro acc h
      obtain ⟨d, digit, rest⟩ := Option.bind_eq_some_iff.1 h
      refine List.forall_mem_cons.2 ⟨fun none => ?_, ih _ rest⟩
      simp [digitIn?, none] at digit
  unfold read? at h
  split_ifs at h
  exact after 0 h

end Numeral

/-! ## Separators -/

section

variable {sep : Char} {cs p : List Char} {ps : List (List Char)}

theorem cut_append (clear : sep ∉ cs) (rest : List Char) :
    cut sep (cs ++ sep :: rest) = some (cs, rest) := by
  induction cs with
  | nil => simp [cut]
  | cons c cs ih =>
    obtain ⟨other, clear⟩ := List.ne_and_not_mem_of_not_mem_cons clear
    simp [cut, Ne.symm other, ih clear]

/-- A text is cut at its first separator. -/
theorem cut_eq_some_iff {front back : List Char} :
    cut sep cs = some (front, back) ↔ cs = front ++ sep :: back ∧ sep ∉ front := by
  constructor
  · intro h
    induction cs generalizing front with
    | nil => cases h
    | cons c cs ih =>
      unfold cut at h
      split_ifs at h with same
      · cases h
        exact ⟨congrArg (· :: _) same, List.not_mem_nil⟩
      · obtain ⟨q, rest, parts⟩ := Option.map_eq_some_iff.1 h
        cases parts
        obtain ⟨rfl, clear⟩ := ih rest
        exact ⟨rfl, List.not_mem_cons_of_ne_of_not_mem (Ne.symm same) clear⟩
  · rintro ⟨rfl, clear⟩
    exact cut_append clear back

theorem pieces_of_not_mem (clear : sep ∉ cs) : pieces sep cs = [cs] := by
  induction cs with
  | nil => rfl
  | cons c cs ih =>
    obtain ⟨other, clear⟩ := List.ne_and_not_mem_of_not_mem_cons clear
    simp [pieces, Ne.symm other, ih clear]

theorem pieces_append (clear : sep ∉ cs) (rest : List Char) :
    pieces sep (cs ++ sep :: rest) = cs :: pieces sep rest := by
  induction cs with
  | nil => simp [pieces]
  | cons c cs ih =>
    obtain ⟨other, clear⟩ := List.ne_and_not_mem_of_not_mem_cons clear
    simp [pieces, Ne.symm other, ih clear]

/-- Texts without the separator are the pieces of what they make when joined by it. -/
theorem pieces_intercalate (clear : ∀ p ∈ ps, sep ∉ p) (some : ps ≠ []) :
    pieces sep (List.intercalate [sep] ps) = ps := by
  induction ps with
  | nil => exact absurd rfl some
  | cons p ps ih =>
    obtain ⟨here, clear⟩ := List.forall_mem_cons.1 clear
    cases ps with
    | nil => rw [List.intercalate_singleton, pieces_of_not_mem here]
    | cons q qs =>
      rw [List.intercalate_cons_cons, List.append_assoc, List.singleton_append, pieces_append here,
        ih clear (List.cons_ne_nil q qs)]

theorem mem_pieces {c : Char} (there : c ∈ cs) (other : c ≠ sep) : ∃ p ∈ pieces sep cs, c ∈ p := by
  induction cs with
  | nil => cases there
  | cons d cs ih =>
    by_cases same : d = sep
    · subst same
      obtain ⟨p, hp, there⟩ := ih ((List.mem_cons.1 there).resolve_left other)
      exact ⟨p, by simp [pieces, hp], there⟩
    · cases hp : pieces sep cs with
      | nil => exact absurd hp (pieces_ne_nil sep cs)
      | cons q qs =>
        simp only [pieces, same, hp, if_false]
        obtain rfl | there := List.mem_cons.1 there
        · exact ⟨c :: q, List.mem_cons_self, List.mem_cons_self⟩
        · obtain ⟨p, hp', there⟩ := ih there
          rw [hp] at hp'
          obtain rfl | later := List.mem_cons.1 hp'
          · exact ⟨d :: p, List.mem_cons_self, List.mem_cons_of_mem _ there⟩
          · exact ⟨p, List.mem_cons_of_mem _ later, there⟩

theorem cutAtPair_cons_of_ne {c : Char} (other : c ≠ sep) (cs : List Char) :
    cutAtPair sep (c :: cs) = (cutAtPair sep cs).map fun q => (c :: q.1, q.2) := by
  cases cs with
  | nil => rfl
  | cons d cs => simp [cutAtPair, other]

theorem cutAtPair_append (clear : sep ∉ p) (cs : List Char) :
    cutAtPair sep (p ++ cs) = (cutAtPair sep cs).map fun q => (p ++ q.1, q.2) := by
  induction p with
  | nil => simp
  | cons c p ih =>
    obtain ⟨other, clear⟩ := List.ne_and_not_mem_of_not_mem_cons clear
    rw [List.cons_append, cutAtPair_cons_of_ne (Ne.symm other), ih clear, Option.map_map]
    rfl

/-- A separator that stands alone is passed over. -/
theorem cutAtPair_alone (alone : cs.head? ≠ some sep) :
    cutAtPair sep (sep :: cs) = (cutAtPair sep cs).map fun q => (sep :: q.1, q.2) := by
  cases cs with
  | nil => rfl
  | cons c cs =>
    have other : c ≠ sep := fun same => alone (congrArg some same)
    simp [cutAtPair, other]

theorem cutAtPair_eq_some {front back : List Char} (h : cutAtPair sep cs = some (front, back)) :
    cs = front ++ sep :: sep :: back := by
  induction cs generalizing front with
  | nil => cases h
  | cons c cs ih =>
    cases cs with
    | nil => cases h
    | cons d cs =>
      unfold cutAtPair at h
      split_ifs at h with pair
      · obtain ⟨rfl, rfl⟩ := pair
        cases h
        rfl
      · obtain ⟨q, rest, parts⟩ := Option.map_eq_some_iff.1 h
        cases parts
        rw [ih rest, List.cons_append]

/-- Texts that hold something, but not the separator, have no pair of it between them. -/
theorem cutAtPair_intercalate (clear : ∀ p ∈ ps, sep ∉ p ∧ p ≠ []) (rest : List Char) :
    cutAtPair sep (List.intercalate [sep] ps ++ rest) =
      (cutAtPair sep rest).map fun q => (List.intercalate [sep] ps ++ q.1, q.2) := by
  induction ps with
  | nil => simp [List.intercalate]
  | cons p ps ih =>
    obtain ⟨⟨here, -⟩, clear⟩ := List.forall_mem_cons.1 clear
    cases ps with
    | nil => rw [List.intercalate_singleton, cutAtPair_append here]
    | cons q qs =>
      obtain ⟨next, some⟩ := clear q List.mem_cons_self
      have alone : (List.intercalate [sep] (q :: qs) ++ rest).head? ≠ .some sep := by
        cases q with
        | nil => exact absurd rfl some
        | cons c q =>
          have other : c ≠ sep := Ne.symm (List.ne_and_not_mem_of_not_mem_cons next).1
          cases qs <;> simpa [List.intercalate_cons_cons] using other
      rw [List.intercalate_cons_cons, List.append_assoc, List.append_assoc, List.singleton_append,
        cutAtPair_append here, cutAtPair_alone alone, ih clear, Option.map_map, Option.map_map]
      refine congrArg (Option.map · _) (funext fun q => ?_)
      simp

end

end DnsWarden
