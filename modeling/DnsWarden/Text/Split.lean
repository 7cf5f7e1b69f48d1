/-!
# Cutting a text at a separator

`cut` divides at the first occurrence of one character, `cutAtPair` at the first place where it
stands twice, and `pieces` at every occurrence.
-/

namespace DnsWarden

/-- The parts before and after the first `sep`. -/
def cut (sep : Char) : List Char → Option (List Char × List Char)
  | [] => none
  | c :: r => if c = sep then some ([], r) else (cut sep r).map fun p => (c :: p.1, p.2)

/-- The parts before and after the first place where `sep` stands twice in a row. -/
def cutAtPair (sep : Char) : List Char → Option (List Char × List Char)
  | [] => none
  | [_] => none
  | c :: d :: r =>
    if c = sep ∧ d = sep then some ([], r)
    else (cutAtPair sep (d :: r)).map fun p => (c :: p.1, p.2)

/-- The parts between all occurrences of `sep`, of which there is always at least one. -/
def pieces (sep : Char) : List Char → List (List Char)
  | [] => [[]]
  | c :: r =>
    if c = sep then [] :: pieces sep r
    else match pieces sep r with
      | [] => [[c]]
      | p :: ps => (c :: p) :: ps

/-! ## Laws -/

theorem cut_eq_none {sep : Char} {cs : List Char} : cut sep cs = none ↔ sep ∉ cs := by
  induction cs with
  | nil => simp [cut]
  | cons c r ih =>
    by_cases h : c = sep
    · simp [cut, h]
    · simp [cut, h, ih, Ne.symm h]

theorem pieces_ne_nil (sep : Char) (cs : List Char) : pieces sep cs ≠ [] := by
  cases cs with
  | nil => simp [pieces]
  | cons c r =>
    by_cases h : c = sep
    · simp [pieces, h]
    · simp only [pieces, h, if_false]
      split <;> simp

theorem intercalate_pieces (sep : Char) (cs : List Char) :
    List.intercalate [sep] (pieces sep cs) = cs := by
  induction cs with
  | nil => rfl
  | cons c r ih =>
    cases hp : pieces sep r with
    | nil => exact absurd hp (pieces_ne_nil sep r)
    | cons p ps =>
      rw [hp] at ih
      by_cases h : c = sep
      · rw [pieces, if_pos h, hp, List.intercalate_cons_cons, ih, h]
        rfl
      · cases ps with
        | nil => simpa [pieces, h, hp] using ih
        | cons q qs =>
          rw [List.intercalate_cons_cons] at ih
          simp only [pieces, h, hp, if_false, List.intercalate_cons_cons, List.cons_append, ih]

end DnsWarden
