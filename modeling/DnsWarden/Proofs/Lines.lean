import DnsWarden.Text.Lines
import Mathlib.Tactic.SplitIfs

/-!
# Lines and words of what is written

A line that is written with a line end behind it is read back as the same line, unless it ends in a
carriage return: one of these passes for a part of the line end.  As a carriage return is a blank, the
words of the line are the same in any case: `lines_append_newline` and `words_withoutReturn`.
-/

namespace DnsWarden

/-- A character before the first of the pieces, or by itself if there is none. -/
def attach (c : Char) : List (List Char) → List (List Char)
  | [] => [[c]]
  | p :: ps => (c :: p) :: ps

theorem attach_cons (c : Char) (p : List Char) (ps : List (List Char)) :
    attach c (p :: ps) = (c :: p) :: ps := rfl

/-! ## Words -/

theorem isBlank_return : isBlank '\r' = true := by decide

section

variable {c d : Char} {w : List Char}

theorem words_alone (solid : isBlank c = false) : words [c] = [[c]] := if_neg (by simp [solid])

/-- A character before a blank is a word of its own. -/
theorem words_cons_blank (solid : isBlank c = false) (blank : isBlank d = true) (r : List Char) :
    words (c :: d :: r) = [c] :: words (d :: r) :=
  (if_neg (by simp [solid])).trans (if_pos blank)

/-- A character before another one that is no blank belongs to the same word. -/
theorem words_cons_solid (solid : isBlank c = false) (solid' : isBlank d = false) (r : List Char) :
    words (c :: d :: r) = attach c (words (d :: r)) := by
  refine (if_neg (by simp [solid])).trans ((if_neg (by simp [solid'])).trans ?_)
  cases words (d :: r) <;> rfl

/-- A blank at the end of a text is in no word. -/
theorem words_append_blank (blank : isBlank d = true) (cs : List Char) :
    words (cs ++ [d]) = words cs := by
  induction cs with
  | nil => exact words_blank blank []
  | cons c cs ih =>
    by_cases here : isBlank c = true
    · rw [List.cons_append, words_blank here, words_blank here, ih]
    · have solid : isBlank c = false := eq_false_of_ne_true here
      cases cs with
      | nil =>
        show words [c, d] = words [c]
        rw [words_cons_blank solid blank, words_blank blank, words_alone solid]
        rfl
      | cons e cs =>
        rw [List.cons_append] at ih
        rw [List.cons_append, List.cons_append]
        by_cases next : isBlank e = true
        · rw [words_cons_blank solid next, words_cons_blank solid next, ih]
        · have solid' : isBlank e = false := eq_false_of_ne_true next
          rw [words_cons_solid solid solid', words_cons_solid solid solid', ih]

/-- A text without blanks is one word. -/
theorem words_of_solid (solid : ∀ c ∈ w, isBlank c = false) (some : w ≠ []) : words w = [w] := by
  induction w with
  | nil => exact absurd rfl some
  | cons c w ih =>
    obtain ⟨here, later⟩ := List.forall_mem_cons.1 solid
    cases w with
    | nil => exact words_alone here
    | cons d w =>
      rw [words_cons_solid here (later d List.mem_cons_self), ih later (List.cons_ne_nil d w),
        attach_cons]

/-- A text without blanks is the first word if a blank follows it. -/
theorem words_append_cons (solid : ∀ c ∈ w, isBlank c = false) (some : w ≠ [])
    (blank : isBlank d = true) (r : List Char) : words (w ++ d :: r) = w :: words r := by
  induction w with
  | nil => exact absurd rfl some
  | cons c w ih =>
    obtain ⟨here, later⟩ := List.forall_mem_cons.1 solid
    cases w with
    | nil =>
      rw [List.singleton_append, words_cons_blank here blank, words_blank blank]
    | cons e w =>
      have rest := ih later (List.cons_ne_nil e w)
      rw [List.cons_append] at rest
      rw [List.cons_append, List.cons_append,
        words_cons_solid here (later e List.mem_cons_self), rest, attach_cons]

end

/-! ## Lines -/

/-- A line as it is read back: a carriage return at its end is taken for a part of the line end. -/
def withoutReturn (l : List Char) : List Char :=
  if l.getLast? = some '\r' then l.dropLast else l

theorem withoutReturn_of_ne {l : List Char} (clear : l.getLast? ≠ some '\r') :
    withoutReturn l = l := if_neg clear

theorem map_withoutReturn {ls : List (List Char)} (clear : ∀ l ∈ ls, l.getLast? ≠ some '\r') :
    ls.map withoutReturn = ls :=
  (List.map_congr_left fun l there => withoutReturn_of_ne (clear l there)).trans (List.map_id ls)

theorem withoutReturn_cons_cons (c d : Char) (l : List Char) :
    withoutReturn (c :: d :: l) = c :: withoutReturn (d :: l) := by
  unfold withoutReturn
  rw [List.getLast?_cons_cons]
  split_ifs <;> rfl

theorem words_withoutReturn (l : List Char) : words (withoutReturn l) = words l := by
  unfold withoutReturn
  split_ifs with last
  · obtain ⟨front, rfl⟩ := List.getLast?_eq_some_iff.1 last
    rw [List.dropLast_concat, words_append_blank isBlank_return]
  · rfl

section

variable {c : Char} {l cs : List Char}

/-- A character that neither ends a line nor stands at its end belongs to the next line. -/
theorem lines_cons (other : c ≠ '\n') (inside : c ≠ '\r' ∨ cs.head? ≠ some '\n') :
    lines (c :: cs) = attach c (lines cs) := by
  rw [lines]
  · rfl
  · exact other
  · rintro r rfl rfl
    simp at inside

theorem newline_not_mem_of_mem_lines (h : l ∈ lines cs) : '\n' ∉ l := by
  fun_induction lines cs generalizing l with
  | case1 => cases h
  | case2 r ih | case3 r ih =>
    obtain rfl | h := List.mem_cons.1 h
    · exact List.not_mem_nil
    · exact ih h
  | case4 c r other _ none ih =>
    obtain rfl := List.mem_singleton.1 h
    simpa using Ne.symm other
  | case5 c r other _ first rest some ih =>
    rw [some] at ih
    obtain rfl | h := List.mem_cons.1 h
    · exact List.not_mem_cons_of_ne_of_not_mem (Ne.symm other) (ih List.mem_cons_self)
    · exact ih (List.mem_cons_of_mem first h)

/-- A line with a line end behind it is read back, but for a carriage return at its end. -/
theorem lines_append_newline (clear : '\n' ∉ l) (rest : List Char) :
    lines (l ++ '\n' :: rest) = withoutReturn l :: lines rest := by
  induction l with
  | nil => rfl
  | cons c l ih =>
    obtain ⟨other, clear⟩ := List.ne_and_not_mem_of_not_mem_cons clear
    cases l with
    | nil =>
      by_cases last : c = '\r'
      · subst last
        rfl
      · rw [List.singleton_append, lines_cons (Ne.symm other) (.inl last), lines_newline,
          attach_cons, withoutReturn_of_ne (by simpa using last)]
    | cons d l =>
      have inside : (d :: l ++ '\n' :: rest).head? ≠ some '\n' := by
        simpa using Ne.symm (List.ne_and_not_mem_of_not_mem_cons clear).1
      rw [List.cons_append, lines_cons (Ne.symm other) (.inr inside), ih clear,
        attach_cons, withoutReturn_cons_cons]

end

end DnsWarden
