/-!
# Lines and words

A line ends at a line feed, or at a carriage return directly before one; a carriage return anywhere
else belongs to its line, and text after the last line end is a line of its own.  Words are what
stands between blanks, the twenty-five characters that Unicode calls white space.
-/

namespace DnsWarden

/-- The lines of a text, without their ends. -/
def lines : List Char → List (List Char)
  | [] => []
  | '\n' :: r => [] :: lines r
  | '\r' :: '\n' :: r => [] :: lines r
  | c :: r =>
    match lines r with
    | [] => [[c]]
    | l :: ls => (c :: l) :: ls

/-- White space in the sense of Unicode. -/
def isBlank (c : Char) : Bool :=
  let n := c.toNat
  (9 ≤ n && n ≤ 13) || n == 0x20 || n == 0x85 || n == 0xa0 || n == 0x1680
    || (0x2000 ≤ n && n ≤ 0x200a) || n == 0x2028 || n == 0x2029 || n == 0x202f || n == 0x205f
    || n == 0x3000

def words : List Char → List (List Char)
  | [] => []
  | c :: r =>
    if isBlank c then words r
    else match r with
      | [] => [[c]]
      | d :: _ =>
        if isBlank d then [c] :: words r
        else match words r with
          | [] => [[c]]
          | w :: ws => (c :: w) :: ws

/-! ## Laws -/

theorem lines_newline (r : List Char) : lines ('\n' :: r) = [] :: lines r := rfl

theorem isBlank_newline : isBlank '\n' = true := by decide

theorem isBlank_space : isBlank ' ' = true := by decide

theorem words_blank {c : Char} (h : isBlank c = true) (r : List Char) : words (c :: r) = words r :=
  if_pos h

end DnsWarden
