/-!
# Numerals

Natural numbers written in a base up to sixteen, with lower-case digits and no leading zero, and
read back from digits of either case.  `read?` accepts any number of leading zeros; the formats
that refuse them say so themselves.
-/

namespace DnsWarden.Numeral

/-- The digits of `n` in base `b`, most significant first. -/
def write (b n : Nat) : List Char :=
  Nat.toDigits b n

/-- The value of a digit below sixteen. -/
def digit? (c : Char) : Option Nat :=
  if '0' ≤ c ∧ c ≤ '9' then some (c.toNat - '0'.toNat)
  else if 'a' ≤ c ∧ c ≤ 'f' then some (c.toNat - 'a'.toNat + 10)
  else if 'A' ≤ c ∧ c ≤ 'F' then some (c.toNat - 'A'.toNat + 10)
  else none

/-- The value of a digit that base `b` has. -/
def digitIn? (b : Nat) (c : Char) : Option Nat :=
  (digit? c).filter (· < b)

/-- Reads digits after a number whose digits so far have the value `acc`. -/
def readAfter? (b acc : Nat) : List Char → Option Nat
  | [] => some acc
  | c :: r => (digitIn? b c).bind fun d => readAfter? b (acc * b + d) r

/-- Reads a nonempty list of digits of base `b`. -/
def read? (b : Nat) (cs : List Char) : Option Nat :=
  if cs.isEmpty then none else readAfter? b 0 cs

/-- Reads a number below `bound` in base ten, which may carry one plus sign. -/
def readBelow? (bound : Nat) : List Char → Option Nat
  | '+' :: r => (read? 10 r).filter (· < bound)
  | cs => (read? 10 cs).filter (· < bound)

/-- Pads a numeral on the left with zeros to `width` digits. -/
def pad (width : Nat) (cs : List Char) : List Char :=
  List.replicate (width - cs.length) '0' ++ cs

end DnsWarden.Numeral
