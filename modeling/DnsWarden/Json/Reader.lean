import DnsWarden.Json
import DnsWarden.Text.Numeral

/-!
# Reading JSON

A recursive reader over characters.  Every value takes at least one character, so the length of the
text bounds the depth of the recursion.  Of several fields of one name the last one counts.
-/

namespace DnsWarden.Json

def skipBlanks : List Char → List Char
  | ' ' :: r => skipBlanks r
  | '\n' :: r => skipBlanks r
  | '\r' :: r => skipBlanks r
  | '\t' :: r => skipBlanks r
  | cs => cs

def readUnit? : List Char → Option (Nat × List Char)
  | a :: b :: c :: d :: r => (Numeral.read? 16 [a, b, c, d]).map fun n => (n, r)
  | _ => none

/-- Reads what follows `\u`: one unit, or a pair of surrogates. -/
def readCodePoint? (cs : List Char) : Option (Char × List Char) :=
  match readUnit? cs with
  | none => none
  | some (n, r) =>
    if 0xdc00 ≤ n ∧ n < 0xe000 then none
    else if 0xd800 ≤ n ∧ n < 0xdc00 then
      match r with
      | '\\' :: 'u' :: r =>
        match readUnit? r with
        | some (m, r) =>
          if 0xdc00 ≤ m ∧ m < 0xe000 then
            some (Char.ofNat (0x10000 + (n - 0xd800) * 0x400 + (m - 0xdc00)), r)
          else none
        | none => none
      | _ => none
    else some (Char.ofNat n, r)

/-- Reads the rest of a string after its opening quote; `fuel` bounds its length. -/
def readString? : Nat → List Char → List Char → Option (String × List Char)
  | 0, _, _ => none
  | _ + 1, _, [] => none
  | fuel + 1, acc, c :: r =>
    if c = '"' then some (String.ofList acc.reverse, r)
    else if c.toNat < 0x20 then none
    else if c ≠ '\\' then readString? fuel (c :: acc) r
    else match r with
      | '"' :: r => readString? fuel ('"' :: acc) r
      | '\\' :: r => readString? fuel ('\\' :: acc) r
      | '/' :: r => readString? fuel ('/' :: acc) r
      | 'b' :: r => readString? fuel ('\x08' :: acc) r
      | 'f' :: r => readString? fuel ('\x0c' :: acc) r
      | 'n' :: r => readString? fuel ('\n' :: acc) r
      | 'r' :: r => readString? fuel ('\r' :: acc) r
      | 't' :: r => readString? fuel ('\t' :: acc) r
      | 'u' :: r =>
        match readCodePoint? r with
        | some (c, r) => readString? fuel (c :: acc) r
        | none => none
      | _ => none

/-- The characters that numbers are made of. -/
def isNumberChar (c : Char) : Bool :=
  c.isDigit || c == '-' || c == '+' || c == '.' || c == 'e' || c == 'E'

def spanDigits (cs : List Char) : List Char × List Char :=
  (cs.takeWhile Char.isDigit, cs.dropWhile Char.isDigit)

/-- Whether a text has the form of a number's fraction and exponent, either of which may lack. -/
def isTail (cs : List Char) : Bool :=
  let afterFraction? : Option (List Char) :=
    match cs with
    | '.' :: r => if (spanDigits r).1.isEmpty then none else some (spanDigits r).2
    | r => some r
  match afterFraction? with
  | none => false
  | some [] => true
  | some (e :: r) =>
    (e == 'e' || e == 'E') &&
      let digits := match r with
        | '+' :: r => r
        | '-' :: r => r
        | r => r
      !digits.isEmpty && digits.all Char.isDigit

/-- The value of the characters of a number. -/
def number? (cs : List Char) : Option Json :=
  let unsigned := match cs with
    | '-' :: r => r
    | r => r
  let (whole, tail) := spanDigits unsigned
  if whole.isEmpty ∨ (whole.head? = some '0' ∧ 1 < whole.length) ∨ ¬ isTail tail then none
  else if !tail.isEmpty || (cs.head? == some '-' && whole == ['0']) then
    some (.decimal (String.ofList cs))
  else
    (Numeral.read? 10 whole).map fun n =>
      .int (if cs.head? = some '-' then - Int.ofNat n else Int.ofNat n)

mutual

/-- Reads a value; `fuel` bounds the depth. -/
def readValue? : Nat → List Char → Option (Json × List Char)
  | 0, _ => none
  | fuel + 1, cs =>
    match skipBlanks cs with
    | 'n' :: 'u' :: 'l' :: 'l' :: r => some (.null, r)
    | 't' :: 'r' :: 'u' :: 'e' :: r => some (.bool true, r)
    | 'f' :: 'a' :: 'l' :: 's' :: 'e' :: r => some (.bool false, r)
    | '"' :: r => (readString? (r.length + 1) [] r).map fun p => (.str p.1, p.2)
    | '[' :: r =>
      match skipBlanks r with
      | ']' :: r => some (.arr [], r)
      | _ => readItems? fuel [] r
    | '\x7b' :: r =>
      match skipBlanks r with
      | '\x7d' :: r => some (.obj [], r)
      | _ => readFields? fuel [] r
    | r =>
      (number? (r.takeWhile isNumberChar)).map fun n => (n, r.dropWhile isNumberChar)

/-- Reads the items of an array that are left, and its end. -/
def readItems? : Nat → List Json → List Char → Option (Json × List Char)
  | 0, _, _ => none
  | fuel + 1, acc, cs =>
    match readValue? fuel cs with
    | none => none
    | some (v, r) =>
      match skipBlanks r with
      | ',' :: r => readItems? fuel (v :: acc) r
      | ']' :: r => some (.arr (v :: acc).reverse, r)
      | _ => none

/-- Reads the fields of an object that are left, and its end. -/
def readFields? : Nat → List (String × Json) → List Char → Option (Json × List Char)
  | 0, _, _ => none
  | fuel + 1, acc, cs =>
    match skipBlanks cs with
    | '"' :: r =>
      match readString? (r.length + 1) [] r with
      | none => none
      | some (name, r) =>
        match skipBlanks r with
        | ':' :: r =>
          match readValue? fuel r with
          | none => none
          | some (v, r) =>
            match skipBlanks r with
            | ',' :: r => readFields? fuel (assign name v acc) r
            | '\x7d' :: r => some (.obj (assign name v acc), r)
            | _ => none
        | _ => none
    | _ => none

end

/-- Reads a whole text as one value. -/
def parse? (s : String) : Option Json :=
  let cs := s.toList
  match readValue? (2 * cs.length + 2) cs with
  | some (v, r) => if (skipBlanks r).isEmpty then some v else none
  | none => none

end DnsWarden.Json
