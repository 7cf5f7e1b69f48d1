import DnsWarden.Text.Numeral

/-!
# Words of the shell language

The words and operators of a small part of the shell language: quotes, parameters and arithmetic
within words, separators, and redirections of the two output streams.
-/

namespace DnsWarden.Shell

/-- A part of a word. -/
inductive Piece where
  | plain (text : List Char)
  | quoted (text : List Char)
  /-- The value of a parameter. -/
  | param (name : List Char) (quoted : Bool)
  /-- The value of an expression, whose parameters are in its text. -/
  | arith (text : List Char)
deriving DecidableEq

/-- A word before its parameters have values. -/
abbrev Word := List Piece

/-- Where an output stream goes. -/
inductive Target where
  | stream (fd : Nat)
  | nowhere
deriving DecidableEq

/-- A word or an operator. -/
inductive Token where
  | word (w : Word)
  | separator
  | both
  | either
  | redirect (fd : Nat) (target : Target)
deriving DecidableEq

/-- Whether a character can stand in a name. -/
def isNameChar (c : Char) : Bool := c.isAlphanum || c == '_'

/-- Whether a character is a parameter by itself. -/
def isSpecial (c : Char) : Bool := c.isDigit || "@*#?$!".toList.contains c

/-- The text up to the two brackets that close an expression, and what follows them. -/
def spanArith : Nat → List Char → List Char → Option (List Char × List Char)
  | _, _, [] => none
  | 0, acc, ')' :: ')' :: r => some (acc.reverse, r)
  | depth + 1, acc, ')' :: r => spanArith depth (')' :: acc) r
  | depth, acc, '(' :: r => spanArith (depth + 1) ('(' :: acc) r
  | depth, acc, c :: r => spanArith depth (c :: acc) r

/-- Reads what follows a dollar sign. -/
def readDollar (quoted : Bool) : List Char → Option (Piece × List Char)
  | '(' :: '(' :: r => (spanArith 0 [] r).map fun (e, r) => (.arith e, r)
  | '\x7b' :: r =>
    match r.dropWhile (· ≠ '\x7d') with
    | _ :: rest => some (.param (r.takeWhile (· ≠ '\x7d')) quoted, rest)
    | [] => none
  | c :: r =>
    if isSpecial c then some (.param [c] quoted, r)
    else if isNameChar c then
      some (.param ((c :: r).takeWhile isNameChar) quoted, (c :: r).dropWhile isNameChar)
    else some (.plain ['$'], c :: r)
  | [] => some (.plain ['$'], [])

/-- Adds a quoted text to pieces in reverse, unless it is empty and need not be there. -/
def addQuoted (needed : Bool) (acc : List Char) (ps : List Piece) : List Piece :=
  if acc.isEmpty && !needed then ps else .quoted acc.reverse :: ps

/--
Reads the rest of a text between double quotes, as pieces in reverse.  An empty text is a piece only
if nothing else was between the quotes, which `bare` says; `fuel` bounds the pieces.
-/
def readDouble : Nat → Bool → List Piece → List Char → List Char →
    Option (List Piece × List Char)
  | 0, _, _, _, _ => none
  | _ + 1, _, _, _, [] => none
  | _ + 1, bare, ps, acc, '"' :: r => some (addQuoted bare acc ps, r)
  | fuel + 1, bare, ps, acc, '\\' :: c :: r =>
    if "$`\"\\".toList.contains c then readDouble fuel bare ps (c :: acc) r
    else if c = '\n' then readDouble fuel bare ps acc r
    else readDouble fuel bare ps (c :: '\\' :: acc) r
  | fuel + 1, _, ps, acc, '$' :: r =>
    match readDollar true r with
    | some (p, r) => readDouble fuel false (p :: addQuoted false acc ps) [] r
    | none => none
  | fuel + 1, bare, ps, acc, c :: r => readDouble fuel bare ps (c :: acc) r

/-- Whether a character ends a word. -/
def endsWord (c : Char) : Bool := " \t\n;&|<>()".toList.contains c

/-- Reads a word, as pieces in reverse; `fuel` bounds them. -/
def readWord : Nat → List Piece → List Char → Option (List Piece × List Char)
  | 0, _, _ => none
  | _ + 1, ps, [] => some (ps, [])
  | fuel + 1, ps, c :: r =>
    if endsWord c then some (ps, c :: r)
    else match c with
      | '\'' =>
        match r.dropWhile (· ≠ '\'') with
        | _ :: rest => readWord fuel (.quoted (r.takeWhile (· ≠ '\'')) :: ps) rest
        | [] => none
      | '"' => (readDouble fuel true ps [] r).bind fun (ps, r) => readWord fuel ps r
      | '\\' =>
        match r with
        | '\n' :: r => readWord fuel ps r
        | c :: r => readWord fuel (.quoted [c] :: ps) r
        | [] => readWord fuel (.quoted ['\\'] :: ps) []
      | '$' => (readDollar false r).bind fun (p, r) => readWord fuel (p :: ps) r
      | c =>
        match ps with
        | .plain t :: ps => readWord fuel (.plain (t ++ [c]) :: ps) r
        | ps => readWord fuel (.plain [c] :: ps) r

/-- Reads what follows the sign of a redirection: a stream, or a file that swallows everything. -/
def readTarget (fuel : Nat) : List Char → Option (Target × List Char)
  | '&' :: '1' :: r => some (.stream 1, r)
  | '&' :: '2' :: r => some (.stream 2, r)
  | '&' :: '-' :: r => some (.nowhere, r)
  | '>' :: r => (readWord fuel [] (r.dropWhile (· = ' '))).map fun (_, r) => (.nowhere, r)
  | r => (readWord fuel [] (r.dropWhile (· = ' '))).map fun (_, r) => (.nowhere, r)

/-- The tokens of a text; `fuel` bounds them. -/
def tokens : Nat → List Char → Option (List Token)
  | 0, _ => none
  | _ + 1, [] => some []
  | fuel + 1, ' ' :: r => tokens fuel r
  | fuel + 1, '\t' :: r => tokens fuel r
  | fuel + 1, '#' :: r => tokens fuel (r.dropWhile (· ≠ '\n'))
  | fuel + 1, '\n' :: r => (tokens fuel r).map (.separator :: ·)
  | fuel + 1, ';' :: r => (tokens fuel r).map (.separator :: ·)
  | fuel + 1, '&' :: '&' :: r => (tokens fuel r).map (.both :: ·)
  | fuel + 1, '|' :: '|' :: r => (tokens fuel r).map (.either :: ·)
  | fuel + 1, '2' :: '>' :: r =>
    (readTarget fuel r).bind fun (t, r) => (tokens fuel r).map (.redirect 2 t :: ·)
  | fuel + 1, '1' :: '>' :: r =>
    (readTarget fuel r).bind fun (t, r) => (tokens fuel r).map (.redirect 1 t :: ·)
  | fuel + 1, '>' :: r =>
    (readTarget fuel r).bind fun (t, r) => (tokens fuel r).map (.redirect 1 t :: ·)
  | fuel + 1, c :: r =>
    if endsWord c then none
    else (readWord fuel [] (c :: r)).bind fun (ps, r) =>
      (tokens fuel r).map (.word ps.reverse :: ·)

end DnsWarden.Shell
