import DnsWarden.Simulation.Shell.Word

/-!
# Scripts of the shell language

Simple commands with assignments and redirections, sequences, conditions and loops.
-/

namespace DnsWarden.Shell

inductive Cmd where
  | nothing
  | simple (assignments : List (List Char × Word)) (words : List Word)
      (redirects : List (Nat × Target))
  | seq (a b : Cmd)
  | both (a b : Cmd)
  | either (a b : Cmd)
  | negation (a : Cmd)
  /-- Repeats the body while the condition succeeds, or while it fails. -/
  | loop (whileOk : Bool) (condition body : Cmd)
  | branch (condition yes no : Cmd)
  | each (name : List Char) (words : List Word) (body : Cmd)
deriving Inhabited

/-- The word that a token is, if it has no quotes or parameters. -/
def keyword? : Token → Option (List Char)
  | .word [.plain t] => some t
  | _ => none

/-- Whether a token is this word. -/
def isKeyword (s : String) (t : Token) : Bool := keyword? t == some s.toList

/-- The words that end a list of commands. -/
def endsList (t : Token) : Bool :=
  ["do", "done", "then", "else", "elif", "fi", "\x7d"].any fun s => isKeyword s t

/-- Splits an assignment into the name and the value. -/
def assignment? : Word → Option (List Char × Word)
  | .plain t :: ps =>
    match t.dropWhile isNameChar with
    | '=' :: v =>
      let name := t.takeWhile isNameChar
      if name.isEmpty || name.head?.any Char.isDigit then none
      else some (name, if v.isEmpty then ps else .plain v :: ps)
    | _ => none
  | _ => none

/-- Reads the tokens of a simple command. -/
def readSimple : List Token → List (List Char × Word) → List Word → List (Nat × Target) →
    Cmd × List Token
  | .word w :: r, as, ws, rs =>
    match ws.isEmpty, assignment? w with
    | true, some a => readSimple r (as ++ [a]) ws rs
    | _, _ => readSimple r as (ws ++ [w]) rs
  | .redirect fd t :: r, as, ws, rs => readSimple r as ws (rs ++ [(fd, t)])
  | r, as, ws, rs => (.simple as ws rs, r)

def skipSeparators (ts : List Token) : List Token := ts.dropWhile (· = .separator)

/-- Drops a word that has to come next. -/
def expect? (s : String) : List Token → Option (List Token)
  | t :: r => if isKeyword s t then some r else none
  | [] => none

mutual

/-- Reads commands up to a word that ends the list; `fuel` bounds the depth. -/
def readList : Nat → List Token → Option (Cmd × List Token)
  | 0, _ => none
  | fuel + 1, ts =>
    match skipSeparators ts with
    | [] => some (.nothing, [])
    | t :: r =>
      if endsList t then some (.nothing, t :: r)
      else
        (readChain fuel (t :: r)).bind fun (a, r) =>
          (readList fuel r).map fun (b, r) => (.seq a b, r)

/-- Reads commands that hang on each other's success. -/
def readChain : Nat → List Token → Option (Cmd × List Token)
  | 0, _ => none
  | fuel + 1, ts => (readCommand fuel ts).bind fun (a, r) => readLinks fuel a r

/-- Reads the further links of a chain. -/
def readLinks : Nat → Cmd → List Token → Option (Cmd × List Token)
  | 0, _, _ => none
  | fuel + 1, a, .both :: r =>
    (readCommand fuel (skipSeparators r)).bind fun (b, r) => readLinks fuel (.both a b) r
  | fuel + 1, a, .either :: r =>
    (readCommand fuel (skipSeparators r)).bind fun (b, r) => readLinks fuel (.either a b) r
  | _ + 1, a, r => some (a, r)

def readCommand : Nat → List Token → Option (Cmd × List Token)
  | 0, _ => none
  | _ + 1, [] => none
  | fuel + 1, t :: r =>
    if isKeyword "!" t then (readCommand fuel r).map fun (a, r) => (.negation a, r)
    else if isKeyword "while" t || isKeyword "until" t then
      (readList fuel r).bind fun (c, r) => (expect? "do" r).bind fun r =>
        (readList fuel r).bind fun (b, r) => (expect? "done" r).map fun r =>
          (.loop (isKeyword "while" t) c b, r)
    else if isKeyword "if" t then readBranch fuel r
    else if isKeyword "\x7b" t then
      (readList fuel r).bind fun (c, r) => (expect? "\x7d" r).map fun r => (c, r)
    else if isKeyword "for" t then
      match r with
      | .word [.plain name] :: r =>
        (expect? "in" r).bind fun r =>
          let words := (r.takeWhile (· ≠ .separator)).filterMap fun
            | .word w => some w
            | _ => none
          (expect? "do" (skipSeparators (r.dropWhile (· ≠ .separator)))).bind fun r =>
            (readList fuel r).bind fun (b, r) => (expect? "done" r).map fun r =>
              (.each name words b, r)
      | _ => none
    else some (readSimple (t :: r) [] [] [])

def readBranch : Nat → List Token → Option (Cmd × List Token)
  | 0, _ => none
  | fuel + 1, ts =>
    (readList fuel ts).bind fun (c, r) => (expect? "then" r).bind fun r =>
      (readList fuel r).bind fun (a, r) =>
        match r with
        | [] => none
        | t :: r =>
          if isKeyword "fi" t then some (.branch c a .nothing, r)
          else if isKeyword "elif" t then
            (readBranch fuel r).map fun (b, r) => (.branch c a b, r)
          else if isKeyword "else" t then
            (readList fuel r).bind fun (b, r) => (expect? "fi" r).map fun r => (.branch c a b, r)
          else none

end

def parse? (text : List Char) : Option Cmd :=
  (tokens (2 * text.length + 2) text).bind fun ts =>
    match readList (4 * ts.length + 8) ts with
    | some (c, []) => some c
    | _ => none

end DnsWarden.Shell
