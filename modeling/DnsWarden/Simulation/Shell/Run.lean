import DnsWarden.Fault.ExitStatus
import DnsWarden.Simulation.Shell.Script

/-!
# Running scripts

A script prints bytes on two streams and ends with an exit status, unless somebody stops it while it
sleeps.  Its input is empty.  Commands that are not known are reported as such.
-/

namespace DnsWarden.Shell

/-- How a script goes on after a command. -/
inductive Flow where
  | next
  /-- The script ends. -/
  | ended (s : ExitStatus)
  /-- The script was stopped while it slept. -/
  | stopped
  /-- Leaves a loop, or its current round. -/
  | leave (round : Bool)
  /-- It goes on for too long. -/
  | endless
deriving DecidableEq

/-- The state of a script. -/
structure State where
  /-- What the parameter `0` stands for. -/
  name : String
  args : List String
  vars : List (List Char × List Char) := []
  /-- The exit code of the last command. -/
  code : Nat := 0
  out : ByteArray := .empty
  err : ByteArray := .empty
  /-- How many lines on the first stream make somebody stop the script when it sleeps. -/
  stopAfter : Option Nat := none

namespace State

def get (s : State) (name : List Char) : List Char :=
  ((s.vars.find? fun v => v.1 = name).map Prod.snd).getD []

def set (s : State) (name value : List Char) : State :=
  { s with vars := (name, value) :: s.vars.filter fun v => v.1 ≠ name }

def put (s : State) (fd : Nat) (bytes : List UInt8) : State :=
  match fd with
  | 1 => { s with out := bytes.foldl ByteArray.push s.out }
  | 2 => { s with err := bytes.foldl ByteArray.push s.err }
  | _ => s

def exitCode (s : State) (code : Nat) : State := { s with code }

/-- The number of lines on the first stream that are complete. -/
def linesOut (s : State) : Nat := s.out.toList.count 10

/-- The values that a parameter has. -/
def values (s : State) (name : List Char) : List (List Char) :=
  match name with
  | ['@'] | ['*'] => s.args.map String.toList
  | ['#'] => [Numeral.write 10 s.args.length]
  | ['?'] => [Numeral.write 10 s.code]
  | ['$'] => ["4242".toList]
  | ['!'] => [[]]
  | ['0'] => [s.name.toList]
  | name =>
    match Numeral.read? 10 name with
    | some (n + 1) => [(s.args[n]?.map String.toList).getD []]
    | some 0 => [s.name.toList]
    | none => [s.get name]

end State

def bytesOf (cs : List Char) : List UInt8 := (String.ofList cs).toUTF8.toList

/-! ## Arithmetic -/

def writeInt (n : Int) : List Char :=
  if n < 0 then '-' :: Numeral.write 10 n.natAbs else Numeral.write 10 n.natAbs

/-- Reads an integer with an optional sign; anything else counts as zero. -/
def readInt? : List Char → Option Int
  | '-' :: r => (Numeral.read? 10 r).map fun n => - Int.ofNat n
  | '+' :: r => (Numeral.read? 10 r).map Int.ofNat
  | r => (Numeral.read? 10 r).map Int.ofNat

def skip (cs : List Char) : List Char := cs.dropWhile fun c => c = ' ' || c = '\t' || c = '\n'

/-- One for true and zero for false. -/
def truth (b : Bool) : Int := if b then 1 else 0

/-- The operators of one rank, the loosest rank first. -/
def operators : Nat → List (String × (Int → Int → Int))
  | 0 => [("==", fun a b => truth (a == b)), ("!=", fun a b => truth (a != b))]
  | 1 => [("<=", fun a b => truth (a ≤ b)), (">=", fun a b => truth (b ≤ a)),
      ("<", fun a b => truth (a < b)), (">", fun a b => truth (b < a))]
  | 2 => [("+", (· + ·)), ("-", (· - ·))]
  | 3 => [("*", (· * ·)), ("/", Int.tdiv), ("%", Int.tmod)]
  | _ => []

/-- The operator at the head of a text. -/
def operatorAt? (rank : Nat) (cs : List Char) : Option ((Int → Int → Int) × List Char) :=
  (operators rank).findSome? fun (name, f) =>
    if name.toList.isPrefixOf cs then some (f, cs.drop name.length) else none

mutual

/-- The value of an expression of a rank; `fuel` bounds the depth. -/
def evalRank (s : State) : Nat → Nat → List Char → Option (Int × List Char)
  | 0, _, _ => none
  | fuel + 1, rank, cs =>
    if rank < 4 then
      (evalRank s fuel (rank + 1) cs).bind fun (a, r) => evalRest s fuel rank a r
    else
      match skip cs with
      | '(' :: r =>
        (evalRank s fuel 0 r).bind fun (a, r) =>
          match skip r with
          | ')' :: r => some (a, r)
          | _ => none
      | '-' :: r => (evalRank s fuel 4 r).map fun (a, r) => (-a, r)
      | '+' :: r => evalRank s fuel 4 r
      | '$' :: r => evalRank s fuel 4 r
      | c :: r =>
        if c.isDigit then
          (readInt? ((c :: r).takeWhile Char.isDigit)).map fun n =>
            (n, (c :: r).dropWhile Char.isDigit)
        else if isNameChar c then
          some ((readInt? (s.get ((c :: r).takeWhile isNameChar))).getD 0,
            (c :: r).dropWhile isNameChar)
        else none
      | [] => none

/-- Goes on with the operators of a rank. -/
def evalRest (s : State) : Nat → Nat → Int → List Char → Option (Int × List Char)
  | 0, _, _, _ => none
  | fuel + 1, rank, a, cs =>
    match operatorAt? rank (skip cs) with
    | none => some (a, cs)
    | some (f, r) =>
      (evalRank s fuel (rank + 1) r).bind fun (b, r) => evalRest s fuel rank (f a b) r

end

def evalArith (s : State) (cs : List Char) : List Char :=
  match evalRank s (8 * cs.length + 8) 0 cs with
  | some (n, _) => writeInt n
  | none => ['0']

/-! ## Words -/

/-- A field under construction: its characters so far, and whether it is there even if empty. -/
structure Field where
  chars : List Char := []
  there : Bool := false

/-- Adds characters to the last field. -/
def addTo (fs : List Field) (cs : List Char) : List Field :=
  match fs with
  | [] => [{ chars := cs, there := true }]
  | f :: fs => { chars := f.chars ++ cs, there := true } :: fs

/-- Adds a value that is split at blanks. -/
def addSplit : List Field → List Char → List Field
  | fs, [] => fs
  | fs, c :: r =>
    if c = ' ' || c = '\t' || c = '\n' then
      match fs with
      | f :: _ => addSplit (if f.there then {} :: fs else fs) r
      | [] => addSplit fs r
    else addSplit (addTo fs [c]) r

/-- Adds values each of which is a field of its own but for the joints. -/
def addAll : List Field → List (List Char) → List Field
  | fs, [] => fs
  | fs, [v] => addTo fs v
  | fs, v :: vs => addAll ({} :: addTo fs v) vs

/-- The fields of a word, the last one first. -/
def fieldsOf (s : State) : List Field → Word → List Field
  | fs, [] => fs
  | fs, .plain t :: ps => fieldsOf s (addTo fs t) ps
  | fs, .quoted t :: ps => fieldsOf s (addTo fs t) ps
  | fs, .param ['@'] true :: ps => fieldsOf s (addAll fs (s.values ['@'])) ps
  | fs, .param name true :: ps =>
    fieldsOf s (addTo fs (List.intercalate [' '] (s.values name))) ps
  | fs, .param name false :: ps =>
    fieldsOf s (addSplit fs (List.intercalate [' '] (s.values name))) ps
  | fs, .arith e :: ps => fieldsOf s (addTo fs (evalArith s e)) ps

/-- The texts that a word stands for. -/
def expand (s : State) (w : Word) : List (List Char) :=
  ((fieldsOf s [] w).reverse.filter Field.there).map Field.chars

/-- The one text that a word stands for. -/
def expandOne (s : State) (w : Word) : List Char := List.intercalate [' '] (expand s w)

/-! ## Printing -/

/-- Whether a character is an octal digit. -/
def isOctal (c : Char) : Bool := '0' ≤ c && c ≤ '7'

/-- The byte of up to three octal digits. -/
def octalByte (cs : List Char) : UInt8 := UInt8.ofNat ((Numeral.read? 8 cs).getD 0)

/-- The character that a letter after a backslash stands for. -/
def control? : Char → Option UInt8
  | 'a' => some 7
  | 'b' => some 8
  | 't' => some 9
  | 'n' => some 10
  | 'v' => some 11
  | 'f' => some 12
  | 'r' => some 13
  | '\\' => some 92
  | '"' => some 34
  | _ => none

/-- The bytes that what follows a backslash stands for, and the rest. -/
def escape (cs : List Char) : List UInt8 × List Char :=
  match cs with
  | [] => ([92], [])
  | c :: r =>
    if isOctal c then
      let digits := (cs.take 3).takeWhile isOctal
      ([octalByte digits], cs.drop digits.length)
    else match control? c with
      | some b => ([b], r)
      | none => (92 :: bytesOf [c], r)

/-- The bytes of a text with backslashes; `fuel` bounds its length. -/
def unescape : Nat → List Char → List UInt8
  | 0, _ => []
  | _ + 1, [] => []
  | fuel + 1, '\\' :: '0' :: r =>
    let digits := (r.take 3).takeWhile isOctal
    octalByte ('0' :: digits) :: unescape fuel (r.drop digits.length)
  | fuel + 1, '\\' :: r =>
    let (bs, r) := escape r
    bs ++ unescape fuel r
  | fuel + 1, c :: r => bytesOf [c] ++ unescape fuel r

/-- The text of an argument in a numeric conversion. -/
def conversion (c : Char) (arg : List Char) : List UInt8 :=
  let n := (readInt? arg).getD 0
  match c with
  | 's' => bytesOf arg
  | 'b' => unescape (arg.length + 1) arg
  | 'c' => bytesOf (arg.take 1)
  | 'x' => bytesOf (Numeral.write 16 n.natAbs)
  | 'X' => bytesOf ((Numeral.write 16 n.natAbs).map Char.toUpper)
  | 'o' => bytesOf (Numeral.write 8 n.natAbs)
  | _ => bytesOf (writeInt n)

/-- One use of a format: the bytes, and the arguments that are left. -/
def formatOnce : Nat → List Char → List (List Char) → List UInt8 → List UInt8 × List (List Char)
  | 0, _, args, acc => (acc, args)
  | _ + 1, [], args, acc => (acc, args)
  | fuel + 1, '%' :: '%' :: r, args, acc => formatOnce fuel r args (acc ++ [37])
  | fuel + 1, '%' :: c :: r, args, acc =>
    formatOnce fuel r args.tail (acc ++ conversion c (args.head?.getD []))
  | fuel + 1, '\\' :: r, args, acc =>
    let (bs, r) := escape r
    formatOnce fuel r args (acc ++ bs)
  | fuel + 1, c :: r, args, acc => formatOnce fuel r args (acc ++ bytesOf [c])

/-- A format, used again as long as arguments are left. -/
def format : Nat → List Char → List (List Char) → List UInt8
  | 0, _, _ => []
  | fuel + 1, f, args =>
    let (bs, rest) := formatOnce (f.length + 1) f args []
    if rest.isEmpty || rest.length = args.length then bs else bs ++ format fuel f rest

/-! ## Commands -/

/-- The number of a signal by its number or name. -/
def signal? (cs : List Char) : Option Nat :=
  match Numeral.read? 10 cs with
  | some n => some n
  | none =>
    let name := String.ofList cs
    (ExitStatus.signalNames.findIdx? fun s => s = name || s = "SIG" ++ name).map (· + 1)

/-- What a signal that the script sends itself does. -/
def killed (s : State) (n : Nat) : State × Flow :=
  if [0, 17, 18, 23, 28].contains n then (s.exitCode 0, .next) else (s, .ended (.killed n))

/-- The truth of a condition in brackets. -/
def condition : List (List Char) → Option Bool
  | [] => some false
  | ['!'] :: r => (condition r).map (!·)
  | [w] => some !w.isEmpty
  | [['-', 'z'], w] => some w.isEmpty
  | [['-', 'n'], w] => some !w.isEmpty
  | [a, op, b] =>
    let compare (f : Int → Int → Bool) : Option Bool :=
      (readInt? a).bind fun a => (readInt? b).map fun b => f a b
    match String.ofList op with
    | "=" => some (a = b)
    | "!=" => some (a ≠ b)
    | "-eq" => compare (· == ·)
    | "-ne" => compare (· != ·)
    | "-lt" => compare fun a b => a < b
    | "-le" => compare fun a b => a ≤ b
    | "-gt" => compare fun a b => b < a
    | "-ge" => compare fun a b => b ≤ a
    | _ => none
  | _ => none

/-- The code of a condition's truth. -/
def conditionCode (ws : List (List Char)) : Nat :=
  match condition ws with
  | some true => 0
  | some false => 1
  | none => 2

/-- The integers from one to another, a line each. -/
def countLines (first last : Int) : List UInt8 :=
  (List.range (last + 1 - first).toNat).flatMap fun k => bytesOf (writeInt (first + Int.ofNat k) ++ ['\n'])

/-- Sleeps, unless somebody stops the script now. -/
def sleep (s : State) : State × Flow :=
  if s.stopAfter.any (· ≤ s.linesOut) then (s, .stopped) else (s.exitCode 0, .next)

/-- The streams that the two output streams go to. -/
structure Wiring where
  out : Nat := 1
  err : Nat := 2

/-- The wiring after redirections. -/
def Wiring.redirect (w : Wiring) : List (Nat × Target) → Wiring
  | [] => w
  | (fd, t) :: rs =>
    let goal := match t with
      | .stream 1 => w.out
      | .stream _ => w.err
      | .nowhere => 0
    (if fd = 1 then { w with out := goal } else { w with err := goal }).redirect rs

/-- What a command with arguments does, and whether it is known. -/
def perform (s : State) (w : Wiring) (name : String) (args : List (List Char)) :
    Option (State × Flow) :=
  match name with
  | ":" | "true" | "cat" | "trap" | "wait" => some (s.exitCode 0, .next)
  | "false" | "read" => some (s.exitCode 1, .next)
  | "echo" =>
    let (args, ending) := match args with
      | ['-', 'n'] :: r => (r, [])
      | r => (r, [(10 : UInt8)])
    let text := List.intercalate [' '] args
    some ((s.put w.out (unescape (text.length + 1) text ++ ending)).exitCode 0, .next)
  | "printf" =>
    match args with
    | ['-', '-'] :: f :: r | f :: r =>
      some ((s.put w.out (format (r.length + 1) f r)).exitCode 0, .next)
    | [] => some (s.exitCode 2, .next)
  | "[" =>
    match args.getLast? with
    | some [']'] => some (s.exitCode (conditionCode args.dropLast), .next)
    | _ => some (s.exitCode 2, .next)
  | "test" => some (s.exitCode (conditionCode args), .next)
  | "seq" =>
    match args.mapM readInt? with
    | some [n] => some ((s.put w.out (countLines 1 n)).exitCode 0, .next)
    | some [m, n] => some ((s.put w.out (countLines m n)).exitCode 0, .next)
    | _ => some (s.exitCode 1, .next)
  | "sleep" => some (sleep s)
  | "break" => some (s.exitCode 0, .leave false)
  | "continue" => some (s.exitCode 0, .leave true)
  | "shift" => some ({ s with args := s.args.drop 1, code := 0 }, .next)
  | "exit" =>
    match args with
    | [] => some (s, .ended (.exited s.code))
    | a :: _ => some (s, .ended (.exited ((Numeral.read? 10 a).getD 2)))
  | "kill" =>
    match args with
    | ['-', 's'] :: sig :: _ => (signal? sig).map (killed s)
    | ('-' :: sig) :: _ :: _ => (signal? sig).map (killed s)
    | _ => some (killed s 15)
  | _ => none

/-- Reports a command that is not known. -/
def unknown (s : State) (w : Wiring) (name : String) : State × Flow :=
  ((s.put w.err (bytesOf (s.name ++ ": 1: " ++ name ++ ": not found\n").toList)).exitCode 127,
    .next)

/-- Runs the words of a simple command. -/
def runWords (s : State) (w : Wiring) : List (List Char) → State × Flow
  | [] => (s.exitCode 0, .next)
  | cmd :: args =>
    let name := String.ofList cmd
    if name = "exec" then
      match args with
      | [] => (s, .next)
      | cmd :: args =>
        match perform s w (String.ofList cmd) args with
        | some (s, .next) => (s, .ended (.exited s.code))
        | some r => r
        | none =>
          let (s, _) := unknown s w (String.ofList cmd)
          (s, .ended (.exited 127))
    else (perform s w name args).getD (unknown s w name)

/-- Gives the variables of assignments their values. -/
def assignAll (s : State) : List (List Char × Word) → State
  | [] => s
  | (name, v) :: as => assignAll (s.set name (expandOne s v)) as

/-- Whether a word list is a redirection of the script's own streams for good. -/
def isExec (ws : List Word) : Bool := ws = [[.plain "exec".toList]]

mutual

/-- Runs a command; `fuel` bounds the steps. -/
def run : Nat → Wiring → Cmd → State → Wiring × State × Flow
  | 0, w, _, s => (w, s, .endless)
  | _ + 1, w, .nothing, s => (w, s, .next)
  | _ + 1, w, .simple as ws rs, s =>
    let s := assignAll s as
    let inner := w.redirect rs
    if isExec ws then (inner, s.exitCode 0, .next)
    else
      let (s, f) := runWords s inner (ws.flatMap (expand s))
      (w, s, f)
  | fuel + 1, w, .seq a b, s =>
    match run fuel w a s with
    | (w, s, .next) => run fuel w b s
    | r => r
  | fuel + 1, w, .both a b, s =>
    match run fuel w a s with
    | (w, s, .next) => if s.code = 0 then run fuel w b s else (w, s, .next)
    | r => r
  | fuel + 1, w, .either a b, s =>
    match run fuel w a s with
    | (w, s, .next) => if s.code = 0 then (w, s, .next) else run fuel w b s
    | r => r
  | fuel + 1, w, .negation a, s =>
    match run fuel w a s with
    | (w, s, .next) => (w, s.exitCode (if s.code = 0 then 1 else 0), .next)
    | r => r
  | fuel + 1, w, .branch c a b, s =>
    match run fuel w c s with
    | (w, s, .next) =>
      if s.code = 0 then run fuel w a s
      else run fuel w b (s.exitCode 0)
    | r => r
  | fuel + 1, w, .loop whileOk c b, s => runLoop fuel w whileOk c b 0 s
  | fuel + 1, w, .each name ws b, s => runEach fuel w name (ws.flatMap (expand s)) b s

/-- Runs the rounds of a loop that are left. -/
def runLoop : Nat → Wiring → Bool → Cmd → Cmd → Nat → State → Wiring × State × Flow
  | 0, w, _, _, _, _, s => (w, s, .endless)
  | fuel + 1, w, whileOk, c, b, code, s =>
    match run fuel w c s with
    | (w, s, .next) =>
      if (s.code == 0) == whileOk then
        match run fuel w b s with
        | (w, s, .next) | (w, s, .leave true) => runLoop fuel w whileOk c b s.code s
        | (w, s, .leave false) => (w, s, .next)
        | r => r
      else (w, s.exitCode code, .next)
    | r => r

/-- Runs the rounds of a loop over words that are left. -/
def runEach : Nat → Wiring → List Char → List (List Char) → Cmd → State → Wiring × State × Flow
  | 0, w, _, _, _, s => (w, s, .endless)
  | _ + 1, w, _, [], _, s => (w, s, .next)
  | fuel + 1, w, name, v :: vs, b, s =>
    match run fuel w b (s.set name v) with
    | (w, s, .next) | (w, s, .leave true) => runEach fuel w name vs b s
    | (w, s, .leave false) => (w, s, .next)
    | r => r

end

/-- The steps that a script has room for. -/
def runFuel : Nat := 100000

/-- Runs a script to its end. -/
def runScript (s : State) (text : String) : State × Flow :=
  match parse? text.toList with
  | none => (s, .ended (.exited 2))
  | some c =>
    match run runFuel {} c s with
    | (_, s, .next) | (_, s, .leave _) => (s, .ended (.exited s.code))
    | (_, s, f) => (s, f)

end DnsWarden.Shell
