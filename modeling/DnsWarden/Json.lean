/-!
# JSON values

A value keeps apart the numbers written as integers from those written with a fraction or an
exponent, since only the former can stand for a count.  The fields of an object keep their order,
and no two of them share a name.
-/

namespace DnsWarden

/-- A JSON value. -/
inductive Json where
  | null
  | bool (b : Bool)
  | int (n : Int)
  /-- A number that is not written as an integer, as it stands. -/
  | decimal (written : String)
  | str (s : String)
  | arr (items : List Json)
  | obj (fields : List (String × Json))
deriving Inhabited, BEq

namespace Json

def lookup (name : String) : List (String × Json) → Option Json
  | [] => none
  | (n, v) :: rest => if n = name then some v else lookup name rest

def field? (name : String) : Json → Option Json
  | .obj fields => lookup name fields
  | _ => none

/-- Replaces the field of a name, or adds it at the end. -/
def assign (name : String) (value : Json) : List (String × Json) → List (String × Json)
  | [] => [(name, value)]
  | (n, v) :: rest =>
    if n = name then (n, value) :: rest else (n, v) :: assign name value rest

def bool? : Json → Option Bool
  | .bool b => some b
  | _ => none

def str? : Json → Option String
  | .str s => some s
  | _ => none

def arr? : Json → Option (List Json)
  | .arr items => some items
  | _ => none

/-- The integer that a value holds. -/
def int? : Json → Option Int
  | .int n => some n
  | _ => none

/-- The integer that a value holds, if it is at least zero and below `bound`. -/
def below? (bound : Nat) : Json → Option Nat
  | .int (.ofNat n) => if n < bound then some n else none
  | _ => none

end Json

end DnsWarden
