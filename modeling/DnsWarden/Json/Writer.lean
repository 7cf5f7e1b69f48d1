import DnsWarden.Json
import DnsWarden.Text.Numeral

/-!
# Writing JSON

The text of a value is ASCII without blanks: characters beyond it are written as escaped UTF-16
units.
-/

namespace DnsWarden.Json

/-- One escaped UTF-16 unit. -/
def escapeUnit (n : Nat) : List Char :=
  '\\' :: 'u' :: Numeral.pad 4 (Numeral.write 16 n)

/-- How a character stands in a JSON string. -/
def writeChar (c : Char) : List Char :=
  let n := c.toNat
  if c = '"' then ['\\', '"']
  else if c = '\\' then ['\\', '\\']
  else if 0x20 ≤ n ∧ n < 0x7f then [c]
  else if n < 0x10000 then escapeUnit n
  else escapeUnit (0xd800 + (n - 0x10000) / 0x400) ++ escapeUnit (0xdc00 + (n - 0x10000) % 0x400)

def writeString (s : String) : String :=
  s.toList.foldl (fun acc c => (writeChar c).foldl String.push acc) "\"" |>.push '"'

mutual

/-- Adds the text of a value to `acc`. -/
def writeOnto (acc : String) : Json → String
  | .null => acc ++ "null"
  | .bool true => acc ++ "true"
  | .bool false => acc ++ "false"
  | .int n => acc ++ toString n
  | .decimal t => acc ++ t
  | .str s => acc ++ writeString s
  | .arr [] => acc ++ "[]"
  | .arr (v :: vs) => writeItems (writeOnto (acc.push '[') v) vs
  | .obj [] => acc ++ "\x7b\x7d"
  | .obj ((n, v) :: fs) =>
    writeFields (writeOnto (((acc.push '\x7b') ++ writeString n).push ':') v) fs

/-- Adds the further items of an array and its end. -/
def writeItems (acc : String) : List Json → String
  | [] => acc.push ']'
  | v :: vs => writeItems (writeOnto (acc.push ',') v) vs

/-- Adds the further fields of an object and its end. -/
def writeFields (acc : String) : List (String × Json) → String
  | [] => acc.push '\x7d'
  | (n, v) :: fs => writeFields (writeOnto (((acc.push ',') ++ writeString n).push ':') v) fs

end

def write (v : Json) : String := writeOnto "" v

end DnsWarden.Json
