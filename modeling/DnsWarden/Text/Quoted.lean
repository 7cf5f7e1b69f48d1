import DnsWarden.Text.Hidden
import DnsWarden.Text.Numeral

/-!
# Quoted text

A text between double quotes, with a backslash before quotes and backslashes, letters for the four
usual control characters, and `\u` with the code point in braces for every other hidden character.
Apostrophes and visible characters of any script stand for themselves.
-/

namespace DnsWarden

/-- How one character stands in a quoted text. -/
def quotedChar (c : Char) : List Char :=
  match c with
  | '"' => ['\\', '"']
  | '\\' => ['\\', '\\']
  | '\n' => ['\\', 'n']
  | '\r' => ['\\', 'r']
  | '\t' => ['\\', 't']
  | '\x00' => ['\\', '0']
  | c =>
    if isHidden c then ['\\', 'u', '\x7b'] ++ Numeral.write 16 c.toNat ++ ['\x7d'] else [c]

def quoted (s : String) : String :=
  String.ofList ('"' :: s.toList.flatMap quotedChar ++ ['"'])

end DnsWarden
