import DnsWarden.Duration
import DnsWarden.Text.Numeral

/-!
# The text of a duration

A duration is written in the largest of the units second, millisecond, microsecond and nanosecond
of which it holds at least one, as a decimal fraction with no zeros at its end.
-/

namespace DnsWarden.Duration

/-- A decimal fraction of `places` digits without the zeros at its end. -/
def fraction (places n : Nat) : List Char :=
  let digits := (Numeral.pad places (Numeral.write 10 n)).reverse.dropWhile (· = '0')
  if digits.isEmpty then [] else '.' :: digits.reverse

/-- `n` in units of ten to the power `places`, followed by the name of the unit. -/
def inUnit (places n : Nat) (unit : String) : List Char :=
  let one := Nat.pow 10 places
  Numeral.write 10 (n / one) ++ fraction places (n % one) ++ unit.toList

def text (d : Duration) : String :=
  let n := d.nanos
  String.ofList <|
    if 1000000000 ≤ n then inUnit 9 n "s"
    else if 1000000 ≤ n then inUnit 6 n "ms"
    else if 1000 ≤ n then inUnit 3 n "µs"
    else inUnit 0 n "ns"

end DnsWarden.Duration
