/-!
# Spans of time

A span is a number of nanoseconds. `Duration.text` writes it in the largest unit of which it has at
least one, with as many decimals as it needs.
-/
namespace RestGateway

structure Duration where
  nanos : Nat
  deriving DecidableEq, Repr

namespace Duration

def ofMillis (n : Nat) : Duration := ⟨n * 1000000⟩

def ofSeconds (n : Nat) : Duration := ⟨n * 1000000000⟩

def millis (d : Duration) : Nat := d.nanos / 1000000

def min (a b : Duration) : Duration := if a.nanos ≤ b.nanos then a else b

/-- The decimals of a fraction below one with the given number of places, without zeros at the
end. -/
def decimals (places : Nat) (fraction : Nat) : List Char :=
  let digits := Nat.toDigits 10 fraction
  let padded := List.replicate (places - digits.length) '0' ++ digits
  (padded.reverse.dropWhile (· == '0')).reverse

/-- So many units of `10 ^ places` nanoseconds. -/
def inUnit (d : Duration) (places : Nat) (unit : String) : String :=
  let fraction := decimals places (d.nanos % Nat.pow 10 places)
  let shown := if fraction.isEmpty then [] else '.' :: fraction
  String.ofList (Nat.toDigits 10 (d.nanos / Nat.pow 10 places) ++ shown) ++ unit

def text (d : Duration) : String :=
  if d.nanos < 1000 then d.inUnit 0 "ns"
  else if d.nanos < 1000000 then d.inUnit 3 "µs"
  else if d.nanos < 1000000000 then d.inUnit 6 "ms"
  else d.inUnit 9 "s"

end Duration

end RestGateway
