import RestGateway.Binary64.Basic

/-!
# The shortest decimal of a number

`Binary64.shortest` is the decimal with the fewest digits that rounds to the number, and of those
the nearest one. `DecimalStyle.render` writes it out: positional inside a range of exponents and
with a power of ten outside of it.
-/
namespace RestGateway

structure Decimal where
  digits : Nat
  exponent : Int
  deriving DecidableEq, Repr

def digitCount (n : Nat) : Nat := if n = 0 then 0 else (Nat.toDigits 10 n).length

namespace Binary64

/-- The greatest `p` with `10 ^ p ≤ num / den`, for a positive quotient. -/
def floorLog10 (num den : Nat) : Int :=
  if den ≤ num then (digitCount (num / den) : Int) - 1
  else -(digitCount ((den + num - 1) / num - 1) : Int)

/-- Whether `d * 10 ^ k` rounds to the magnitude of `x`: it is no further from it than half the way
to the next number on either side, and on the half way only for an even mantissa. -/
def roundsTo (x : Binary64) (d : Nat) (k : Int) : Bool :=
  let below := if x.mantissa = 0x10000000000000 ∧ x.exponent > leastExponent then 1 else 2
  let e := x.exponent - 2
  let candidate := d * Nat.pow 10 k.toNat * Nat.pow 2 (-e).toNat
  let unit := Nat.pow 10 (-k).toNat * Nat.pow 2 e.toNat
  let low := (4 * x.mantissa - below) * unit
  let high := (4 * x.mantissa + 2) * unit
  if x.mantissa % 2 = 0 then low ≤ candidate && candidate ≤ high
  else low < candidate && candidate < high

def onGrid? (x : Binary64) (k : Int) : Option Nat :=
  let num := x.numerator * Nat.pow 10 (-k).toNat
  let den := x.denominator * Nat.pow 10 k.toNat
  let lower := num / den
  let upper := lower + 1
  let lowerNearer : Bool :=
    let twice := 2 * (num % den)
    twice < den || (twice == den && lower % 2 == 0)
  match roundsTo x lower k, roundsTo x upper k with
  | true, true => some (if lowerNearer then lower else upper)
  | true, false => some lower
  | false, true => some upper
  | false, false => none

def coarsest (x : Binary64) (leading : Int) : Nat → Nat → Decimal
  | 0, _ => ⟨x.numerator, 0⟩
  | more + 1, digits =>
    let k := leading - digits
    match x.onGrid? k with
    | some d => ⟨d, k⟩
    | none => coarsest x leading more (digits + 1)

/-- Seventeen digits always suffice. -/
def shortest (x : Binary64) : Decimal :=
  if x.isZero then ⟨0, 0⟩
  else coarsest x (floorLog10 x.numerator x.denominator) 17 0

end Binary64

/-- How a decimal is written: the exponents of the leading digit for which it is positional. All of
them when no range is given. -/
structure DecimalStyle where
  positional : Option (Int × Int)

namespace DecimalStyle

def isPositional (style : DecimalStyle) (leading : Int) : Bool :=
  match style.positional with
  | none => true
  | some (least, greatest) => least ≤ leading && leading ≤ greatest

def positionalText (digits : List Char) (leading : Int) : List Char :=
  if leading < 0 then
    '0' :: '.' :: (List.replicate (-leading - 1).toNat '0' ++ digits)
  else
    let whole := leading.toNat + 1
    let fraction := digits.drop whole
    digits.take whole ++ List.replicate (whole - digits.length) '0' ++
      '.' :: (if fraction.isEmpty then ['0'] else fraction)

def scientificText (digits : List Char) (leading : Int) : List Char :=
  let fraction := digits.drop 1
  digits.take 1 ++ (if fraction.isEmpty then [] else '.' :: fraction) ++
    'e' :: (if leading < 0 then '-' else '+') :: Nat.toDigits 10 leading.natAbs

def render (style : DecimalStyle) (x : Binary64) : List Char :=
  let decimal := x.shortest
  let all := Nat.toDigits 10 decimal.digits
  let leading := decimal.exponent + all.length - 1
  let digits := (all.reverse.dropWhile (· == '0')).reverse
  let magnitude :=
    if x.isZero then ['0', '.', '0']
    else if style.isPositional leading then positionalText digits leading
    else scientificText digits leading
  if x.negative then '-' :: magnitude else magnitude

end DecimalStyle

end RestGateway
