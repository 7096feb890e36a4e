import RestGateway.Json.Value
import RestGateway.Json.Fault
import RestGateway.Text.Digit

/-!
# Numbers of a JSON text

Digits are collected into a 64-bit significand; the first digit that does not fit and all after it
only count for the exponent. An integer that fits is exact. Any other number is the significand,
rounded, times or divided by the power of ten, rounded again.
-/
namespace RestGateway.Json
open Text (isDigit digitValue)

abbrev Reader (α : Type) := List Char → Except Fault (α × List Char)

def startsWithDigit : List Char → Bool
  | c :: _ => isDigit c
  | [] => false

/-- Take digits into the significand as long as it fits into 64 bits; the digits left. -/
def absorb (significand : Nat) : List Char → Nat × List Char
  | [] => (significand, [])
  | c :: rest =>
    let longer := significand * 10 + digitValue c
    if longer < 0x10000000000000000 then absorb longer rest else (significand, c :: rest)

/-- `10 ^ exponent` as a rounded number; the exponent is at most 308. -/
def powerOfTen (exponent : Nat) : Binary64 :=
  (Binary64.ofQuotient? false (Nat.pow 10 exponent) 1).getD Binary64.zero

/-- The significand scaled by a power of ten; none when the result is too large. Below the range of
powers the division is done in two steps. -/
def scaled? (significand : Nat) (exponent : Int) : Option Binary64 := do
  let x ← Binary64.ofQuotient? false significand 1
  if x.isZero then return x
  if exponent > 308 then none
  else if 0 ≤ exponent then x.mul? (powerOfTen exponent.toNat)
  else if -308 ≤ exponent then x.div? (powerOfTen (-exponent).toNat)
  else
    let y ← x.div? (powerOfTen 308)
    if -616 ≤ exponent then y.div? (powerOfTen (-exponent - 308).toNat) else return Binary64.zero

def signed (negative : Bool) (x : Binary64) : Binary64 := if negative then x.neg else x

def floatNumber (negative : Bool) (significand : Nat) (exponent : Int) : Reader Number :=
  fun rest =>
    match scaled? significand exponent with
    | some x => .ok (.float (signed negative x), rest)
    | none => .error (.here .numberOutOfRange rest)

def exponentLimit : Nat := 0x7FFFFFFF

/-- The digits of an exponent; none as soon as it passes the limit. -/
def readExponentDigits (exponent : Nat) : List Char → Option Nat × List Char
  | [] => (some exponent, [])
  | c :: rest =>
    if isDigit c then
      let longer := exponent * 10 + digitValue c
      if longer ≤ exponentLimit then readExponentDigits longer rest else (none, rest)
    else (some exponent, c :: rest)

def readSign : List Char → Bool × List Char
  | '+' :: rest => (false, rest)
  | '-' :: rest => (true, rest)
  | rest => (false, rest)

def readExponent (negative : Bool) (significand : Nat) (exponent : Int) : Reader Number :=
  fun s =>
    let (down, digits) := readSign s
    match digits with
    | [] => .error (.here .endOfValue [])
    | c :: rest =>
      if isDigit c then
        match readExponentDigits (digitValue c) rest with
        | (some n, rest) =>
          floatNumber negative significand (if down then exponent - n else exponent + n) rest
        | (none, rest) =>
          if significand ≠ 0 ∧ ¬ down then .error (.here .numberOutOfRange rest)
          else .ok (.float (signed negative Binary64.zero), rest.dropWhile isDigit)
      else .error (.next .invalidNumber (c :: rest))

/-- A number whose integral digits did not fit, or that has a point, from its exponent on. -/
def readFloatEnd (negative : Bool) (significand : Nat) (exponent : Int) : Reader Number
  | 'e' :: rest => readExponent negative significand exponent rest
  | 'E' :: rest => readExponent negative significand exponent rest
  | rest => floatNumber negative significand exponent rest

def readFraction (negative : Bool) (significand : Nat) (exponent : Int) : Reader Number :=
  fun s =>
    let digits := s.takeWhile isDigit
    let rest := s.dropWhile isDigit
    if digits.isEmpty then
      .error (if rest.isEmpty then .here .endOfValue [] else .next .invalidNumber rest)
    else
      let (longer, unused) := absorb significand digits
      readFloatEnd negative longer (exponent - (digits.length - unused.length : Nat)) rest

def integerNumber (negative : Bool) (significand : Nat) : Number :=
  if !negative then .integer significand
  else if 0 < significand ∧ significand ≤ 0x8000000000000000 then .integer (-significand)
  else .float (signed true ((Binary64.ofQuotient? false significand 1).getD Binary64.zero))

def readNumberEnd (negative : Bool) (digits : List Char) : Reader Number :=
  fun rest =>
    let (significand, unused) := absorb 0 digits
    match rest with
    | '.' :: fraction => readFraction negative significand unused.length fraction
    | 'e' :: exponent => readExponent negative significand unused.length exponent
    | 'E' :: exponent => readExponent negative significand unused.length exponent
    | rest =>
      if unused.isEmpty then .ok (integerNumber negative significand, rest)
      else floatNumber negative significand unused.length rest

def readNumber (negative : Bool) : Reader Number
  | [] => .error (.here .endOfValue [])
  | '0' :: rest =>
    if startsWithDigit rest then .error (.next .invalidNumber rest)
    else readNumberEnd negative ['0'] rest
  | c :: rest =>
    if isDigit c then readNumberEnd negative (c :: rest.takeWhile isDigit) (rest.dropWhile isDigit)
    else .error (.next .invalidNumber (c :: rest))

end RestGateway.Json
