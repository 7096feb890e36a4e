import RestGateway.Binary64.Shortest
import RestGateway.Config.Document
import RestGateway.Toml.Quotation

/-!
# Numbers and times of TOML

Digits may be parted by single underscores. An integer has 64 bits and is decimal, without zeros in
front, or hexadecimal, octal or binary; a number with a point or an exponent is rounded to the
nearest `Binary64`. A time of day may follow a date, and both must exist.
-/
namespace RestGateway.Toml
open Text (isDigit digitValue decimalValue)

/-! ### Numbers -/

/-- Whether underscores only stand between digits. -/
def isGrouped (run : List Char) : Bool :=
  (run.splitOn '_').all fun group => !group.isEmpty

def readDigits (ok : Char → Bool) : Reader (List Char) := fun cs =>
  let run := cs.takeWhile fun c => ok c || c = '_'
  if isGrouped run then some (run.filter (· != '_'), cs.drop run.length) else none

def readWhole : Reader (List Char) := fun cs => do
  let (digits, rest) ← readDigits isDigit cs
  if digits.length = 1 ∨ digits.head? ≠ some '0' then return (digits, rest) else none

def integer? (n : Int) : Option Document :=
  if Json.leastInteger ≤ n ∧ n < -Json.leastInteger then some (.integer n) else none

def readBased (base : Nat) (cs : List Char) : Option (Document × List Char) := do
  let ok := fun c => match Text.hexDigit? c with
    | some d => d < base
    | none => false
  let (digits, rest) ← readDigits ok cs
  let value := digits.foldl (fun n c => n * base + (Text.hexDigit? c).getD 0) 0
  return (← integer? value, rest)

/-- How messages show numbers: always without a power of ten. -/
def floatStyle : DecimalStyle := ⟨none⟩

/-- The number `digits * 10 ^ exponent`. One that is too large does not exist, unless it is
negative. -/
def float? (negative : Bool) (digits : Nat) (exponent : Int) : Option Document :=
  match Binary64.ofDecimal? negative digits exponent with
  | some x => some (.float (String.ofList (floatStyle.render x)))
  | none => if negative then some (.float "-inf") else none

def readExponent : Reader Int
  | '+' :: rest => do
    let (digits, rest) ← readDigits isDigit rest
    return (decimalValue digits, rest)
  | '-' :: rest => do
    let (digits, rest) ← readDigits isDigit rest
    return (-(decimalValue digits : Int), rest)
  | rest => do
    let (digits, rest) ← readDigits isDigit rest
    return (decimalValue digits, rest)

/-- A number whose digits before and after the point are read. -/
def readFloatEnd (negative : Bool) (whole fraction : List Char) (cs : List Char) :
    Option (Document × List Char) := do
  let digits := decimalValue (whole ++ fraction)
  match cs with
  | 'e' :: rest =>
    let (exponent, rest) ← readExponent rest
    return (← float? negative digits (exponent - fraction.length), rest)
  | 'E' :: rest =>
    let (exponent, rest) ← readExponent rest
    return (← float? negative digits (exponent - fraction.length), rest)
  | rest => return (← float? negative digits (-(fraction.length : Int)), rest)

def readDecimal (negative : Bool) (cs : List Char) : Option (Document × List Char) :=
  match cs with
  | 'i' :: 'n' :: 'f' :: rest => some (.float (if negative then "-inf" else "inf"), rest)
  | 'n' :: 'a' :: 'n' :: rest => some (.float "NaN", rest)
  | cs => do
    let (whole, rest) ← readWhole cs
    match rest with
    | '.' :: rest =>
      let (fraction, rest) ← readDigits isDigit rest
      readFloatEnd negative whole fraction rest
    | 'e' :: _ => readFloatEnd negative whole [] rest
    | 'E' :: _ => readFloatEnd negative whole [] rest
    | rest =>
      let value : Int := decimalValue whole
      return (← integer? (if negative then -value else value), rest)

def readNumber : Reader Document
  | '0' :: 'x' :: rest => readBased 16 rest
  | '0' :: 'o' :: rest => readBased 8 rest
  | '0' :: 'b' :: rest => readBased 2 rest
  | '+' :: rest => readDecimal false rest
  | '-' :: rest => readDecimal true rest
  | rest => readDecimal false rest

/-! ### Times -/

def readField (count least greatest : Nat) : Reader Nat := fun cs =>
  let digits := cs.take count
  let value := decimalValue digits
  if digits.length = count ∧ digits.all isDigit ∧ least ≤ value ∧ value ≤ greatest then
    some (value, cs.drop count)
  else none

def readMark (mark : Char) : List Char → Option (List Char)
  | c :: rest => if c = mark then some rest else none
  | [] => none

def padded (count n : Nat) : List Char :=
  let digits := Nat.toDigits 10 n
  List.replicate (count - digits.length) '0' ++ digits

def daysInMonth (year month : Nat) : Nat :=
  if month = 2 then
    if year % 4 = 0 ∧ (year % 100 ≠ 0 ∨ year % 400 = 0) then 29 else 28
  else if [4, 6, 9, 11].contains month then 30
  else 31

def readDate (cs : List Char) : Option (List Char × List Char) := do
  let (year, rest) ← readField 4 0 9999 cs
  let (month, rest) ← readField 2 1 12 (← readMark '-' rest)
  let (day, rest) ← readField 2 1 (daysInMonth year month) (← readMark '-' rest)
  return (padded 4 year ++ '-' :: padded 2 month ++ '-' :: padded 2 day, rest)

/-- The fraction of a second, to the nanosecond. -/
def readSecondFraction : Reader (List Char)
  | '.' :: rest =>
    let digits := rest.takeWhile isDigit
    if digits.isEmpty then none
    else
      let shown := ((digits.take 9).reverse.dropWhile (· == '0')).reverse
      some (if shown.isEmpty then [] else '.' :: shown, rest.drop digits.length)
  | rest => some ([], rest)

def readTime (cs : List Char) : Option (List Char × List Char) := do
  let (hour, rest) ← readField 2 0 23 cs
  let (minute, rest) ← readField 2 0 59 (← readMark ':' rest)
  let (second, rest) ← readField 2 0 60 (← readMark ':' rest)
  let (fraction, rest) ← readSecondFraction rest
  return (padded 2 hour ++ ':' :: padded 2 minute ++ ':' :: padded 2 second ++ fraction, rest)

/-- The distance from universal time; no distance has no direction. -/
def readDistance (sign : Char) (cs : List Char) : Option (List Char × List Char) := do
  let (hour, rest) ← readField 2 0 23 cs
  let (minute, rest) ← readField 2 0 59 (← readMark ':' rest)
  let sign := if hour = 0 ∧ minute = 0 then '+' else sign
  return (sign :: padded 2 hour ++ ':' :: padded 2 minute, rest)

def readOffset : Reader (List Char)
  | 'Z' :: rest => some (['Z'], rest)
  | 'z' :: rest => some (['Z'], rest)
  | '+' :: rest => readDistance '+' rest
  | '-' :: rest => readDistance '-' rest
  | rest => some ([], rest)

def startsTime (cs : List Char) : Bool :=
  ((readField 2 0 23 cs).bind fun (_, rest) => readMark ':' rest).isSome

def readDatetime (cs : List Char) : Option (Document × List Char) :=
  if startsTime cs then do
    let (time, rest) ← readTime cs
    return (.datetime (String.ofList time), rest)
  else do
    let (date, rest) ← readDate cs
    match rest with
    | mark :: behind =>
      if (mark = 'T' ∨ mark = 't' ∨ mark = ' ') ∧ startsTime behind then
        let (time, rest) ← readTime behind
        let (offset, rest) ← readOffset rest
        return (.datetime (String.ofList (date ++ 'T' :: time ++ offset)), rest)
      else return (.datetime (String.ofList date), mark :: behind)
    | [] => return (.datetime (String.ofList date), [])

def startsDatetime (cs : List Char) : Bool :=
  startsTime cs || ((readField 4 0 9999 cs).bind fun (_, rest) => readMark '-' rest).isSome

def readScalar (cs : List Char) : Option (Document × List Char) :=
  if startsDatetime cs then readDatetime cs else readNumber cs

end RestGateway.Toml
