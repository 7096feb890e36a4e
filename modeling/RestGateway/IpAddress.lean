import RestGateway.Text.Digit

/-!
# Addresses of the internet protocol

An address of version 6 is eight groups of 16 bits. It is read from groups of up to four hexadecimal
digits, where two colons stand for one or more groups of zeros and the last two groups may be
written as an address of version 4; it is written with two colons for the first of the longest runs
of zeros.
-/
namespace RestGateway.IpAddress
open Text

/-! ### Version 4, as four numbers -/

def readOctet (cs : List Char) : Option Nat :=
  if cs.isEmpty || 3 < cs.length || !cs.all isDigit then none
  else if 1 < cs.length && cs.head? == some '0' then none
  else if decimalValue cs < 256 then some (decimalValue cs)
  else none

def readDotted (cs : List Char) : Option (Nat × Nat × Nat × Nat) :=
  match cs.splitOn '.' with
  | [a, b, c, d] => do
    return (← readOctet a, ← readOctet b, ← readOctet c, ← readOctet d)
  | _ => none

def dottedText (address : Nat) : List Char :=
  Nat.toDigits 10 (address / 0x1000000 % 256) ++ '.' :: Nat.toDigits 10 (address / 0x10000 % 256) ++
    '.' :: Nat.toDigits 10 (address / 0x100 % 256) ++ '.' :: Nat.toDigits 10 (address % 256)

/-! ### Version 6 -/

def readGroup (cs : List Char) : Option Nat :=
  if cs.isEmpty || 4 < cs.length then none else hexValue? cs

/-- The groups of a part; the last one may have the notation of version 4 if `dotted` says so. -/
def readGroups (dotted : Bool) : List (List Char) → Option (List Nat)
  | [] => some []
  | [last] =>
    if dotted && last.contains '.' then do
      let (a, b, c, d) ← readDotted last
      return [a * 256 + b, c * 256 + d]
    else do return [← readGroup last]
  | group :: rest => do return (← readGroup group) :: (← readGroups dotted rest)

def readPart (dotted : Bool) (cs : List Char) : Option (List Nat) :=
  if cs.isEmpty then some [] else readGroups dotted (cs.splitOn ':')

/-- The text before and after the first two colons in a row. -/
def splitAtGap : List Char → Option (List Char × List Char)
  | ':' :: ':' :: rest => some ([], rest)
  | c :: rest => (splitAtGap rest).map fun (front, back) => (c :: front, back)
  | [] => none

/-- The eight groups of an address. -/
def read? (cs : List Char) : Option (List Nat) :=
  match splitAtGap cs with
  | none => do
    let groups ← readPart true cs
    if groups.length = 8 then some groups else none
  | some (front, back) => do
    let before ← readPart false front
    let behind ← readPart true back
    if before.length + behind.length ≤ 7 then
      some (before ++ List.replicate (8 - before.length - behind.length) 0 ++ behind)
    else none

def leadingZeros (groups : List Nat) : Nat := (groups.takeWhile (· == 0)).length

/-- The start and the length of the first of the longest runs of zeros. -/
def longestGap : Nat → List Nat → Nat × Nat
  | _, [] => (0, 0)
  | index, group :: rest =>
    let here := leadingZeros (group :: rest)
    let later := longestGap (index + 1) rest
    if later.2 ≤ here then (index, here) else later

def groupsText (groups : List Nat) : List Char :=
  [':'].intercalate (groups.map (Nat.toDigits 16))

def text (groups : List Nat) : List Char :=
  let (start, length) := longestGap 0 groups
  if length < 2 then groupsText groups
  else groupsText (groups.take start) ++ ':' :: ':' :: groupsText (groups.drop (start + length))

end RestGateway.IpAddress
