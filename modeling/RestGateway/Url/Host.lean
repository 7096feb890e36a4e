import RestGateway.IpAddress
import RestGateway.Url.Basic
import RestGateway.Url.Domain

/-!
# Hosts of URLs

The host of a web address is a domain name or an address. A name whose last part is a number is read
as an address of version 4, of which every part may be decimal, octal or hexadecimal and the last
part fills all bytes that are left. Other schemes take any text as a host that has no delimiter in
it.
-/
namespace RestGateway.Url
open Text

/-! ### Addresses of version 4 -/

def readNumeral (cs : List Char) : Option Nat :=
  match cs with
  | [] => none
  | '0' :: 'x' :: digits => hexValue? digits
  | '0' :: 'X' :: digits => hexValue? digits
  | '0' :: digit :: digits =>
    if (digit :: digits).all fun c => '0' ≤ c && c ≤ '7' then
      some ((digit :: digits).foldl (fun n c => n * 8 + digitValue c) 0)
    else none
  | digits => if digits.all isDigit then some (decimalValue digits) else none

/-- The parts of a name between points, without an empty last one. -/
def nameParts (name : List Char) : List (List Char) :=
  let parts := name.splitOn '.'
  if parts.getLast? = some [] then parts.dropLast else parts

/-- Whether a name has to be an address. -/
def endsInNumber (name : List Char) : Bool :=
  match (nameParts name).getLast? with
  | none => false
  | some last => (!last.isEmpty && last.all isDigit) || (readNumeral last).isSome

def ipv4? (name : List Char) : Option Nat := do
  let numbers ← (nameParts name).mapM readNumeral
  let last ← numbers.getLast?
  let others := numbers.dropLast
  if 3 < others.length then none
  else if Nat.pow 256 (4 - others.length) ≤ last then none
  else if others.any fun n => 256 ≤ n then none
  else
    let high := others.foldl (fun n part => n * 256 + part) 0
    return high * Nat.pow 256 (4 - others.length) + last

/-! ### Hosts -/

def utf8Text? (bytes : List UInt8) : Option (List Char) :=
  (String.fromUTF8? ⟨bytes.toArray⟩).map String.toList

def bracketed (cs : List Char) : Except Error (List Char) :=
  match cs.getLast? with
  | some ']' =>
    match IpAddress.read? cs.dropLast with
    | some groups => .ok ('[' :: (IpAddress.text groups ++ [']']))
    | none => .error .invalidIpv6
  | _ => .error .invalidIpv6

def webHost (cs : List Char) : Except Error (List Char) :=
  match cs with
  | '[' :: rest => bracketed rest
  | _ =>
    match (utf8Text? (Percent.decode cs)).bind domain? with
    | none => .error .invalidDomain
    | some [] => .error .emptyHost
    | some name =>
      if endsInNumber name then
        match ipv4? name with
        | some address => .ok (IpAddress.dottedText address)
        | none => .error .invalidIpv4
      else .ok name

def isHostDelimiter (c : Char) : Bool :=
  ['\x00', '\t', '\n', '\r', ' ', '#', '/', ':', '<', '>', '?', '@', '[', '\\', ']', '^',
    '|'].contains c

/-- The characters that have a form of their own in a host without structure. -/
def isShownAscii (c : Char) : Bool := 0x20 ≤ c.toNat && c.toNat < 0x7F

def plainHost (cs : List Char) : Except Error (List Char) :=
  match cs with
  | '[' :: rest => bracketed rest
  | _ =>
    if cs.any isHostDelimiter then .error .invalidHostCharacter
    else .ok (Percent.encode isShownAscii cs)

end RestGateway.Url
