import RestGateway.IpAddress

/-!
# Socket addresses

An address and a port: four numbers with points, or the groups of version 6 between brackets, which
may have the number of a network interface behind them.
-/
namespace RestGateway.SocketAddress
open Text

/-- A decimal number up to `greatest`; leading zeros do not count. -/
def isNumber (greatest : Nat) (cs : List Char) : Bool :=
  !cs.isEmpty && cs.all isDigit && decimalValue cs ≤ greatest

def isPort (cs : List Char) : Bool := isNumber 65535 cs

def splitFirst (mark : Char) (cs : List Char) : Option (List Char × List Char) :=
  match cs.dropWhile (· != mark) with
  | [] => none
  | _ :: behind => some (cs.takeWhile (· != mark), behind)

/-- The groups of version 6 and the number of an interface, if there is one. -/
def isScoped (cs : List Char) : Bool :=
  match splitFirst '%' cs with
  | some (groups, interface) =>
    (IpAddress.read? groups).isSome && isNumber 0xFFFFFFFF interface
  | none => (IpAddress.read? cs).isSome

def isValidText : List Char → Bool
  | '[' :: rest =>
    match splitFirst ']' rest with
    | some (address, ':' :: port) => isScoped address && isPort port
    | _ => false
  | cs =>
    match splitFirst ':' cs with
    | some (address, port) => (IpAddress.readDotted address).isSome && isPort port
    | none => false

def isValid (s : String) : Bool := isValidText s.toList

end RestGateway.SocketAddress
