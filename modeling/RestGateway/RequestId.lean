import RestGateway.Call
import RestGateway.Headers

/-!
# Identifiers of requests

An incoming request has an identifier that is passed on with the call, unless the call brings one of
its own. Only the first value of the header counts, and only if it can be shown.
-/
namespace RestGateway.RequestId

def headerName : String := "x-request-id"

def ofValues (values : List String) : Option String :=
  match values with
  | first :: _ => if Headers.isVisible first then some first else none
  | [] => none

/-- Whether the call brings an identifier, in whatever case its name is written. -/
def isSet (c : Call) : Bool := c.headers.any fun (name, _) => Headers.lower name == headerName

def attach (id : Option String) (c : Call) : Call :=
  match id with
  | some id => if isSet c then c else { c with headers := c.headers.insert headerName id }
  | none => c

/-! ### Fresh identifiers -/

def hexPair (b : UInt8) : List Char :=
  [Nat.digitChar (b.toNat / 16), Nat.digitChar (b.toNat % 16)]

/-- The identifier of sixteen random bytes. Six of their bits are set to say that they are
random. -/
def ofBytes (bytes : List UInt8) : String :=
  let marked := bytes.zipIdx.map fun (b, i) =>
    if i = 6 then b &&& 0x0F ||| 0x40 else if i = 8 then b &&& 0x3F ||| 0x80 else b
  String.ofList <| marked.zipIdx.flatMap fun (b, i) =>
    (if [4, 6, 8, 10].contains i then ['-'] else []) ++ hexPair b

end RestGateway.RequestId
