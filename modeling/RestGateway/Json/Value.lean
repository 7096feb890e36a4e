import RestGateway.Dict
import RestGateway.Binary64.Basic

/-!
# JSON values

The members of an object are a dictionary, so an object has no order of its own and no repeated
keys. A number written as an integer is kept exactly inside the range of 64-bit words, signed or
not; any other number is a `Binary64`.
-/
namespace RestGateway

inductive Number where
  | integer (value : Int)
  | float (value : Binary64)
  deriving DecidableEq, Repr

inductive Json where
  | null
  | bool (value : Bool)
  | number (value : Number)
  | string (value : String)
  | array (items : List Json)
  | object (members : List (String × Json))
  deriving Repr

namespace Json

/-- The least and the greatest integer that is kept exactly. -/
def leastInteger : Int := -0x8000000000000000

def greatestInteger : Int := 0xFFFFFFFFFFFFFFFF

def isNull : Json → Bool
  | null => true
  | _ => false

def kind : Json → String
  | null => "null"
  | bool _ => "boolean"
  | number _ => "number"
  | string _ => "string"
  | array _ => "array"
  | object _ => "object"

def ofNat (n : Nat) : Json := number (.integer n)

end Json

end RestGateway
