import RestGateway.Outcome

/-!
# Replies of the service

The data in a complete reply: a refusal is passed on word for word, a blank body has no data, an
object is the data, and any other value is data with a name.
-/
namespace RestGateway

/-- A reply that arrived whole. -/
structure Reply where
  status : Nat
  body : String
  deriving DecidableEq, Repr

namespace Reply

def valueName : String := "value"

def dataOfBody (body : String) : Except CallError (Dict Json) :=
  if Text.isBlank body then .ok []
  else
    match Json.parse body with
    | .ok (.object members) => .ok members
    | .ok other => .ok [(valueName, other)]
    | .error e => .error (.unreadableBody e)

def data (r : Reply) : Except CallError (Dict Json) :=
  if 400 ≤ r.status then .error (.application r.status r.body) else dataOfBody r.body

end Reply

end RestGateway
