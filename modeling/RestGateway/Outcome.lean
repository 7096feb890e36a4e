import RestGateway.Call
import RestGateway.CallError

/-!
# Outcomes of calls

Every call ends with an outcome: data if it succeeded and the text of an error if it did not, and
what is known about the request that was made for it.
-/
namespace RestGateway

structure Outcome where
  success : Bool
  data : Dict Json
  error : String
  metadata : Dict String
  deriving Repr

namespace Outcome

def ok (data : Dict Json) : Outcome := ⟨true, data, "", []⟩

/-- A failure always has a text. -/
def failure (error : String) : Outcome :=
  ⟨false, [], if error.isEmpty then "unknown error" else error, []⟩

def ofResult : Except CallError (Dict Json) → Outcome
  | .ok data => ok data
  | .error e => failure e.message

def withMetadata (o : Outcome) (metadata : Dict String) : Outcome := { o with metadata }

def fields (o : Outcome) : List (String × Json) :=
  ("success", .bool o.success) :: ("data", .object o.data) :: ("error", .string o.error) ::
    Json.dictField "metadata" o.metadata

def json (o : Outcome) : Json := .object o.fields

def text (o : Outcome) : String := o.json.compact

def shape : Json.Shape Outcome where
  name := "RpcResult"
  fields := [
    ⟨"success", true, Json.readBoolean.into fun o x => { o with success := x }⟩,
    ⟨"data", false, (Json.readTable (Json.readValue (Json.depthInRecord - 1))).into
      fun o x => { o with data := x }⟩,
    ⟨"error", false, Json.readText.into fun o x => { o with error := x }⟩,
    ⟨"metadata", false, (Json.readTable Json.readText).into fun o x => { o with metadata := x }⟩]
  absent := ⟨false, [], "", []⟩

def decode (text : String) : Except Json.Error Outcome :=
  Json.decodeWith shape.reader text.toList

end Outcome

/-! ### Health -/

/-- Whether the service answered, and when, in milliseconds since the epoch. -/
structure HealthStatus where
  healthy : Bool
  message : String
  checkedAtMillis : Nat
  deriving DecidableEq, Repr

namespace HealthStatus

def ofProbe (healthy : Bool) (nowMillis : Nat) : HealthStatus :=
  ⟨healthy, if healthy then "Service is healthy" else "Service is not responding", nowMillis⟩

def json (h : HealthStatus) : Json :=
  .object [("healthy", .bool h.healthy), ("message", .string h.message),
    ("checked_at_ms", .ofNat h.checkedAtMillis)]

def text (h : HealthStatus) : String := h.json.compact

def shape : Json.Shape HealthStatus where
  name := "HealthStatus"
  fields := [
    ⟨"healthy", true, Json.readBoolean.into fun h x => { h with healthy := x }⟩,
    ⟨"message", true, Json.readText.into fun h x => { h with message := x }⟩,
    ⟨"checked_at_ms", false, Json.readNatural.into fun h x => { h with checkedAtMillis := x }⟩]
  absent := ⟨false, "", 0⟩

def decode (text : String) : Except Json.Error HealthStatus :=
  Json.decodeWith shape.reader text.toList

end HealthStatus

end RestGateway
