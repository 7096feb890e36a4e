import RestGateway.Json.Bytes
import RestGateway.Json.Printer
import RestGateway.Json.Shape
import RestGateway.Text.Blank

/-!
# Calls

A call names a method and carries a payload, and possibly headers, identifiers that make it
traceable and a time limit. `Call.text` writes it as JSON without the fields that are empty or
absent, and `Call.decode` reads it.
-/
namespace RestGateway

structure Call where
  method : String
  payload : Json
  headers : Dict String
  correlationId : Option String
  workflowId : Option String
  stepId : Option String
  timeoutMillis : Option Nat
  deriving Repr

namespace Json

/-- A field that is left out when there is no value. -/
def optionalField {α : Type} (name : String) (json : α → Json) : Option α → List (String × Json)
  | some x => [(name, json x)]
  | none => []

/-- A field that is left out when the dictionary is empty. -/
def dictField (name : String) (d : Dict String) : List (String × Json) :=
  if d.isEmpty then [] else [(name, .object (d.map fun (key, value) => (key, .string value)))]

def Reader.into {α σ : Type} (read : Reader α) (store : σ → α → σ) (x : σ) : Reader σ := fun s => do
  let (value, rest) ← read s
  return (store x value, rest)

def depthInRecord : Nat := greatestDepth - 1

end Json

namespace Call

def ofMethod (method : String) : Call := ⟨method, .null, [], none, none, none, none⟩

def fields (c : Call) : List (String × Json) :=
  ("method", .string c.method) :: ("payload", c.payload) ::
    (Json.dictField "headers" c.headers ++
      Json.optionalField "correlation_id" .string c.correlationId ++
      Json.optionalField "workflow_id" .string c.workflowId ++
      Json.optionalField "step_id" .string c.stepId ++
      Json.optionalField "timeout_ms" Json.ofNat c.timeoutMillis)

def json (c : Call) : Json := .object c.fields

def text (c : Call) : String := c.json.compact

def shape : Json.Shape Call where
  name := "RpcRequest"
  fields := [
    ⟨"method", true, Json.readText.into fun c x => { c with method := x }⟩,
    ⟨"payload", false, (Json.readValue Json.depthInRecord).into fun c x => { c with payload := x }⟩,
    ⟨"headers", false, (Json.readTable Json.readText).into fun c x => { c with headers := x }⟩,
    ⟨"correlation_id", false,
      (Json.readNullable Json.readText).into fun c x => { c with correlationId := x }⟩,
    ⟨"workflow_id", false,
      (Json.readNullable Json.readText).into fun c x => { c with workflowId := x }⟩,
    ⟨"step_id", false, (Json.readNullable Json.readText).into fun c x => { c with stepId := x }⟩,
    ⟨"timeout_ms", false,
      (Json.readNullable Json.readNatural).into fun c x => { c with timeoutMillis := x }⟩]
  absent := ofMethod ""

def decode (text : String) : Except Json.Error Call :=
  Json.decodeWith shape.reader text.toList

def decodeBytes (bytes : List UInt8) : Except Json.Error Call :=
  Json.decodeWith shape.reader (Json.readBytes [] 0 bytes)

/-! ### The payload as a dictionary -/

def notAnObject (v : Json) : String := "expected a JSON object, got " ++ v.kind

/-- The entries of the payload: of an object, or of a text that holds an object. Nothing and a blank
text have no entries. -/
def entries (c : Call) : Except String (Dict Json) :=
  match c.payload with
  | .null => .ok []
  | .object members => .ok members
  | .string text =>
    if Text.isBlank text then .ok []
    else
      match Json.parse text with
      | .ok (.object members) => .ok members
      | .ok other => .error (notAnObject other)
      | .error e => .error e.message
  | other => .error (notAnObject other)

end Call

end RestGateway
