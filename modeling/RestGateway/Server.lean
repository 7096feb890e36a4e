import RestGateway.Gateway
import RestGateway.MediaType
import RestGateway.RequestId

/-!
# The server

Callers reach the gateway by HTTP: a call to execute or to compensate is posted as JSON, and the
health is asked for. Whatever becomes of a call that can be read, the answer has status 200 and the
outcome as its body; what cannot be read is refused before anything is sent to the service.
-/
namespace RestGateway

structure Server where
  gateway : Gateway
  maxBodyBytes : Nat

structure Inbound where
  method : String
  path : String
  /-- The names are in small letters. -/
  headers : List (String × String)
  body : List UInt8
  announcesLength : Bool
  deriving Repr

structure Answer where
  status : Nat
  contentType : Option String
  allow : Option String
  requestId : Option String
  body : String
  deriving DecidableEq, Repr

namespace Server

/-- The number of calls that can be let in at a time has a limit of its own, of 61 bits. -/
def greatestConcurrency : Nat := 0x1FFFFFFFFFFFFFFF

/-- The server with a configuration; none when it should let in more calls than it can count. -/
def ofConfig? (c : Config) (g : Gateway) : Option Server :=
  if c.listener.maxConcurrency ≤ greatestConcurrency then some ⟨g, c.listener.maxBodyBytes⟩
  else none

/-- The largest body that is read, whatever the configuration says. -/
def greatestBody : Nat := 2 * 1024 * 1024

def plainText : String := "text/plain; charset=utf-8"

def refusal (status : Nat) (words : String) : Answer := ⟨status, some plainText, none, none, words⟩

def bare (status : Nat) (allow : Option String) : Answer := ⟨status, none, allow, none, ""⟩

def success (json : String) : Answer := ⟨200, some "application/json", none, none, json⟩

def header? (i : Inbound) (name : String) : Option String := i.headers.lookup name

def unreadable (e : Json.Error) : Answer :=
  if e.cause.isMismatch then
    refusal 422 ("Failed to deserialize the JSON body into the target type: " ++ e.messageWithPath)
  else refusal 400 ("Failed to parse the request body as JSON: " ++ e.messageWithPath)

def readCall (s : Server) (i : Inbound) : Except Answer Call :=
  if !((header? i "content-type").any MediaType.isJson) then
    .error (refusal 415 "Expected request with \x60Content-Type: application/json\x60")
  else if min s.maxBodyBytes greatestBody < i.body.length then
    .error (refusal 413 "Failed to buffer the request body: length limit exceeded")
  else
    (Call.decodeBytes i.body).mapError unreadable

inductive Operation where
  | execute
  | compensate
  | health
  deriving DecidableEq, Repr

def operation? (path : String) : Option Operation :=
  [("/rpc/execute", .execute), ("/rpc/compensate", .compensate), ("/rpc/health", .health)].lookup
    (String.ofList (path.toList.takeWhile (· != '?')))

def serveCall (s : Server) (d : Gateway.Downstream) (operation : Operation) (id : Option String)
    (c : Call) : Option (Answer × List Message) := do
  let c := RequestId.attach id c
  let (outcome, sent) ← match operation with
    | .compensate => s.gateway.compensate? d c
    | _ => s.gateway.execute? d c
  return (success outcome.text, sent)

def route (s : Server) (d : Gateway.Downstream) (nowMillis : Nat) (id : String) (i : Inbound) :
    Option (Answer × List Message) :=
  match operation? i.path with
  | none => some (bare 404 none, [])
  | some .health =>
    if ["GET", "HEAD", "POST"].contains i.method then
      let (status, sent) := s.gateway.checkHealth d nowMillis
      some (success status.text, sent)
    else some (bare 405 (some "GET,HEAD,POST"), [])
  | some operation =>
    if i.method = "POST" then
      match s.readCall i with
      | .error answer => some (answer, [])
      | .ok c => s.serveCall d operation (RequestId.ofValues [id]) c
    else some (bare 405 (some "POST"), [])

def isTooLong (s : Server) (i : Inbound) : Bool :=
  i.announcesLength && s.maxBodyBytes < i.body.length

/-- The identifier of a request: the first one that it brings, or a fresh one. -/
def requestId (fresh : String) (i : Inbound) : String :=
  (header? i RequestId.headerName).getD fresh

/-- The answer to a request, and what was sent to the service for it. None when a call has more
headers than there is room for. -/
def handle (s : Server) (d : Gateway.Downstream) (nowMillis : Nat) (fresh : String) (i : Inbound) :
    Option (Answer × List Message) := do
  let id := requestId fresh i
  let (answer, sent) ←
    if s.isTooLong i then some (refusal 413 "length limit exceeded", [])
    else s.route d nowMillis id i
  let body := if i.method = "HEAD" then "" else answer.body
  return ({ answer with requestId := some id, body }, sent)

end Server

end RestGateway
