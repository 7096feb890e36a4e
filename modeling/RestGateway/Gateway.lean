import RestGateway.Config.Rules
import RestGateway.Outbound
import RestGateway.Reply

/-!
# The gateway

A gateway turns calls into requests and the replies of the service into outcomes. `Gateway.prepare`
decides everything about a request before it is sent, and `Gateway.run` sends at most one.
-/
namespace RestGateway

inductive BuildError where
  | invalidUrl (url : String) (reason : Url.Error)
  /-- The name under which requests are made cannot be sent. -/
  | client
  deriving DecidableEq, Repr

namespace BuildError

def name : BuildError → String
  | invalidUrl _ _ => "InvalidUrl"
  | client => "Client"

def message : BuildError → String
  | invalidUrl url reason => "invalid URL '" ++ url ++ "': " ++ reason.message
  | client => "failed to build HTTP client: builder error"

end BuildError

structure Probe where
  url : Url
  timeout : Duration
  deriving Repr

structure Gateway where
  base : Url
  userAgent : String
  routes : Routes
  usualDeadline : Duration
  latestDeadline : Duration
  stripBoundParams : Bool
  probe : Probe
  /-- The call that is made to undo a call. -/
  plan : Call → Call

namespace Gateway

/-- The base URL, when requests can be made to it under the given name. -/
def base? (service : Config.Service) : Except BuildError Url :=
  match Url.parse service.baseUrl with
  | .error reason => .error (.invalidUrl service.baseUrl reason)
  | .ok base => if Headers.isValue service.userAgent then .ok base else .error .client

def probe? (base : Url) (health : Config.HealthCheck) : Except BuildError Probe :=
  let joined := base.joinedText health.path
  match Url.parse joined with
  | .error reason => .error (.invalidUrl joined reason)
  | .ok url => .ok ⟨url, health.timeout⟩

def ofConfig (c : Config) (plan : Call → Call) : Except BuildError Gateway := do
  let base ← base? c.service
  let probe ← probe? base c.healthCheck
  return {
    base
    userAgent := c.service.userAgent
    routes := c.routing.toRoutes
    usualDeadline := c.service.requestTimeout
    latestDeadline := c.service.maxRequestTimeout
    stripBoundParams := c.routing.stripBoundParams
    probe
    plan }

/-! ### Preparing a request -/

inductive Stop where
  | refused (e : CallError)
  | tooManyHeaders
  deriving DecidableEq, Repr

/-- Values that would lead to another place in the path. -/
def dotSegments (names : List String) : CallError :=
  .invalidPayload ("path parameters " ++ Text.quotedList names ++ " must not be '.' or '..'")

def place (verb : Verb) (payload : Dict Json) : Option Json × List (String × String) :=
  match verb.placement with
  | .json => (some (.object payload), [])
  | .query => (none, queryPairs payload)
  | .omitted => (none, [])

def prepare (g : Gateway) (c : Call) : Except Stop Outbound := do
  let payload ← c.entries.mapError fun reason => Stop.refused (.invalidPayload reason)
  let route := g.routes.resolve c.method
  let bound := Template.bind route.template payload
  if bound.rejected ≠ [] then throw (.refused (dotSegments bound.rejected))
  let outgoing := if g.stripBoundParams then bound.remaining else payload
  let (body, query) := place route.verb outgoing
  let url ← (g.base.join bound.path).mapError Stop.refused
  match c.forwardedHeaders? with
  | none => throw .tooManyHeaders
  | some headers =>
    return {
      verb := route.verb
      url
      body
      query
      headers
      deadline := Deadline.resolve c.timeoutMillis g.usualDeadline g.latestDeadline }

/-! ### Sending it -/

inductive Exchange where
  | reply (r : Reply)
  /-- There is no connection, or it ends before there is an answer. -/
  | unreachable
  /-- The body ends before it is complete. -/
  | truncated (status : Nat)
  | silent
  | endless (status : Nat)
  deriving DecidableEq, Repr

/-- What comes of an attempt to connect: nothing before any deadline, or a service, given by what it
does with a request. -/
inductive Connection where
  | failed
  | pending
  | made (answer : Message → Exchange)

/-- A network by what comes of an attempt to connect to a URL. Connections speak HTTP/1.1. -/
abbrev Downstream := Url → Connection

def greatestUrlLength : Nat := 65534

def isSendable (c : Char) : Bool := !(['"', '\x60', '\x7b', '\x7d'].contains c)

def canSend (url : Url) : Bool :=
  Config.isHttp url.scheme && url.chars.length ≤ greatestUrlLength &&
    url.authority.all fun a => a.host.all isSendable

def sendFailure (url : Url) : String := "error sending request for url (" ++ url.text ++ ")"

def builderFailure (url : Url) : String := "builder error for url (" ++ url.text ++ ")"

def bodyFailure : String := "error decoding response body"

/-- Send a request: what comes of it, or why it cannot be sent, and the messages that were sent.
None when there are too many headers. A URL of another scheme is refused before the client has put
its own ones, and a connection ends when there is no room for the length of the body. -/
def send? (g : Gateway) (d : Downstream) (o : Outbound) :
    Option (Except String Exchange × List Message) := do
  let _ ← o.builtHeaders?
  if !Config.isHttp o.target.scheme then return (.error (builderFailure o.target), [])
  let _ ← o.namedHeaders? g.userAgent
  if !canSend o.target then return (.error (builderFailure o.target), [])
  match d o.target with
  | .failed => return (.ok .unreachable, [])
  | .pending => return (.ok .silent, [])
  | .made answer =>
    let _ ← o.connectedHeaders? g.userAgent
    match o.message? g.userAgent with
    | some m => return (.ok (answer m), [m])
    | none => return (.ok .unreachable, [])

/-- What a request leads to: a reply, or why there is none. Nothing when it is never complete. -/
def awaited (url : Url) : Except String Exchange → Option (Except String Reply)
  | .error reason => some (.error reason)
  | .ok (.reply r) => some (.ok r)
  | .ok .unreachable => some (.error (sendFailure url))
  | .ok (.truncated _) => some (.error bodyFailure)
  | .ok .silent => none
  | .ok (.endless _) => none

def replyInTime (o : Outbound) (result : Except String Exchange) : Except CallError Reply :=
  match Deadline.await o.deadline (awaited o.target result) with
  | .ok (.ok r) => .ok r
  | .ok (.error reason) => .error (.request o.url.text reason)
  | .error exceeded => .error (.timeout o.url.text exceeded.deadline)

def invoke? (g : Gateway) (d : Downstream) (o : Outbound) :
    Option (Except CallError Reply × List Message) :=
  (g.send? d o).map fun (result, sent) => (replyInTime o result, sent)

def requestMetadata (o : Outbound) : Dict String :=
  [("http_method", o.verb.name), ("path", o.url.pathText)]

def statusMetadata (r : Reply) : String × String := ("http_status", toString r.status)

def outcomeOf (o : Outbound) : Except CallError Reply → Outcome
  | .error e => (Outcome.failure e.message).withMetadata (requestMetadata o)
  | .ok r =>
    let (key, status) := statusMetadata r
    (Outcome.ofResult r.data).withMetadata ((requestMetadata o).insert key status)

/-- The outcome of a call and the messages that were sent for it; none when there are too many
headers. -/
def run? (g : Gateway) (d : Downstream) (c : Call) : Option (Outcome × List Message) :=
  match g.prepare c with
  | .error (.refused e) => some (Outcome.failure e.message, [])
  | .error .tooManyHeaders => none
  | .ok o => (g.invoke? d o).map fun (reply, sent) => (outcomeOf o reply, sent)

def execute? (g : Gateway) (d : Downstream) (c : Call) : Option (Outcome × List Message) :=
  g.run? d c

def compensate? (g : Gateway) (d : Downstream) (c : Call) : Option (Outcome × List Message) :=
  g.run? d (g.plan c)

/-! ### Health -/

def probeAgent : String := "rpc-bridge-health-check"

def probeRequest (g : Gateway) : Outbound :=
  ⟨.get, g.probe.url, none, [], [("user-agent", probeAgent)], g.probe.timeout⟩

/-- Whether the service answers as it should; only the status of an answer counts. -/
def isHealthy : Except String Exchange → Bool
  | .ok (.reply r) => r.status == 200
  | .ok (.truncated status) => status == 200
  | .ok (.endless status) => status == 200
  | _ => false

def checkHealth (g : Gateway) (d : Downstream) (nowMillis : Nat) : HealthStatus × List Message :=
  -- there is always room for the headers of the probe
  let (result, sent) := (g.send? d g.probeRequest).getD (.ok .unreachable, [])
  (HealthStatus.ofProbe (isHealthy result) nowMillis, sent)

end Gateway

namespace Gateway.Downstream

def answering (answer : Message → Exchange) : Downstream := fun _ => .made answer

def unreachable : Downstream := fun _ => .failed

end Gateway.Downstream

end RestGateway
