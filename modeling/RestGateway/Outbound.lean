import RestGateway.Base64
import RestGateway.Call
import RestGateway.CallError
import RestGateway.Config.Basic
import RestGateway.Headers
import RestGateway.Template
import RestGateway.Text.Quoted
import RestGateway.Url.Parser

/-!
# Requests to the service

`Outbound` is what a call becomes: the verb, the URL, the place of the payload, the headers and the
deadline. `Outbound.message?` is what the service receives of it over HTTP/1.1.
-/
namespace RestGateway

structure Outbound where
  verb : Verb
  url : Url
  body : Option Json
  query : List (String × String)
  headers : Headers
  deadline : Duration
  deriving Repr

structure Message where
  verb : Verb
  url : Url
  headers : Headers
  body : Option String
  deriving Repr

/-! ### Where the request goes -/

def Url.joinedText (base : Url) (path : String) : String :=
  String.ofList ((base.chars.reverse.dropWhile (· == '/')).reverse ++ path.toList)

def Url.join (base : Url) (path : String) : Except CallError Url :=
  let joined := base.joinedText path
  match Url.parse joined with
  | .ok url => .ok url
  | .error reason => .error (.invalidUrl joined reason)

/-! ### The payload in the query -/

/-- The pairs for an entry: none for null, one for each item of a list that is not null, and
otherwise one. -/
def entryPairs (key : String) : Json → List (String × String)
  | .null => []
  | .array items => (items.filter (! Json.isNull ·)).map fun item => (key, item.rendered)
  | v => [(key, v.rendered)]

def queryPairs (payload : Dict Json) : List (String × String) :=
  payload.flatMap fun (key, v) => entryPairs key v

/-! ### Headers of a call -/

namespace Call

def reservedHeaders : List String :=
  ["host", "content-length", "content-type", "transfer-encoding", "connection"]

def isForwarded (name value : String) : Bool :=
  !reservedHeaders.contains (Headers.lower name) && Headers.isName name && Headers.isValue value

/-- The headers of the caller that are passed on, in the order of the names they were given. -/
def callerHeaders (c : Call) : List (String × String) :=
  (c.headers.filter fun (name, value) => isForwarded name value).map
    fun (name, value) => (Headers.lower name, value)

def identifier (name : String) : Option String → List (String × String)
  | some value => if Headers.isValue value then [(name, value)] else []
  | none => []

def identifiers (c : Call) : List (String × String) :=
  identifier "x-correlation-id" c.correlationId ++ identifier "x-workflow-id" c.workflowId ++
    identifier "x-step-id" c.stepId

/-- The headers that are sent for a call. The identifiers come last, so that they count. None when
there are too many. -/
def forwardedHeaders? (c : Call) : Option Headers :=
  Headers.putAll? [] (c.callerHeaders ++ c.identifiers)

end Call

/-! ### What the service receives -/

namespace Outbound

/-- The name and the password of a user, if the URL has them and they are text. A password that is
no text is left out, and there is no user without a name and a password. -/
def credentials? (url : Url) : Option (List Char × Option (List Char)) := do
  let a ← url.authority
  let username ← Url.utf8Text? (Percent.decode a.username)
  let password := if a.password.isEmpty then none else Url.utf8Text? (Percent.decode a.password)
  if username.isEmpty && password.isNone then none else return (username, password)

def authorization (username : List Char) (password : Option (List Char)) : String :=
  "Basic " ++ String.ofList
    (Base64.encode (Percent.utf8 (username ++ ':' :: password.getD [])))

/-- The URL to which the request is sent, with the query and without a user. -/
def target (o : Outbound) : Url :=
  let url := if (credentials? o.url).isSome then o.url.withoutUser else o.url
  url.withPairs o.query

/-! The client puts headers of its own beside those of the call, some of them only when there is a
connection. There are none at the end when there are too many. -/

def userHeaders (o : Outbound) : Headers :=
  match credentials? o.url with
  | some (username, password) => [("authorization", authorization username password)]
  | none => []

/-- The headers when the body is known: the call may bring an authorization of its own. -/
def builtHeaders? (o : Outbound) : Option Headers := do
  let headers ← Headers.putAll? o.userHeaders o.headers
  if o.body.isSome && !headers.contains "content-type" then
    headers.put? "content-type" "application/json"
  else return headers

def namedHeaders? (o : Outbound) (userAgent : String) : Option Headers := do
  let headers ← o.builtHeaders?
  (← headers.offer? "accept" "*/*").offer? "user-agent" userAgent

def hostText (o : Outbound) : String :=
  match o.target.authority with
  | some a => String.ofList (a.host ++ a.portText)
  | none => ""

def connectedHeaders? (o : Outbound) (userAgent : String) : Option Headers := do
  (← o.namedHeaders? userAgent).offer? "host" o.hostText

def sentHeaders? (o : Outbound) (userAgent : String) : Option Headers :=
  (o.connectedHeaders? userAgent).bind fun headers =>
    match o.body with
    | some body => headers.put? "content-length" (toString body.compact.utf8ByteSize)
    | none => some headers

def message? (o : Outbound) (userAgent : String) : Option Message :=
  (o.sentHeaders? userAgent).map fun headers =>
    { verb := o.verb, url := o.target, headers, body := o.body.map Json.compact }

end Outbound

end RestGateway
