import RestGateway.CallCommand
import RestGateway.Server

/-!
# Messages as lines of text

A gateway that has no network of its own is connected by lines of JSON. What it sends is a line that
another program carries to its goal, and the next line tells what came of it.
-/
namespace RestGateway.Relay

/-! ### Lines that are read -/

def text? : Option Json → Option String
  | some (.string s) => some s
  | _ => none

def pair? : Json → Option (String × String)
  | .array [.string name, .string value] => some (Headers.lower name, value)
  | _ => none

def pairs? : Option Json → Option (List (String × String))
  | none => some []
  | some (.array items) => items.mapM pair?
  | _ => none

def inbound? (line : String) : Option Inbound :=
  match Json.parse line with
  | .ok (.object members) => do
    let body := text? (Dict.find? members "body")
    return {
      method := (text? (Dict.find? members "method")).getD "POST"
      path := ← text? (Dict.find? members "path")
      headers := ← pairs? (Dict.find? members "headers")
      body := Percent.utf8 (body.getD "").toList
      announcesLength := body.isSome }
  | _ => none

/-- The reply in a line, which has a status and a body; none if there was no reply. -/
def reply? (line : String) : Option Reply :=
  match Json.parse line with
  | .ok (.object members) =>
    match Dict.find? members "status", Dict.find? members "body" with
    | some (.number (.integer status)), some (.string body) => some ⟨status.toNat, body⟩
    | _, _ => none
  | _ => none

def exchange (line : String) : Gateway.Exchange :=
  match reply? line with
  | some r => .reply r
  | none => .unreachable

/-! ### Lines that are written -/

def optional : Option String → Json
  | some s => .string s
  | none => .null

def pairs (xs : List (String × String)) : Json :=
  .array (xs.map fun (name, value) => .array [.string name, .string value])

def line (name : String) (members : List (String × Json)) : String :=
  (Json.object [(name, .object members)]).compact

def sendLine (m : Message) : String :=
  line "send" [("method", .string m.verb.name), ("url", .string m.url.text),
    ("headers", pairs m.headers), ("body", optional m.body)]

def callLine (s : CallCommand.Sent) : String :=
  line "send" [("method", .string (if s.body.isSome then "POST" else "GET")),
    ("url", .string s.url), ("body", optional s.body)]

def answerLine (a : Answer) : String :=
  line "answer" [("status", .ofNat a.status), ("content-type", optional a.contentType),
    ("allow", optional a.allow), ("x-request-id", optional a.requestId), ("body", .string a.body)]

def unreadableLine : String := line "unreadable" []

/-- The connection ends without an answer. -/
def closedLine : String := line "closed" []

/-! ### The course of a request -/

/-- What a request of a caller leads to: the request to the service, if there is one, and the line
that answers, once it is known what came of it. -/
structure Turn where
  message : Option Message
  finish : Gateway.Exchange → String

def turn (s : Server) (nowMillis : Nat) (fresh : String) (i : Inbound) : Turn :=
  let handled := fun e => s.handle (.answering fun _ => e) nowMillis fresh i
  { message := (handled .unreachable).bind fun (_, sent) => sent.head?
    finish := fun e =>
      match handled e with
      | some (answer, _) => answerLine answer
      | none => closedLine }

end RestGateway.Relay
