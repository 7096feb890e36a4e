import RestGateway.CommandHelp
import RestGateway.CommandLine
import RestGateway.HttpStatus
import RestGateway.Server

/-!
# The command that calls

A call is sent to a running server, and the answer is shown.
-/
namespace RestGateway.CallCommand

inductive Request where
  | call (operation : Server.Operation) (method payload : String) (timeoutMillis : Option Nat)
  | health
  deriving DecidableEq, Repr

structure Parsed where
  url : String
  request : Request
  deriving DecidableEq, Repr

def options : List CommandOption := [⟨"url", some 'u'⟩]

def callOptions : List CommandOption := [⟨"payload", some 'p'⟩, ⟨"timeout-ms", none⟩]

def usualUrl : String := "http://localhost:50051"

def usualPayload : String := "\x7b\x7d"

/-! ### Help -/

def operations : List (String × String) := [
  ("execute", "Execute a method"), ("compensate", "Compensate a method"),
  ("health", "Probe downstream health through the bridge")]

def help : CommandHelp where
  about := "Command-line client for a running RPC bridge"
  usage := "bridge-cli [OPTIONS] <COMMAND>"
  tables := [
    ("Commands", operations ++ [
      ("help", "Print this message or the help of the given subcommand(s)")]),
    ("Options", [("-u, --url <URL>", "[default: " ++ usualUrl ++ "]"), CommandHelp.row])]

/-- Help with a call; `payload` and `timeout` say what the options mean. -/
def callHelp (about name payload timeout : String) : CommandHelp where
  about
  usage := "bridge-cli " ++ name ++ " [OPTIONS] <METHOD>"
  tables := [
    ("Arguments", [("<METHOD>", "")]),
    ("Options", [
      ("-p, --payload <PAYLOAD>", payload ++ "[default: " ++ usualPayload ++ "]"),
      ("    --timeout-ms <TIMEOUT_MS>", timeout), CommandHelp.row])]

def helpWith : Server.Operation → CommandHelp
  | .execute => callHelp "Execute a method" "execute" "JSON object payload "
      "Downstream deadline in milliseconds"
  | .compensate => callHelp "Compensate a method" "compensate" "" ""
  | .health => ⟨"Probe downstream health through the bridge", "bridge-cli health",
      [("Options", [CommandHelp.row])]⟩

/-! ### The words of the command -/

def readCall (operation : Server.Operation) (args : List String) : Option (Wish Request) := do
  let line ← CommandLine.read callOptions args
  let timeout ← match line.value? "timeout-ms" with
    | some text => (CommandLine.natural? text).map some
    | none => some none
  match line.words, line.asksForHelp with
  | [method], false =>
    return .act (.call operation method ((line.value? "payload").getD usualPayload) timeout)
  | [_], true => return .help (helpWith operation)
  | [], true => return .help (helpWith operation)
  | _, _ => none

def readHealth (args : List String) : Option (Wish Request) := do
  let line ← CommandLine.read [] args
  if !line.words.isEmpty then none
  else if line.asksForHelp then some (.help (helpWith .health))
  else some (.act .health)

def read (args : List String) : Option (Wish Parsed) := do
  let (line, rest) ← CommandLine.readUntil options (fun _ => true) .empty args
  if !line.words.isEmpty then none
  if line.asksForHelp then return .help help
  let wish ← match rest with
    | "execute" :: rest => readCall .execute rest
    | "compensate" :: rest => readCall .compensate rest
    | "health" :: rest => readHealth rest
    | ["help"] => some (.help help)
    | ["help", "execute"] => some (.help (helpWith .execute))
    | ["help", "compensate"] => some (.help (helpWith .compensate))
    | ["help", "health"] => some (.help (helpWith .health))
    | _ => none
  return match wish with
    | .help h => .help h
    | .act request => .act ⟨(line.value? "url").getD usualUrl, request⟩

/-! ### The call -/

def callOf (method payload : String) (timeoutMillis : Option Nat) : Except Json.Error Call := do
  return { Call.ofMethod method with payload := ← Json.parse payload, timeoutMillis }

structure Sent where
  url : String
  body : Option String
  deriving DecidableEq, Repr

def sent (p : Parsed) : Except Json.Error Sent :=
  match p.request with
  | .health => .ok ⟨p.url ++ "/rpc/health", none⟩
  | .call operation method payload timeout => do
    let c ← callOf method payload timeout
    let path := if operation = .compensate then "/rpc/compensate" else "/rpc/execute"
    return ⟨p.url ++ path, some c.text⟩

inductive Ending where
  | badPayload (e : Json.Error)
  /-- There was no answer, or one that is not JSON. -/
  | failed
  | refused (status : Nat) (body : String)
  | shown (answer : Json)

def ofReply : Option Reply → Ending
  | none => .failed
  | some r =>
    if HttpStatus.isSuccess r.status then
      match Json.parse r.body with
      | .ok answer => .shown answer
      | .error _ => .failed
    else .refused r.status r.body

/-- Make the call; `server` gives the reply to what is sent, if there is one. -/
def run (server : Sent → Option Reply) (p : Parsed) : Ending :=
  match sent p with
  | .error e => .badPayload e
  | .ok s => ofReply (server s)

namespace Ending

def exitCode : Ending → Nat
  | badPayload _ => 1
  | failed => 1
  | refused _ _ => 0
  | shown _ => 0

def output : Ending → String
  | shown answer => answer.indented ++ "\n"
  | _ => ""

/-- What is written about an error; the words for a failed request are those of the network. -/
def errorOutput (network : String) : Ending → String
  | badPayload e => "Error: " ++ e.shown ++ "\n"
  | failed => "Error: " ++ network ++ "\n"
  | refused status body =>
    "Error: bridge returned status " ++ HttpStatus.text status ++ "\nResponse: " ++ body ++ "\n"
  | shown _ => ""

end Ending

end RestGateway.CallCommand
