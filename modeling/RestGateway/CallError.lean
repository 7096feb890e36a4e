import RestGateway.Duration
import RestGateway.Json.Fault
import RestGateway.Url.Basic

/-!
# Failures of calls

Why a call has no data: its payload is of no use, the request could not be sent or was not answered
in time, the answer was a refusal, or its body is no JSON.
-/
namespace RestGateway

inductive CallError where
  | timeout (url : String) (limit : Duration)
  /-- No answer, or not all of it. -/
  | request (url : String) (reason : String)
  | invalidUrl (url : String) (reason : Url.Error)
  /-- The service answers that something is wrong; its words are passed on. -/
  | application (status : Nat) (body : String)
  | unreadableBody (reason : Json.Error)
  | invalidPayload (reason : String)
  deriving DecidableEq, Repr

namespace CallError

def kind : CallError → String
  | timeout _ _ => "timeout"
  | request _ _ => "transport"
  | invalidUrl _ _ => "transport"
  | application _ _ => "application"
  | unreadableBody _ => "parse"
  | invalidPayload _ => "invalid_payload"

def message : CallError → String
  | timeout url limit =>
    "request to " ++ url ++ " timed out after " ++ toString limit.millis ++ "ms"
  | request url reason => "request to " ++ url ++ " failed: " ++ reason
  | invalidUrl url reason => "invalid downstream URL '" ++ url ++ "': " ++ reason.message
  | application status body => if body.isEmpty then "HTTP " ++ toString status else body
  | unreadableBody reason => "failed to parse downstream response: " ++ reason.message
  | invalidPayload reason => "invalid payload: " ++ reason

def cause? : CallError → Option String
  | request _ reason => some reason
  | invalidUrl _ reason => some reason.message
  | unreadableBody reason => some reason.message
  | _ => none

end CallError

end RestGateway
