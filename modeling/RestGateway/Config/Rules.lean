import RestGateway.Config.Basic
import RestGateway.SocketAddress
import RestGateway.Template
import RestGateway.Text.Blank
import RestGateway.Text.Quoted
import RestGateway.Url.Parser

/-!
# Rules for configurations

What has to hold of a configuration before a gateway is made from it. `Config.problems` lists every
rule that is broken, in a fixed order, each with the text or the numbers that break it.
-/
namespace RestGateway.Config
open Text (quoted)

inductive Problem where
  | invalidBaseUrl (url : String) (reason : Url.Error)
  | unsupportedScheme (url : String)
  | baseUrlQueryOrFragment (url : String)
  | defaultTimeoutAboveMax (usual greatest : Nat)
  | zero (setting : String)
  | invalidAddress (setting value : String)
  | invalidHealthPath (path : String)
  | emptyMethod
  | invalidTemplate (method template : String) (reason : Template.Problem)
  | invalidFallbackStart (start : String)
  deriving DecidableEq, Repr

namespace Problem

def name : Problem → String
  | invalidBaseUrl _ _ => "InvalidBaseUrl"
  | unsupportedScheme _ => "UnsupportedScheme"
  | baseUrlQueryOrFragment _ => "BaseUrlQueryOrFragment"
  | defaultTimeoutAboveMax _ _ => "DefaultTimeoutAboveMax"
  | zero _ => "Zero"
  | invalidAddress _ _ => "InvalidAddress"
  | invalidHealthPath _ => "InvalidHealthPath"
  | emptyMethod => "EmptyMethod"
  | invalidTemplate _ _ _ => "InvalidTemplate"
  | invalidFallbackStart _ => "InvalidFallbackPrefix"

def message : Problem → String
  | invalidBaseUrl url reason =>
    "downstream.base_url '" ++ url ++ "' is not a valid URL: " ++ reason.message
  | unsupportedScheme url => "downstream.base_url '" ++ url ++ "' must use http or https"
  | baseUrlQueryOrFragment url =>
    "downstream.base_url '" ++ url ++ "' must not carry a query or fragment"
  | defaultTimeoutAboveMax usual greatest =>
    "downstream.request_timeout_secs (" ++ toString usual ++
      ") exceeds downstream.max_request_timeout_secs (" ++ toString greatest ++ ")"
  | zero setting => setting ++ " must be greater than zero"
  | invalidAddress setting value => setting ++ " '" ++ value ++ "' is not a valid socket address"
  | invalidHealthPath path => "health_check.path '" ++ path ++ "' must start with '/'"
  | emptyMethod => "routing.routes contains an empty method name"
  | invalidTemplate method template reason =>
    "route '" ++ method ++ "' template '" ++ template ++ "' is invalid: " ++ reason.message
  | invalidFallbackStart start => "routing.fallback_prefix '" ++ start ++ "' must start with '/'"

def record (parts : List (String × String)) : String :=
  " \x7b " ++ ", ".intercalate (parts.map fun (name, value) => name ++ ": " ++ value) ++ " \x7d"

/-- The problem as a value, as a command shows it that ends because of it. -/
def shown (p : Problem) : String :=
  p.name ++ match p with
    | invalidBaseUrl url reason => record [("url", quoted url), ("reason", quoted reason.message)]
    | unsupportedScheme url => "(" ++ quoted url ++ ")"
    | baseUrlQueryOrFragment url => "(" ++ quoted url ++ ")"
    | defaultTimeoutAboveMax usual greatest =>
      record [("default", toString usual), ("max", toString greatest)]
    | zero setting => "(" ++ quoted setting ++ ")"
    | invalidAddress setting value => record [("field", quoted setting), ("value", quoted value)]
    | invalidHealthPath path => "(" ++ quoted path ++ ")"
    | emptyMethod => ""
    | invalidTemplate method template reason =>
      record [("method", quoted method), ("template", quoted template),
        ("reason", quoted reason.message)]
    | invalidFallbackStart start => "(" ++ quoted start ++ ")"

end Problem

/-! ### The rules -/

def report (broken : Bool) (problem : Problem) : List Problem := if broken then [problem] else []

def addressProblem (setting value : String) : List Problem :=
  report (!SocketAddress.isValid value) (.invalidAddress setting value)

def addressProblems (c : Config) : List Problem :=
  addressProblem "listener.bind_address" c.listener.bindAddress ++
    if c.observability.metricsEnabled then
      addressProblem "observability.metrics_address" c.observability.metricsAddress
    else []

def isHttp (scheme : List Char) : Bool := scheme = "http".toList || scheme = "https".toList

/-- At most one problem: only what is a URL has a scheme, and only the parts of a URL with a usable
scheme count. -/
def baseUrlProblems (url : String) : List Problem :=
  match Url.parse url with
  | .error reason => [.invalidBaseUrl url reason]
  | .ok parsed =>
    if !isHttp parsed.scheme then [.unsupportedScheme url]
    else report (parsed.query.isSome || parsed.fragment.isSome) (.baseUrlQueryOrFragment url)

def timeoutProblems (s : Service) : List Problem :=
  report (s.requestTimeoutSeconds == 0) (.zero "downstream.request_timeout_secs") ++
    (if s.maxRequestTimeoutSeconds = 0 then [.zero "downstream.max_request_timeout_secs"]
      else report (s.maxRequestTimeoutSeconds < s.requestTimeoutSeconds)
        (.defaultTimeoutAboveMax s.requestTimeoutSeconds s.maxRequestTimeoutSeconds)) ++
    report (s.connectTimeoutSeconds == 0) (.zero "downstream.connect_timeout_secs")

def startsWithSlash (s : String) : Bool := s.toList.head? == some '/'

/-- At most one problem: the template of a blank method is not looked at. -/
def routeProblems (method template : String) : List Problem :=
  if Text.isBlank method then [.emptyMethod]
  else
    match Template.problem? template with
    | some reason => [.invalidTemplate method template reason]
    | none => []

def routingProblems (r : Routing) : List Problem :=
  report (!startsWithSlash r.fallbackStart) (.invalidFallbackStart r.fallbackStart) ++
    r.routes.flatMap fun (method, template) => routeProblems method template

/-- Every rule that the configuration breaks. -/
def problems (c : Config) : List Problem :=
  c.addressProblems ++ baseUrlProblems c.service.baseUrl ++ timeoutProblems c.service ++
    routingProblems c.routing ++
    report (c.listener.maxConcurrency == 0) (.zero "listener.max_concurrency") ++
    report (c.listener.maxBodyBytes == 0) (.zero "listener.max_body_bytes") ++
    report (c.healthCheck.timeoutSeconds == 0) (.zero "health_check.timeout_secs") ++
    report (!startsWithSlash c.healthCheck.path) (.invalidHealthPath c.healthCheck.path)

def isValid (c : Config) : Bool := c.problems.isEmpty

end RestGateway.Config
