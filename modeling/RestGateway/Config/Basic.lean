import RestGateway.Deadline
import RestGateway.Json.Printer
import RestGateway.Routes

/-!
# Configuration

The settings of a gateway in five sections, with the values that settings have when nothing is said
about them.
-/
namespace RestGateway

namespace Config

structure Listener where
  bindAddress : String := "0.0.0.0:50051"
  maxConcurrency : Nat := 10
  maxBodyBytes : Nat := 2 * 1024 * 1024
  deriving DecidableEq, Repr

structure Service where
  baseUrl : String := "http://localhost:8000"
  requestTimeoutSeconds : Nat := 30
  maxRequestTimeoutSeconds : Nat := 120
  connectTimeoutSeconds : Nat := 5
  userAgent : String := "rpc-bridge/0.1.0"
  deriving DecidableEq, Repr

structure HealthCheck where
  path : String := "/health"
  timeoutSeconds : Nat := 5
  deriving DecidableEq, Repr

structure Routing where
  routes : Dict String := [("CreateUser", "/api/users"),
    ("DeleteUser", "/api/users/\x7buser_id\x7d"), ("GetUser", "/api/users/\x7buser_id\x7d"),
    ("UpdateUser", "/api/users/\x7buser_id\x7d")]
  fallbackStart : String := "/api/"
  /-- Whether what is in the path is left out elsewhere. -/
  stripBoundParams : Bool := false
  deriving DecidableEq, Repr

inductive LogFormat where
  | pretty
  | json
  deriving DecidableEq, Repr

def LogFormat.name : LogFormat → String
  | pretty => "pretty"
  | json => "json"

structure Observability where
  logLevel : String := "info"
  logFormat : LogFormat := .pretty
  metricsEnabled : Bool := false
  metricsAddress : String := "0.0.0.0:9090"
  deriving DecidableEq, Repr

end Config

structure Config where
  listener : Config.Listener := {}
  service : Config.Service := {}
  healthCheck : Config.HealthCheck := {}
  routing : Config.Routing := {}
  observability : Config.Observability := {}
  deriving DecidableEq, Repr

namespace Config

def Service.requestTimeout (s : Service) : Duration := .ofSeconds s.requestTimeoutSeconds

def Service.maxRequestTimeout (s : Service) : Duration := .ofSeconds s.maxRequestTimeoutSeconds

def HealthCheck.timeout (h : HealthCheck) : Duration := .ofSeconds h.timeoutSeconds

def Routing.toRoutes (r : Routing) : Routes := ⟨r.routes, r.fallbackStart⟩

/-- The filter for log entries, when none is given from outside. -/
def defaultFilter (level : String) : String := "rpc_bridge=" ++ level ++ ",tower_http=" ++ level

/-- The levels of the log at which the ordinary course of the server is reported: by name, by
number, or not given. -/
def reportingLevels : List String := ["info", "debug", "trace", "3", "4", "5", ""]

/-- Whether the log tells that the server has stopped. -/
def Observability.reports (o : Observability) : Bool :=
  reportingLevels.contains (String.ofList (o.logLevel.toList.map Char.toLower))

/-! ### As JSON -/

def Listener.json (l : Listener) : Json :=
  .object [("bind_address", .string l.bindAddress), ("max_concurrency", .ofNat l.maxConcurrency),
    ("max_body_bytes", .ofNat l.maxBodyBytes)]

def Service.json (s : Service) : Json :=
  .object [("base_url", .string s.baseUrl),
    ("request_timeout_secs", .ofNat s.requestTimeoutSeconds),
    ("max_request_timeout_secs", .ofNat s.maxRequestTimeoutSeconds),
    ("connect_timeout_secs", .ofNat s.connectTimeoutSeconds), ("user_agent", .string s.userAgent)]

def HealthCheck.json (h : HealthCheck) : Json :=
  .object [("path", .string h.path), ("timeout_secs", .ofNat h.timeoutSeconds)]

def Routing.json (r : Routing) : Json :=
  .object [("routes", .object (r.routes.map fun (method, template) => (method, .string template))),
    ("fallback_prefix", .string r.fallbackStart), ("strip_bound_params", .bool r.stripBoundParams)]

def Observability.json (o : Observability) : Json :=
  .object [("log_level", .string o.logLevel), ("log_format", .string o.logFormat.name),
    ("metrics_enabled", .bool o.metricsEnabled), ("metrics_address", .string o.metricsAddress)]

def json (c : Config) : Json :=
  .object [("listener", c.listener.json), ("downstream", c.service.json),
    ("health_check", c.healthCheck.json), ("routing", c.routing.json),
    ("observability", c.observability.json)]

end Config

end RestGateway
