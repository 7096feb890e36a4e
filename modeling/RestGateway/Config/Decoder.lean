import RestGateway.Config.Basic
import RestGateway.Config.Document

/-!
# Reading a configuration

Every section starts from its usual settings, and a document replaces the settings that it has. A
table of routes replaces all routes.
-/
namespace RestGateway.Config
open Document (Setting)

def Listener.settings : List (Setting Listener) := [
  .ofText "bind_address" fun l x => { l with bindAddress := x },
  .ofSize "max_concurrency" fun l x => { l with maxConcurrency := x },
  .ofSize "max_body_bytes" fun l x => { l with maxBodyBytes := x }]

def Service.settings : List (Setting Service) := [
  .ofText "base_url" fun s x => { s with baseUrl := x },
  .ofSeconds "request_timeout_secs" fun s x => { s with requestTimeoutSeconds := x },
  .ofSeconds "max_request_timeout_secs" fun s x => { s with maxRequestTimeoutSeconds := x },
  .ofSeconds "connect_timeout_secs" fun s x => { s with connectTimeoutSeconds := x },
  .ofText "user_agent" fun s x => { s with userAgent := x }]

def HealthCheck.settings : List (Setting HealthCheck) := [
  .ofText "path" fun h x => { h with path := x },
  .ofSeconds "timeout_secs" fun h x => { h with timeoutSeconds := x }]

def Routing.settings : List (Setting Routing) := [
  .of "routes" (fun _ => Document.readTexts) fun r x => { r with routes := x },
  .ofText "fallback_prefix" fun r x => { r with fallbackStart := x },
  .ofSwitch "strip_bound_params" fun r x => { r with stripBoundParams := x }]

def LogFormat.all : List LogFormat := [pretty, json]

def Observability.settings : List (Setting Observability) := [
  .ofText "log_level" fun o x => { o with logLevel := x },
  .of "log_format" (fun dialect =>
      Document.readChoice dialect (LogFormat.all.map fun format => (format.name, format)))
    fun o x => { o with logFormat := x },
  .ofSwitch "metrics_enabled" fun o x => { o with metricsEnabled := x },
  .ofText "metrics_address" fun o x => { o with metricsAddress := x }]

def settings : List (Setting Config) := [
  .ofSection "listener" "ListenerConfig" Listener.settings {} fun c x => { c with listener := x },
  .ofSection "downstream" "DownstreamConfig" Service.settings {} fun c x => { c with service := x },
  .ofSection "health_check" "HealthCheckConfig" HealthCheck.settings {}
    fun c x => { c with healthCheck := x },
  .ofSection "routing" "RoutingConfig" Routing.settings {} fun c x => { c with routing := x },
  .ofSection "observability" "ObservabilityConfig" Observability.settings {}
    fun c x => { c with observability := x }]

/-- The configuration that a document describes. -/
def ofDocument (dialect : Document.Dialect) (d : Document) : Except Mismatch Config :=
  Document.readSection "BridgeConfig" settings {} dialect d

def ofJson (v : Json) : Except Mismatch Config := ofDocument .json (.ofJson v)

end RestGateway.Config
