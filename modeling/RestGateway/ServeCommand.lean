import RestGateway.CommandHelp
import RestGateway.CommandLine
import RestGateway.Startup

/-!
# The command that serves

The server starts with the configuration in a file, or the usual one, and with settings of the
command line that go before it.
-/
namespace RestGateway.ServeCommand

def options : List CommandOption := [⟨"config", some 'c'⟩, ⟨"bind", none⟩, ⟨"downstream", none⟩]

def help : CommandHelp where
  about := "Serve a resource-oriented HTTP API as Execute/Compensate/HealthCheck RPCs"
  usage := "rpc-bridge [OPTIONS]"
  tables := [("Options", [
    ("-c, --config <CONFIG>", "Path to a TOML configuration file"),
    ("    --bind <BIND>", "Override listener.bind_address"),
    ("    --downstream <DOWNSTREAM>", "Override downstream.base_url"),
    CommandHelp.row])]

/-- The options of the command; none when the words do not make sense. A file has a name. -/
def read (args : List String) : Option (Wish CommandLine) := do
  let line ← CommandLine.read options args
  if !line.words.isEmpty || line.value? "config" = some "" then none
  else if line.asksForHelp then some (.help help)
  else some (.act line)

inductive Error where
  | load (e : Config.LoadError)
  | startup (e : Startup.Error)
  deriving DecidableEq, Repr

def Error.shown : Error → String
  | load e => e.shown
  | startup e => e.shown

def Error.output (e : Error) : String := "Error: " ++ e.shown ++ "\n"

/-- The configuration in a file, or the usual one, with the settings of the command line. -/
def config (file : String → Except Config.FileProblem (List UInt8)) (line : CommandLine) :
    Except Error Config := do
  let c ← match line.value? "config" with
    | some path => (Config.load path (file path)).mapError Error.load
    | none => .ok {}
  let c := match line.value? "bind" with
    | some address => { c with listener := { c.listener with bindAddress := address } }
    | none => c
  return match line.value? "downstream" with
    | some url => { c with service := { c.service with baseUrl := url } }
    | none => c

def start (file : String → Except Config.FileProblem (List UInt8)) (line : CommandLine) :
    Except Error (Config × Gateway) := do
  let c ← config file line
  let g ← (Startup.gateway c).mapError Error.startup
  return (c, g)

end RestGateway.ServeCommand
