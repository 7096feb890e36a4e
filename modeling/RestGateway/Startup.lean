import RestGateway.Config.Loader
import RestGateway.Server
import RestGateway.StopChannel

/-!
# Starting and stopping

A server starts with a configuration that keeps all rules. While it runs, a listener waits for a
signal of the system. `Startup.Step` lists what the system, the listener and the server may do, one
step at a time and in any order, from the moment at which the listener waits.
-/
namespace RestGateway

namespace Startup

inductive Error where
  | config (e : Config.LoadError)
  | build (e : BuildError)
  | bind (address reason : String)
  deriving DecidableEq, Repr

def gateway (c : Config) : Except Error Gateway := do
  let c ← (Config.checked c).mapError Error.config
  (Gateway.ofConfig c id).mapError Error.build

def shownClient : String :=
  "Client(reqwest::Error \x7b kind: Builder, source: http::Error(InvalidHeaderValue) \x7d)"

def shownBuild : BuildError → String
  | .invalidUrl url reason =>
    "InvalidUrl" ++ Config.Problem.record [("url", Text.quoted url), ("source", reason.shown)]
  | .client => shownClient

def Error.shown : Error → String
  | config e => "Config(" ++ e.shown ++ ")"
  | build e => "Build(" ++ shownBuild e ++ ")"
  | bind address reason =>
    "Bind" ++ Config.Problem.record [("address", Text.quoted address), ("source", reason)]

/-! ### A signal during the start -/

inductive Listener where
  | waiting
  | triggering
  /-- It has passed a signal on, or was told to stop. -/
  | leaving (sawSignal : Bool)
  | ended (sawSignal : Bool)
  deriving DecidableEq, Repr

inductive Main where
  | building
  | subscribing
  | starting
  | serving
  | closing
  | joining
  | done
  deriving DecidableEq, Repr

/-- The listener has receiver 0 and handle 1. The server keeps handle 0, and receiver 1 is its own
once it is there. `signals` counts the signals of the system. -/
structure State where
  signals : Nat
  channel : StopChannel
  listener : Listener
  main : Main
  deriving DecidableEq, Repr

def State.start : State := ⟨0, StopChannel.new.clone.1.subscribe.1, .waiting, .building⟩

inductive Action where
  | signal
  | observe
  | trigger
  | told
  | leave
  | build
  | subscribe
  | listen
  | fail
  | stop
  | close
  | join
  deriving DecidableEq, Repr

inductive Step : Action → State → State → Prop where
  | signal {s : State} : Step .signal s { s with signals := s.signals + 1 }
  | observe {s : State} : s.listener = .waiting → 0 < s.signals →
      Step .observe s { s with listener := .triggering }
  | trigger {s : State} : s.listener = .triggering →
      Step .trigger s { s with channel := s.channel.trigger, listener := .leaving true }
  | told {s : State} {channel : StopChannel} {found : StopChannel.Received} :
      s.listener = .waiting → s.channel.receive? 0 = some (channel, found) → found ≠ .empty →
      Step .told s { s with channel := channel, listener := .leaving false }
  | leave {s : State} {sawSignal : Bool} : s.listener = .leaving sawSignal →
      Step .leave s { s with
        channel := (s.channel.dropReceiver 0).dropHandle 1, listener := .ended sawSignal }
  | build {s : State} : s.main = .building → Step .build s { s with main := .subscribing }
  | subscribe {s : State} : s.main = .subscribing →
      Step .subscribe s { s with channel := s.channel.subscribe.1, main := .starting }
  | listen {s : State} : s.main = .starting → Step .listen s { s with main := .serving }
  /-- The socket cannot be used. -/
  | fail {s : State} : s.main = .starting →
      Step .fail s { s with channel := s.channel.dropReceiver 1, main := .closing }
  | stop {s : State} {channel : StopChannel} {found : StopChannel.Received} :
      s.main = .serving → s.channel.receive? 1 = some (channel, found) → found ≠ .empty →
      Step .stop s { s with channel := channel.dropReceiver 1, main := .closing }
  | close {s : State} : s.main = .closing →
      Step .close s { s with channel := s.channel.trigger, main := .joining }
  | join {s : State} {sawSignal : Bool} : s.main = .joining → s.listener = .ended sawSignal →
      Step .join s { s with main := .done }

/-- The courses that a start can take, the latest step first. -/
inductive Run : List Action → State → Prop where
  | start : Run [] State.start
  | step {past : List Action} {a : Action} {s t : State} :
      Run past s → Step a s t → Run (a :: past) t

end Startup

end RestGateway
