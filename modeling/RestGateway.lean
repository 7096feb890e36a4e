import RestGateway.Form
import RestGateway.Template
import RestGateway.Verb
import RestGateway.Routes
import RestGateway.Deadline
import RestGateway.Reply
import RestGateway.Config.Decoder
import RestGateway.Config.Rules
import RestGateway.Config.Loader
import RestGateway.Gateway
import RestGateway.StopChannel
import RestGateway.RequestId
import RestGateway.Server
import RestGateway.Startup
import RestGateway.ServeCommand
import RestGateway.CallCommand
import RestGateway.Relay
import RestGateway.Main
import RestGateway.Proofs.Braces
import RestGateway.Proofs.Accounting
import RestGateway.Proofs.Duration
import RestGateway.Proofs.EncodedSegment
import RestGateway.Proofs.Gateway.PathParameters
import RestGateway.Proofs.Gateway.FallbackArea
import RestGateway.Proofs.Gateway.Payload
import RestGateway.Proofs.Gateway.Outcome
import RestGateway.Proofs.Gateway.Message
import RestGateway.Proofs.Gateway.Query
import RestGateway.Proofs.Gateway.Room
import RestGateway.Proofs.Gateway.Identifiers
import RestGateway.Proofs.Server.Calls
import RestGateway.Proofs.Server.Answering
import RestGateway.Proofs.Server.BodyLimit
import RestGateway.Proofs.Server.Tracing
import RestGateway.Proofs.StopChannel
import RestGateway.Proofs.Startup
import RestGateway.Proofs.Json.Records
import RestGateway.Proofs.Wire
import RestGateway.Proofs.Gateway.Deadline
import RestGateway.Proofs.Config.Violations
import RestGateway.Proofs.Config.Overlay
