import MessageBus.Main
import MessageBus.Proofs.Book.Service
import MessageBus.Proofs.Bus.Run
import MessageBus.Proofs.Client.Outcome
import MessageBus.Proofs.Client.Sockets
import MessageBus.Proofs.Client.Statistics
import MessageBus.Proofs.Network.Exchange
import MessageBus.Proofs.Network.Replies
import MessageBus.Proofs.Session.Cancelling
import MessageBus.Proofs.Session.Forwarding
import MessageBus.Proofs.Session.Sending
import MessageBus.Proofs.Session.Teardown
import MessageBus.Simulation.Handles
import MessageBus.Simulation.Publishing
import MessageBus.Simulation.Running
import MessageBus.Simulation.Serving
import MessageBus.Telemetry.Settings
import MessageBus.Proofs.Bus.Delivery
import MessageBus.Proofs.Publisher.Order
import MessageBus.Proofs.Server.Replies
import MessageBus.Proofs.Json.Grammar
import MessageBus.Proofs.Json.Strings
import MessageBus.Proofs.Json.Numbers
import MessageBus.Proofs.Json.Spelling
import MessageBus.Proofs.Json.Compact
import MessageBus.Proofs.Json.Accepting
import MessageBus.Proofs.Json.Paths
import MessageBus.Proofs.Envelope.Language
import MessageBus.Proofs.Envelope.Reencoding
import MessageBus.Proofs.Session.Deliveries
import MessageBus.Proofs.Client.Fleet
import MessageBus.Proofs.Network.Addresses
import MessageBus.Proofs.Network.FanOut
import MessageBus.Proofs.Topic.Text
import MessageBus.Proofs.Topic.Key
import MessageBus.Proofs.Topic.Matching
import MessageBus.Proofs.Text.Order
import MessageBus.Proofs.Config.Registry
import MessageBus.Proofs.Topic.Object
import MessageBus.Proofs.Envelope.Encoding
import MessageBus.Proofs.Command.Parameters
import MessageBus.Proofs.Params.Unsigned
import MessageBus.Proofs.Envelope.Rendering
import MessageBus.Proofs.Topic.Scope
import MessageBus.Proofs.Command.Execution
