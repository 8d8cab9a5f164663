import Switchboard.Access.Message
import Switchboard.Access.Methods
import Switchboard.Address
import Switchboard.Chat.Message
import Switchboard.Chat.Methods
import Switchboard.Client.Basic
import Switchboard.Client.Channel
import Switchboard.Client.Link
import Switchboard.CommandLine
import Switchboard.Dispatch.Backend
import Switchboard.Dispatch.Call
import Switchboard.Dispatch.Dispatcher
import Switchboard.Dispatch.Handler
import Switchboard.Dispatch.Method
import Switchboard.Error
import Switchboard.Failure
import Switchboard.Host.Basic
import Switchboard.Host.Files
import Switchboard.Host.Listening
import Switchboard.Json.Basic
import Switchboard.Json.Codec
import Switchboard.Json.Magnitude
import Switchboard.Json.Printer
import Switchboard.Json.Reader
import Switchboard.Limits
import Switchboard.Main
import Switchboard.Playbook.Calls
import Switchboard.Playbook.Duets
import Switchboard.Playbook.Lines
import Switchboard.Playbook.Play
import Switchboard.Playbook.Reading
import Switchboard.Playbook.Registration
import Switchboard.Playbook.Report
import Switchboard.Playbook.Services
import Switchboard.Playbook.Setting
import Switchboard.Playbook.Sockets
import Switchboard.Playbook.Staging
import Switchboard.Playbook.Startup
import Switchboard.Proofs.Channel.Delivery
import Switchboard.Proofs.Channel.History
import Switchboard.Proofs.Channel.Outbound
import Switchboard.Proofs.Channel.Portions
import Switchboard.Proofs.Channel.Replies
import Switchboard.Proofs.Channel.Routing
import Switchboard.Proofs.Channel.Waiting
import Switchboard.Proofs.Channel.Waits
import Switchboard.Proofs.Conversation.Basic
import Switchboard.Proofs.Conversation.Calls
import Switchboard.Proofs.Conversation.Client
import Switchboard.Proofs.Conversation.Oversized
import Switchboard.Proofs.Conversation.Server
import Switchboard.Proofs.Conversation.Transparency
import Switchboard.Proofs.Dispatch.Call
import Switchboard.Proofs.Dispatch.Dispatcher
import Switchboard.Proofs.Dispatch.Verbatim
import Switchboard.Proofs.Json.Codec
import Switchboard.Proofs.Json.Lexeme
import Switchboard.Proofs.Json.Survival
import Switchboard.Proofs.Json.Value
import Switchboard.Proofs.Registry.Message
import Switchboard.Proofs.Registry.Refinement
import Switchboard.Proofs.Registry.Table
import Switchboard.Proofs.Wire.Arrival
import Switchboard.Proofs.Wire.Envelope
import Switchboard.Proofs.Wire.Header
import Switchboard.Proofs.Wire.Oversized
import Switchboard.Proofs.Wire.Pipe
import Switchboard.Proofs.Wire.Reader
import Switchboard.Proofs.Wire.RoundTrip
import Switchboard.Proofs.Wire.Sequence
import Switchboard.Proofs.Wire.Verdict
import Switchboard.Registry.Message
import Switchboard.Registry.Methods
import Switchboard.Registry.Service
import Switchboard.Registry.Table
import Switchboard.Rehearsal.Duet
import Switchboard.Rehearsal.Echo
import Switchboard.Rehearsal.Network
import Switchboard.Rehearsal.Part
import Switchboard.Rehearsal.Peer
import Switchboard.Rehearsal.Stage
import Switchboard.Sample.Service
import Switchboard.Server.Basic
import Switchboard.Server.Connection
import Switchboard.Server.Provider
import Switchboard.Server.Slots
import Switchboard.Service
import Switchboard.Text.Digits
import Switchboard.Text.Hidden
import Switchboard.Text.Lossy
import Switchboard.Text.Quoted
import Switchboard.Wire.Arrival
import Switchboard.Wire.Envelope
import Switchboard.Wire.Header
import Switchboard.Wire.Stream
import Switchboard.Proofs.Access.Message
import Switchboard.Proofs.Address.Text
import Switchboard.Proofs.Chat.Message
import Switchboard.Proofs.Registry.Commands
import Switchboard.Proofs.Registry.Requests
import Switchboard.Proofs.Registry.Sessions
import Switchboard.Proofs.Server.Location
import Switchboard.Proofs.Server.Serving
import Switchboard.Proofs.Channel.Orderly
import Switchboard.Proofs.Channel.Race
import Switchboard.Proofs.Channel.Refusal
import Switchboard.Proofs.Channel.Tidiness
import Switchboard.Proofs.Host.Actions
import Switchboard.Proofs.Host.Binding
import Switchboard.Proofs.Host.Paths
import Switchboard.Proofs.Server.Intake
import Switchboard.Proofs.Server.Shutdown
import Switchboard.Proofs.Server.Site
import Switchboard.Proofs.Server.Sockets
import Switchboard.Proofs.Server.Tasks
import Switchboard.Proofs.Address.Grammar
import Switchboard.Proofs.Address.RoundTrip
import Switchboard.Proofs.Dispatch.Desk
import Switchboard.Proofs.Dispatch.Invocation
import Switchboard.Proofs.Wire.Failure
import Switchboard.Proofs.Chat.Listing
import Switchboard.Proofs.Server.Capacity
import Switchboard.Proofs.Server.LifeCycle
import Switchboard.Proofs.Entries
