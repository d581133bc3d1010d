import ScriptedChat.Action
import ScriptedChat.AnswersTable
import ScriptedChat.Api.Body
import ScriptedChat.Api.Handler
import ScriptedChat.Api.MediaType
import ScriptedChat.Api.Route
import ScriptedChat.Binary64
import ScriptedChat.Bot
import ScriptedChat.Bus.Flusher
import ScriptedChat.Bus.Outbox
import ScriptedChat.Bus.Publisher
import ScriptedChat.Bus.Queue
import ScriptedChat.Channel.Adapter
import ScriptedChat.Channel.Dispatcher
import ScriptedChat.Channel.Process
import ScriptedChat.Config.Basic
import ScriptedChat.Config.Launch
import ScriptedChat.Config.SocketAddress
import ScriptedChat.Conversation
import ScriptedChat.Database.Basic
import ScriptedChat.Database.Bots
import ScriptedChat.Database.Messages
import ScriptedChat.Database.Participants
import ScriptedChat.Database.View
import ScriptedChat.Engine.Basic
import ScriptedChat.Engine.Command
import ScriptedChat.Envelope
import ScriptedChat.Error
import ScriptedChat.Identity
import ScriptedChat.Json.Basic
import ScriptedChat.Json.Number
import ScriptedChat.Json.Printer
import ScriptedChat.Json.Reader
import ScriptedChat.Json.Shape
import ScriptedChat.Participant
import ScriptedChat.Rehearsal.Mishap
import ScriptedChat.Rehearsal.Stage
import ScriptedChat.Script.Basic
import ScriptedChat.Script.Block
import ScriptedChat.Script.Document
import ScriptedChat.Script.Painter
import ScriptedChat.Store.Interface
import ScriptedChat.Store.Memory
import ScriptedChat.Table
import ScriptedChat.Text.Blank
import ScriptedChat.Text.Numeral
import ScriptedChat.Text.Percent
import ScriptedChat.Text.Quoted
import ScriptedChat.Text.Unprinted
import ScriptedChat.Time
import ScriptedChat.Uuid
import ScriptedChat.View
import ScriptedChat.Proofs.Script.Graph
import ScriptedChat.Proofs.Script.Reachability
import ScriptedChat.Proofs.Script.WellFormed
import ScriptedChat.Proofs.Conversation.Steps
import ScriptedChat.Proofs.Latest
import ScriptedChat.Proofs.Conversation.Reentry
import ScriptedChat.Proofs.Actions
import ScriptedChat.Proofs.Layouts
import ScriptedChat.Proofs.Engine.World
import ScriptedChat.Proofs.Engine.Effect
import ScriptedChat.Proofs.Engine.Handling
import ScriptedChat.Proofs.Engine.Mailing
import ScriptedChat.Proofs.Engine.Sound
import ScriptedChat.Proofs.History
import ScriptedChat.Proofs.Report
import ScriptedChat.Proofs.Agreement
import ScriptedChat.Proofs.Database.Rows
import ScriptedChat.Proofs.Database.Mirror
import ScriptedChat.Proofs.Database.Operations
import ScriptedChat.Proofs.Database.Changes
import ScriptedChat.Proofs.Engine.Interchange
import ScriptedChat.Proofs.Exchanges
import ScriptedChat.Proofs.Identifiers
import ScriptedChat.Proofs.Channel.Sessions
import ScriptedChat.Proofs.Channel.Line
import ScriptedChat.Proofs.Engine.Listing
import ScriptedChat.Proofs.Engine.Publishing
import ScriptedChat.Proofs.Channel.Moves
import ScriptedChat.Proofs.Channel.Orphans
import ScriptedChat.Proofs.Channel.Accord
import ScriptedChat.Proofs.Channel.Delivery
import ScriptedChat.Proofs.Database.Messages
import ScriptedChat.Proofs.Bus.Reading
import ScriptedChat.Proofs.Bus.Ledger
import ScriptedChat.Proofs.Bus.AllOrNothing
import ScriptedChat.Proofs.Engine.Failure
import ScriptedChat.Proofs.Script.Descent
import ScriptedChat.Proofs.Conversation.Landing
import ScriptedChat.Proofs.Conversation.Ending
import ScriptedChat.Proofs.Conversation.Coverage
import ScriptedChat.Proofs.Bots.Consistency
import ScriptedChat.Proofs.Conversation.Resting
import ScriptedChat.Proofs.Waiting
import ScriptedChat.Proofs.Engine.Recheck
import ScriptedChat.Proofs.Engine.Alike
import ScriptedChat.Proofs.Engine.Ownership
import ScriptedChat.Proofs.Engine.Seclusion
import ScriptedChat.Proofs.Operators
import ScriptedChat.Proofs.Channel.Rounds
import ScriptedChat.Proofs.Channel.Sittings
import ScriptedChat.Proofs.Channel.Discipline
import ScriptedChat.Proofs.Bus.Watching
import ScriptedChat.Proofs.Bus.Backlog
import ScriptedChat.Proofs.Conversation.Chains
import ScriptedChat.Proofs.Engine.Boundary
import ScriptedChat.Proofs.Engine.Vacancy
import ScriptedChat.Proofs.Engine.Confinement
import ScriptedChat.Proofs.Engine.Masking
import ScriptedChat.Proofs.Engine.Discretion
import ScriptedChat.Proofs.Api.Discretion
import ScriptedChat.Proofs.Script.Extent
import ScriptedChat.Proofs.Script.Rejection
import ScriptedChat.Proofs.Engine.Coherence
import ScriptedChat.Proofs.Engine.Invitation
import ScriptedChat.Proofs.Database.Integrity
import ScriptedChat.Proofs.Database.Rewriting
import ScriptedChat.Proofs.Database.Keeping
import ScriptedChat.Proofs.Envelopes
import ScriptedChat.Proofs.Engine.Resubmission
import ScriptedChat.Proofs.Tabulation
import ScriptedChat.Proofs.Bus.Destinations
import ScriptedChat.Proofs.Script.Painting
import ScriptedChat.Proofs.Configuration
