import FleetFeed.Config.Tail
import FleetFeed.Event.Merge
import FleetFeed.Event.Subscription
import FleetFeed.Feed.Consumers
import FleetFeed.Feed.Hub
import FleetFeed.Graphql.Operation
import FleetFeed.History.Series
import FleetFeed.Main
import FleetFeed.Session.Machine
import FleetFeed.Tail.Console
import FleetFeed.Proofs.Feed.Effect
import FleetFeed.Proofs.Feed.Lifecycle
import FleetFeed.Proofs.Feed.References
import FleetFeed.Proofs.Feed.LastWrite
import FleetFeed.Proofs.Feed.Views
import FleetFeed.Proofs.Feed.CellHistory
import FleetFeed.Proofs.Feed.Holdings
import FleetFeed.Proofs.Feed.Slots
import FleetFeed.Proofs.Feed.Observers
import FleetFeed.Proofs.Feed.Sightings
import FleetFeed.Proofs.Feed.Selection
import FleetFeed.Proofs.Feed.Excerpt
import FleetFeed.Proofs.Feed.Bindings
import FleetFeed.Proofs.Feed.Abridged
import FleetFeed.Proofs.Feed.FreshStart
import FleetFeed.Proofs.Feed.Boards
import FleetFeed.Proofs.Feed.Independence
import FleetFeed.Proofs.Session.Answers
import FleetFeed.Proofs.Feed.LinkMoves
import FleetFeed.Proofs.Feed.Delivery
import FleetFeed.Proofs.Feed.LinkEnds
import FleetFeed.Proofs.Feed.Pointing
import FleetFeed.Proofs.Feed.Rebinding
import FleetFeed.Proofs.Feed.BoardMoves
import FleetFeed.Proofs.Feed.HubMoves
import FleetFeed.Proofs.Feed.Relay
import FleetFeed.Proofs.Feed.LostLinks
import FleetFeed.Proofs.Session.Calls
import FleetFeed.Proofs.Session.Handshake
import FleetFeed.Proofs.Session.Endings
import FleetFeed.Proofs.Json.Values
import FleetFeed.Proofs.Json.TextRoundTrip
import FleetFeed.Proofs.Json.Records
import FleetFeed.Proofs.Json.Variants
import FleetFeed.Proofs.Json.Codecs
import FleetFeed.Proofs.Graphql.Responses
import FleetFeed.Proofs.Session.WireTypes
import FleetFeed.Proofs.Session.ErrorRoutes
import FleetFeed.Proofs.Session.FirstError
import FleetFeed.Proofs.Text.ByteOrder
import FleetFeed.Proofs.Event.MergedKeys
import FleetFeed.Proofs.Feed.HubGuards
import FleetFeed.Proofs.Feed.MergedLogs
import FleetFeed.Proofs.Json.Texts
import FleetFeed.Proofs.Json.Positions
import FleetFeed.Proofs.Session.Reading
import FleetFeed.Proofs.Graphql.Replies
import FleetFeed.Proofs.Url.Parts
import FleetFeed.Proofs.Config.Transports
import FleetFeed.Proofs.Toml.Spelling
import FleetFeed.Proofs.Config.Sources
import FleetFeed.Proofs.Json.Formats
import FleetFeed.Proofs.Event.Payloads
import FleetFeed.Proofs.Json.Nulls
import FleetFeed.Proofs.Graphql.Results
import FleetFeed.Proofs.Config.Origins
import FleetFeed.Proofs.Event.Merging
import FleetFeed.Proofs.Time.Stamps
import FleetFeed.Proofs.History.Recent
import FleetFeed.Proofs.Config.Layers
