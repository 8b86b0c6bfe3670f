import AutPlay.Sync.Uuid
import AutPlay.Sync.Value
import AutPlay.Lib.Greedy
import AutPlay.Sona.Canonical
import AutPlay.Recommend.Temporal
import AutPlay.Lib.Result
import AutPlay.Offline.Values
import AutPlay.Offline.Delta
import AutPlay.Offline.Reads
import AutPlay.Offline.Episode
import AutPlay.Offline.Decode
import AutPlay.Offline.DeltaLaws
import AutPlay.Lib.Paging
import AutPlay.Sync.Event
import AutPlay.Catalog.OwnerPages
import AutPlay.Lib.Table
import AutPlay.Sync.Rows
import AutPlay.Catalog.Projections
import AutPlay.Lib.Facts
import AutPlay.Lib.Text
import AutPlay.Lib.Run
import AutPlay.Sync.Position
import AutPlay.Sync.Generic
import AutPlay.Sync.Interaction
import AutPlay.Sync.Push
import AutPlay.Sync.Effects
import AutPlay.Sync.Inbox
import AutPlay.Sync.Checks
import AutPlay.Sync.Rebalance
import AutPlay.Sync.Published
import AutPlay.Sync.Log
import AutPlay.Catalog.Publisher
import AutPlay.Sona.Values
import AutPlay.Sona.Codec
import AutPlay.Sona.Readers
import AutPlay.Sona.Laws
import AutPlay.Lib.Chain
import AutPlay.Lib.Dict
import AutPlay.Evidence.Deletion
import AutPlay.Evidence.Requests
import AutPlay.Evidence.Consent
import AutPlay.Evidence.Ledgers
import AutPlay.Wave.Rows
import AutPlay.Wave.Room
import AutPlay.Wave.Guest
import AutPlay.Wave.View
import AutPlay.Wave.Steps
import AutPlay.Wave.Commands
import AutPlay.Wave.Joining
import AutPlay.Wave.GuestSteps
import AutPlay.Wave.Lifecycle
import AutPlay.Wave.System
import AutPlay.Wave.GuestTables
import AutPlay.Wave.Invariant
import AutPlay.Wave.Invitations
import AutPlay.Wave.GuestLaws
import AutPlay.Auth.Sessions
import AutPlay.Consent.Service
import AutPlay.Consent.Runs
import AutPlay.Consent.Guard
import AutPlay.Consent.Laws
import AutPlay.Training.Work
import AutPlay.Training.Runs
import AutPlay.Training.Laws
import AutPlay.Sync.Owners
import AutPlay.Sync.Poison
import AutPlay.Client.Journal
import AutPlay.Client.Agreement
import AutPlay.Client.Remote
import AutPlay.Client.CreditLinks
import AutPlay.Wave.Keys
import AutPlay.Wave.KeyClash
import AutPlay.Wave.Place
import AutPlay.Wave.Gate
import AutPlay.Wave.Delivery
import AutPlay.Lib.Effect
import AutPlay.Client.WaveCoordinator
import AutPlay.Client.WaveOrder
import AutPlay.Jobs.Document
import AutPlay.Jobs.Rows
import AutPlay.Jobs.Repository
import AutPlay.Jobs.Changes
import AutPlay.Jobs.LeaseLaws
import AutPlay.Jobs.Idempotency
import AutPlay.Recommend.Pipeline
import AutPlay.Recommend.Output
import AutPlay.Recommend.Exclusion
import AutPlay.Metadata.Fields
import AutPlay.Metadata.Document
import AutPlay.Metadata.Service
import AutPlay.Metadata.Survival
import AutPlay.Metadata.Edits
import AutPlay.Pairing.Documents
import AutPlay.Pairing.Service
import AutPlay.Pairing.Calls
import AutPlay.Pairing.Lifecycle
import AutPlay.Pairing.Laws
import AutPlay.Pairing.Replays
import AutPlay.Vault.Uploads
import AutPlay.Vault.UploadLaws
import AutPlay.Imports.Values
import AutPlay.Imports.Parser
import AutPlay.Imports.Isolation
import AutPlay.Imports.Laws
import AutPlay.Binding.Stores
import AutPlay.Binding.Rotation
import AutPlay.Binding.Recovery
import AutPlay.Discovery.Rows
import AutPlay.Discovery.Bulk
import AutPlay.Discovery.BulkLaws
import AutPlay.Discovery.Preview
import AutPlay.Discovery.Acquisition
import AutPlay.Discovery.Lineage
import AutPlay.Discovery.LineageRuns
import AutPlay.PublicAccess.Service
import AutPlay.PublicAccess.Laws
import AutPlay.Client.ServerClock
import AutPlay.Lib.Places
import AutPlay.Lib.SortKeys
import AutPlay.Playback.Reconcile
import AutPlay.Playback.QueueEditor
import AutPlay.Playback.QueueLaws
import AutPlay.Imports.Identity
import AutPlay.Imports.IdentityLaws
import AutPlay.Imports.Benchmark
import AutPlay.Imports.BenchmarkLaws
import AutPlay.Sync.Placement
import AutPlay.Recommend.Crowding
import AutPlay.Recommend.OrderFree
import AutPlay.Recommend.ProfileBounds
import AutPlay.Client.DriftMonitor
import AutPlay.Lib.Numerals
import AutPlay.Library.PositionKeys
import AutPlay.Library.Playlist
import AutPlay.Library.PlaylistLaws
import AutPlay.Lib.JsonGrammar
import AutPlay.Intents.StrictJson
import AutPlay.Intents.StrictJsonLaws
import AutPlay.Intents.StrictJsonEscapes
import AutPlay.Lib.PyText
import AutPlay.Vault.Ranges
import AutPlay.Vault.Streams
import AutPlay.Vault.StreamLaws
import AutPlay.Lib.Entries
import AutPlay.Metadata.Encoding
import AutPlay.Metadata.Source
import AutPlay.Metadata.SourceEntries
import AutPlay.Metadata.SourceReader
import AutPlay.Metadata.SourceSanitizer
import AutPlay.Metadata.SourceLaws
import AutPlay.Discovery.Identity
import AutPlay.Discovery.Boundary
import AutPlay.Lib.Follow
import AutPlay.Sync.Pull
import AutPlay.Sync.PullCalls
import AutPlay.Sync.Compaction
import AutPlay.Sync.Followers
import AutPlay.Lib.Replay
import AutPlay.Sync.Replays
import AutPlay.Auth.RefreshClient
import AutPlay.Binding.Laws
