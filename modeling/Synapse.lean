import Synapse.Foundation.Machine
import Synapse.Foundation.RetainedLog
import Synapse.Foundation.FanOut
import Synapse.Python.Text
import Synapse.Python.Value
import Synapse.Foundation.Fallible
import Synapse.Foundation.Table
import Synapse.Foundation.Batches
import Synapse.Collaboration.Model
import Synapse.Collaboration.Store
import Synapse.Collaboration.Operations
import Synapse.Collaboration.Effects
import Synapse.Collaboration.Integrity
import Synapse.Collaboration.Fence
import Synapse.Collaboration.Histories
import Synapse.Collaboration.Mailbox
import Synapse.Collaboration.Replay
import Synapse.Collaboration.Waiting
import Synapse.Collaboration.Serving
import Synapse.Collaboration.Restart
import Synapse.Collaboration.Runtime
import Synapse.Collaboration.Worker
import Synapse.Collaboration.Release
import Synapse.Sessions.Event
import Synapse.Sessions.Broker
import Synapse.Sessions.Retention
import Synapse.Sessions.Dispatch
import Synapse.Sessions.SingleDrainer
import Synapse.Sessions.Registry
import Synapse.Sessions.CloseWork
import Synapse.Sessions.Delivery
import Synapse.Foundation.Script
import Synapse.Foundation.Locks
import Synapse.Goals.Model
import Synapse.Goals.Store
import Synapse.Goals.Runtime
import Synapse.Goals.CompareAndSet
import Synapse.Goals.Completion
import Synapse.Goals.Moves
import Synapse.Goals.Budget
import Synapse.Goals.Accounting
import Synapse.Turns.Session
import Synapse.Turns.Steps
import Synapse.Turns.Ownership
import Synapse.Turns.Awaiting
import Synapse.Turns.Approval
import Synapse.Turns.Steering
import Synapse.Manager.Model
import Synapse.Manager.Permits
import Synapse.Manager.Leaks
import Synapse.Reverts.Snapshot
import Synapse.Reverts.Record
import Synapse.Reverts.Safety
import Synapse.Reverts.Unchanged
import Synapse.Ptc.Scheduler
import Synapse.Ptc.Fairness
import Synapse.Ptc.Bridge
import Synapse.Ptc.Exclusion
import Synapse.Ptc.Frames
import Synapse.Ptc.Run
import Synapse.Ptc.Replies
import Synapse.Ptc.Session
import Synapse.Ptc.Safety
import Synapse.Service.Projection
import Synapse.Service.Stream
import Synapse.Service.StreamEnds
import Synapse.Transport.RemoteWatch
import Synapse.Transport.WatchEnds
import Synapse.Transport.Requests
import Synapse.Transport.SentOnce
import Synapse.Transport.Isolation
import Synapse.Transport.Wire
import Synapse.Transport.Connection
import Synapse.Transport.Answers
import Synapse.Transport.Subscription
import Synapse.Foundation.Routine
import Synapse.Attachments.Model
import Synapse.Attachments.Store
import Synapse.Attachments.Protocol
import Synapse.Attachments.Sections
import Synapse.Attachments.Finalized
import Synapse.Attachments.Quota
import Synapse.Service.ProjectList
import Synapse.Console.Recovery
import Synapse.Sessions.Recovery
import Synapse.Sessions.Eviction
import Synapse.Threads.Orphans
import Synapse.Threads.Purge
import Synapse.Foundation.Separator
import Synapse.Reverts.GitFormat
import Synapse.Reverts.Porcelain
import Synapse.Requests.ReadLifecycle
import Synapse.Models.Registry
import Synapse.Models.Lookup
import Synapse.Models.Settings
import Synapse.Models.SessionAxes
import Synapse.Models.ChatModel
import Synapse.Models.Credentials
import Synapse.Responses.WebSocket
import Synapse.Responses.Complete
import Synapse.Responses.ModelStream
import Synapse.Foundation.Bisection
import Synapse.Python.Sizes
import Synapse.Python.Lines
import Synapse.Ptc.Output
import Synapse.Foundation.Greedy
import Synapse.Requests.ImageWindow
import Synapse.Streaming.ToolRows
import Synapse.Foundation.Paging
import Synapse.Transcript.Event
import Synapse.Transcript.Message
import Synapse.Transcript.Fold
import Synapse.Transcript.Windows
import Synapse.Foundation.Cut
import Synapse.Transcript.Fork
import Synapse.Transcript.Batches
import Synapse.Sessions.CancelRepair
import Synapse.Streaming.TodoPreview
import Synapse.Foundation.Utf16
import Synapse.Console.JavaScript
import Synapse.Console.Transcript
import Synapse.Console.HistoryMapper
import Synapse.Foundation.Coalesce
import Synapse.Console.LiveReducer
import Synapse.Console.DeltaBatch
import Synapse.Files.ExactEdit
import Synapse.Files.UnifiedPatch
import Synapse.Files.Encoding
import Synapse.Files.Rewrite
import Synapse.Foundation.Subsequence
import Synapse.Console.WordDiff
import Synapse.Console.WordParts
import Synapse.Console.GitDiff
import Synapse.Console.DiffFormat
import Synapse.Console.DiffRoundTrip
import Synapse.Foundation.Glob
import Synapse.Artifacts.ToolIgnore
import Synapse.Artifacts.IgnoreRules
import Synapse.Foundation.OffsetPages
import Synapse.Tasks.Listing
import Synapse.Metadata.SessionStore
import Synapse.Metadata.Titles
import Synapse.Foundation.RelyGuarantee
import Synapse.Metadata.Interleaving
import Synapse.Python.LineEnds
import Synapse.ToolOutput.Model
import Synapse.ToolOutput.PathList
import Synapse.Foundation.Like
import Synapse.Search.Index
import Synapse.Search.Matching
import Synapse.Search.Sync
import Synapse.Search.Freshness
import Synapse.Search.Exactness
import Synapse.Foundation.Selection
import Synapse.ToolOutput.Critical
import Synapse.ToolOutput.SearchMatches
import Synapse.ToolOutput.LogLines
import Synapse.ToolOutput.Headers
import Synapse.Steer.Queue
import Synapse.Steer.Order
import Synapse.Markdown.ParseQueue
import Synapse.Markdown.Snapshots
import Synapse.Markdown.Ansi
import Synapse.Markdown.AnsiSequences
import Synapse.Markdown.AnsiText
import Synapse.Markdown.AnsiStyles
import Synapse.Markdown.AnsiFaithful
import Synapse.Markdown.AnsiAttributes
import Synapse.Tasks.Updating
import Synapse.Tasks.FieldsKept
import Synapse.Transport.Outgoing
import Synapse.Transport.Acknowledged
import Synapse.Transport.WriterOrder
import Synapse.ToolOutput.Rollup
import Synapse.ToolOutput.NoDrift
