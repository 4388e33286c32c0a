import TaskQueue.Key
import TaskQueue.TaskOption.Parser
import TaskQueue.TaskOption.Printer
import TaskQueue.TaskState
import TaskQueue.Text.Percent
import TaskQueue.Time.Clock
import TaskQueue.Record.Wire
import TaskQueue.Settings
import TaskQueue.Client
import TaskQueue.Config
import TaskQueue.Payload
import TaskQueue.Store
import TaskQueue.Endpoint
import TaskQueue.Remote.Session
import TaskQueue.Proofs.Record.Merging
import TaskQueue.Proofs.Client.GuardWindow
import TaskQueue.Proofs.Store.Identity
import TaskQueue.Proofs.Store.Refusal
import TaskQueue.Proofs.Remote.Loading
import TaskQueue.Proofs.Remote.Submission
import TaskQueue.Proofs.Client.Requests
import TaskQueue.Proofs.Client.Receipts
import TaskQueue.Proofs.Key.Separation
import TaskQueue.Proofs.TaskOption.Rereading
import TaskQueue.Proofs.Client.Finality
import TaskQueue.Proofs.Settings.Composition
import TaskQueue.Proofs.Remote.Lock
import TaskQueue.Proofs.TaskOption.Grammar
import TaskQueue.Proofs.Key.Duplicates
import TaskQueue.Proofs.Remote.Invocation
import TaskQueue.Proofs.Record.Limits
import TaskQueue.Proofs.Record.Reordering
import TaskQueue.Proofs.Store.Cleanup
import TaskQueue.Proofs.Settings.Waiting
import TaskQueue.Proofs.Record.Size
import TaskQueue.Proofs.Store.Independence
import TaskQueue.Proofs.Json.Scalars
import TaskQueue.Proofs.Json.Objects
import TaskQueue.Proofs.Json.RoundTrip
import TaskQueue.Proofs.Client.Payloads
import TaskQueue.Proofs.Remote.Expiry
