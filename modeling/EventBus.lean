import EventBus.Bus.Builder
import EventBus.Bus.Log
import EventBus.Derive.ErrorValue
import EventBus.Derive.EventCode
import EventBus.Derive.ItemReader
import EventBus.Event.Catalogue
import EventBus.Json.Reader
import EventBus.Scenario.Run
import EventBus.Settings.File
import EventBus.Settings.Json
import EventBus.Settings.Preview
import EventBus.Proofs.Event.Arms
import EventBus.Proofs.Event.Offences
import EventBus.Proofs.Error.Contexts
import EventBus.Proofs.Registry.History
import EventBus.Proofs.Registry.Precedence
import EventBus.Proofs.Registry.Undoing
import EventBus.Proofs.Routing.Snapshot
import EventBus.Proofs.Routing.Attribution
import EventBus.Proofs.Failure.Report
import EventBus.Proofs.Queue.PutOff
import EventBus.Proofs.Queue.Orders
import EventBus.Proofs.Queue.Contexts
import EventBus.Proofs.Routing.Overheard
import EventBus.Proofs.Routing.Doubles
import EventBus.Proofs.Threads.Locks
import EventBus.Proofs.Failure.Unwinding
import EventBus.Proofs.Registry.Batches
import EventBus.Proofs.Hierarchy.Routes
import EventBus.Proofs.Routing.Memory
import EventBus.Proofs.Threads.HandOff
