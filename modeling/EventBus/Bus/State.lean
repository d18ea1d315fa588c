import EventBus.Bus.Dispatcher
import EventBus.Bus.Failure

/-!
The state of a group of buses that run together, and what happens on them.

All buses share one hierarchy, the queues of the dispatchers, the locks of the subscribers, and
two stores of work to be done later: the backlog, run when asked for, and the pool, run by its own
thread.  Every happening is kept in the trace, in order.  `H` stands for the code of handlers, `σ`
for what that code keeps, `ε` for what it notes down.
-/

namespace EventBus

/-- A bus. -/
structure Bus (H : Type) where
  handle : BusRef
  registry : Registry H
  dispatcher : Dispatcher

/-- Whether a reference is one to a bus. -/
def BusRef.is {H : Type} (r : BusRef) (b : Bus H) : Bool := r.id == b.handle.id

/-- The delivery of an event to one subscriber. -/
structure Work (H : Type) where
  subscriber : Subscriber H
  event : Event

/-- Who is inside a lock, and how often. -/
structure Holding where
  thread : Nat
  depth : Nat
deriving DecidableEq, Repr

/-- A subscriber as a dispatcher notes it down. -/
structure Sighting where
  handler : String
  target : String
  declared : EventType
  concurrent : Bool
  detail : Option String
deriving DecidableEq, Repr

/-- What happens on the buses. -/
inductive Occurrence (H ε : Type) where
  /-- A bus was built. -/
  | built (bus : BusRef) (executor : Executor) (dispatcher : String)
  /-- A binding was considered in a registration. -/
  | considered (target : Target) (binding : Binding H) (admission : Admission)
  /-- A registration ended. -/
  | registered (bus : BusRef) (added : Nat) (target : Target)
  /-- Subscribers were removed. -/
  | removed (count : Nat)
  /-- An unregistration ended well. -/
  | unregistered (bus : BusRef) (count : Nat) (target : Target)
  /-- The closure of a type was computed and kept. -/
  | closureKept (type : EventType) (size : Nat)
  /-- A bus looked up its subscribers for a type. -/
  | resolved (bus : BusRef) (type : EventType) (subscribers : List (Subscriber H))
  /-- An event is about to be dispatched to its subscribers. -/
  | routed (bus : BusRef) (event : Event) (subscribers : List (Subscriber H))
  /-- Nobody listens to an event, which is about to be posted again as dead. -/
  | died (bus : BusRef) (event : Event)
  /-- Nobody listens to a dead event. -/
  | dropped (bus : BusRef) (event : Event)
  /-- A dispatcher noted down what it was given. -/
  | sighted (event : Event) (subscribers : List Sighting)
  /-- A dispatcher was given an event with its subscribers. -/
  | dispatched (thread : Nat) (order : DispatchOrder) (event : Event)
      (subscribers : List (Subscriber H))
  /-- An event has to wait in a queue, which now has the given length. -/
  | queued (length : Nat)
  /-- A drain was cut short, and the events still waiting were given up. -/
  | interrupted (discarded : Nat)
  /-- A dispatcher submitted a delivery to the subscriber's executor. -/
  | submitted (thread : Nat) (order : DispatchOrder) (event : Event)
      (subscriber : Subscriber H)
  /-- A delivery was handed to the pool. -/
  | handedOff (event : Event) (subscriber : Subscriber H)
  /-- A handler is being called. -/
  | invoked (thread : Nat) (event : Event) (subscriber : Subscriber H)
  /-- A handler returned without an error. -/
  | delivered (event : Event) (subscriber : Subscriber H)
  /-- An error of a handler is being reported. -/
  | reported (failure : Failure) (context : FailureContext)
  /-- An error of a handler was logged. -/
  | failureLogged (failure : Failure) (context : FailureContext)
  /-- The report of an error failed itself. -/
  | reportFailed (secondary failure : Failure) (context : FailureContext)
  /-- The report of an error panicked. -/
  | reportPanicked (payload : Payload) (failure : Failure) (context : FailureContext)
  /-- A delivery panicked on the pool. -/
  | poolPanicked (payload : Payload)
  /-- A handler noted something down. -/
  | noted (entry : ε)

/-- The state of a group of buses. -/
structure State (H σ ε : Type) where
  hierarchy : Hierarchy
  /-- The buses by number. -/
  buses : Table Nat (Bus H)
  /-- The queues by dispatcher and thread; a thread that posts nothing has none. -/
  queues : Table (Nat × Nat) (DispatchQueue H)
  /-- The locks that somebody is inside. -/
  locks : Table LockKey Holding
  /-- Deferred deliveries, oldest first. -/
  backlog : List (Work H)
  /-- Deliveries handed to the pool, oldest first. -/
  pool : List (Work H)
  /-- The number of buses, dispatchers and threads that there have been. -/
  busCount : Nat
  dispatcherCount : Nat
  threadCount : Nat
  /-- What the handlers keep. -/
  user : σ
  /-- What has happened, oldest first. -/
  trace : Array (Occurrence H ε)

def mainThread : Nat := 0

def poolThread : Nat := 1

namespace State

variable {H σ ε : Type}

def initial (hierarchy : Hierarchy) (user : σ) : State H σ ε :=
  ⟨hierarchy, .empty, .empty, .empty, [], [], 0, 0, 2, user, #[]⟩

def emit (s : State H σ ε) (o : Occurrence H ε) : State H σ ε :=
  { s with trace := s.trace.push o }

def emitAll (s : State H σ ε) (os : List (Occurrence H ε)) : State H σ ε :=
  os.foldl emit s

def setBus (s : State H σ ε) (b : Bus H) : State H σ ε :=
  { s with buses := s.buses.set b.handle.id b }

/-- How many threads are draining a queue of a dispatcher. -/
def activeQueues (s : State H σ ε) (dispatcher : Nat) : Nat :=
  (s.queues.keys.filter (fun k => k.1 == dispatcher)).length

def dispatcherDetail (s : State H σ ε) (d : Dispatcher) : String :=
  let order :=
    match d.order with
    | .queued id =>
      Text.record "PerThreadQueuedDispatcher"
        [("active_contexts", Number.natText (s.activeQueues id))]
    | .immediate => "ImmediateDispatcher"
  match d.arrangement with
  | .plain => order
  | a => a.name ++ ":" ++ order

def busDetail (s : State H σ ε) (b : Bus H) : String :=
  Text.record "EventBus"
    [("identifier", Text.quote b.handle.identifier), ("registry", b.registry.detail),
      ("dispatcher", s.dispatcherDetail b.dispatcher)]

def lockedOut (s : State H σ ε) (thread : Nat) (lock : LockKey) : Bool :=
  match s.locks.get? lock with
  | some h => h.thread != thread
  | none => false

def subscriberDetail (s : State H σ ε) (thread : Nat) (x : Subscriber H) : String :=
  let invocation :=
    if x.concurrent then "Concurrent"
    else
      Text.tuple "Serialized"
        [Text.record "ReentrantMutex"
          [("data", if s.lockedOut thread x.lock then "<locked>" else "()")]]
  Text.openRecord "Subscriber"
    [("target", x.target.detail), ("handler", Text.quote x.handler),
      ("event_type", x.eventType.name), ("invocation", invocation),
      ("executor", x.executor.name)]

/-- The state after a thread enters the lock of a subscriber, if it has one. -/
def enter (s : State H σ ε) (thread : Nat) (x : Subscriber H) : State H σ ε :=
  if x.concurrent then s
  else
    match s.locks.get? x.lock with
    | some h => { s with locks := s.locks.set x.lock { h with depth := h.depth + 1 } }
    | none => { s with locks := s.locks.set x.lock ⟨thread, 1⟩ }

/-- The state after a thread leaves the lock of a subscriber, if it has one. -/
def leave (s : State H σ ε) (x : Subscriber H) : State H σ ε :=
  if x.concurrent then s
  else
    match s.locks.get? x.lock with
    | some ⟨thread, depth + 2⟩ => { s with locks := s.locks.set x.lock ⟨thread, depth + 1⟩ }
    | _ => { s with locks := s.locks.erase x.lock }

end State

end EventBus
