import EventBus.Bus.Script

/-!
The machine that runs scripts on a group of buses, one small step at a time.

The stack holds what is still to be done once the current activity comes to an end: the rest of a
script that waits for a call, the deliveries of an event that are still due, a queue being
drained, a handler or a report that is running.

Runs are sequential: of all threads one acts at a time.  A post from another thread changes the
thread until it is over, and what is handed to the pool is run when a script has ended, not beside
it.  So nothing is said here of threads that race for a queue, a lock or a registry.

`Machine.step` makes one step.  Returning goes back to the frame on top; a panic unwinds the
stack, and on its way empties the queues that were being drained and frees the locks that were
held, until a frame contains it: a report of an error, or the pool.
-/

namespace EventBus

/-- Something to be gone on with. -/
inductive Frame (H σ ε : Type) where
  /-- The rest of a script. -/
  | resume (next : Script H σ ε)
  /-- The deliveries of an event that a dispatcher still has to make on a thread. -/
  | deliveries (order : DispatchOrder) (thread : Nat) (event : Event)
      (rest : List (Subscriber H))
  /-- The drain of a queue. -/
  | drain (dispatcher thread : Nat)
  /-- A handler that is running. -/
  | handling (event : Event) (subscriber : Subscriber H)
  /-- A report of an error that is running. -/
  | reporting (failure : Failure) (context : FailureContext)
  /-- A thread waiting for another one. -/
  | join (waiting : Nat)
  /-- The running of the backlog, of which `done` deliveries are over. -/
  | backlog (limit : Option Nat) (newestFirst : Bool) (done : Nat)
      (next : Nat → Script H σ ε)
  /-- The pool. -/
  | pool

/-- What the machine is doing. -/
inductive Control (H σ ε : Type) where
  /-- Running a script. -/
  | run (script : Script H σ ε)
  /-- Going back to the frame on top. -/
  | back
  /-- Unwinding the stack. -/
  | unwind (payload : Payload)

/-- The machine. -/
structure Machine (H σ ε : Type) where
  state : State H σ ε
  thread : Nat
  stack : List (Frame H σ ε)
  control : Control H σ ε

/-- How a run ends. -/
inductive Ending where
  | returned (result : Except Failure Unit)
  | panicked (payload : Payload)

/-- What becomes of a machine. -/
inductive Progress (H σ ε : Type) where
  /-- It is still going. -/
  | going (m : Machine H σ ε)
  /-- It came to an end. -/
  | ended (state : State H σ ε) (ending : Ending)
  /-- It waits for ever for a lock that a waiting thread holds. -/
  | stuck (state : State H σ ε)

namespace State

variable {H σ ε : Type}

/-- The subscribers of a bus for a type, and the state that keeps the closure of the type. -/
def resolve (s : State H σ ε) (b : Bus H) (t : EventType) :
    State H σ ε × List (Subscriber H) :=
  let subscribers := b.registry.resolve s.hierarchy t
  let kept :=
    match b.registry.closures.get? t with
    | some _ => s
    | none =>
      (s.setBus { b with registry := b.registry.remember s.hierarchy t }).emit
        (.closureKept t (s.hierarchy.closure t).length)
  (kept.emit (.resolved b.handle t subscribers), subscribers)

/-- The state after a dispatcher noted down a dispatch, if it does. -/
def sight (s : State H σ ε) (thread : Nat) (d : Dispatcher) (event : Event)
    (subscribers : List (Subscriber H)) : State H σ ε :=
  match d.arrangement with
  | .plain => s
  | _ =>
    s.emit (.sighted event (subscribers.map fun x =>
      { handler := x.handler, target := x.target.text, declared := x.eventType,
        concurrent := x.concurrent,
        detail := if d.detailed then some (s.subscriberDetail thread x) else none }))

/-- The state after an event was put into a queue, and whether the queue was being drained. -/
def enqueue (s : State H σ ε) (key : Nat × Nat) (p : Pending H) : State H σ ε × Bool :=
  match s.queues.get? key with
  | some q =>
    -- Whoever finds a queue that is not being drained is about to drain it.
    let longer : DispatchQueue H := ⟨q.waiting ++ [p], true⟩
    let s := { s with queues := s.queues.set key longer }
    if q.draining then (s.emit (.queued longer.waiting.length), true) else (s, false)
  | none => ({ s with queues := s.queues.set key ⟨[p], true⟩ }, false)

def dequeue (s : State H σ ε) (key : Nat × Nat) : Option (State H σ ε × Pending H) :=
  match s.queues.get? key with
  | some ⟨p :: rest, draining⟩ =>
    some ({ s with queues := s.queues.set key ⟨rest, draining⟩ }, p)
  | _ => none

/-- The state without a queue; events still waiting are given up. -/
def closeQueue (s : State H σ ε) (key : Nat × Nat) : State H σ ε :=
  let closed := { s with queues := s.queues.erase key }
  match s.queues.get? key with
  | some ⟨p :: rest, _⟩ => closed.emit (.interrupted (p :: rest).length)
  | _ => closed

/-- The oldest or the newest deferred delivery, taken out of the backlog. -/
def takeBacklog (s : State H σ ε) (newestFirst : Bool) : Option (State H σ ε × Work H) :=
  if newestFirst then
    match s.backlog.getLast? with
    | some w => some ({ s with backlog := s.backlog.dropLast }, w)
    | none => none
  else
    match s.backlog with
    | w :: rest => some ({ s with backlog := rest }, w)
    | [] => none

/-- The oldest delivery of the pool, taken out of it. -/
def takePool (s : State H σ ε) : Option (State H σ ε × Work H) :=
  match s.pool with
  | w :: rest => some ({ s with pool := rest }, w)
  | [] => none

end State

namespace Machine

variable {H σ ε : Type}

/-- The machine with another state, going back to the frame on top. -/
def returning (m : Machine H σ ε) (s : State H σ ε) : Machine H σ ε :=
  { m with state := s, control := .back }

/-- The machine with another state and a frame to go back to at once. -/
def entering (m : Machine H σ ε) (s : State H σ ε) (f : Frame H σ ε) : Machine H σ ε :=
  { m with state := s, stack := f :: m.stack, control := .back }

/-- Calls the handler of a subscriber, from inside its lock. -/
def invoke (p : Program H σ ε) (m : Machine H σ ε) (event : Event) (x : Subscriber H) :
    Progress H σ ε :=
  if !x.concurrent && m.state.lockedOut m.thread x.lock then .stuck m.state
  else
    .going { m with
      state := (m.state.enter m.thread x).emit (.invoked m.thread event x)
      stack := .handling event x :: m.stack
      control := match x.given event with
        | some e => .run (p.handle x.code e)
        | none => .unwind (.text (x.defect event).message) }

/-- Submits a delivery of a dispatcher to the subscriber's executor. -/
def deliver (p : Program H σ ε) (m : Machine H σ ε) (order : DispatchOrder) (event : Event)
    (x : Subscriber H) : Progress H σ ε :=
  let s := m.state.emit (.submitted m.thread order event x)
  match x.executor with
  | .direct => invoke p { m with state := s } event x
  | .deferred => .going (m.returning { s with backlog := s.backlog ++ [⟨x, event⟩] })
  | .pool =>
    let s := s.emit (.handedOff event x)
    .going (m.returning { s with pool := s.pool ++ [⟨x, event⟩] })

/-- Delivers an event at once, or puts it into the queue of the thread and drains the queue unless
that is being done already. -/
def drive (m : Machine H σ ε) (s : State H σ ε) (order : DispatchOrder) (event : Event)
    (subscribers : List (Subscriber H)) : Machine H σ ε :=
  match order with
  | .immediate => m.entering s (.deliveries .immediate m.thread event subscribers)
  | .queued id =>
    match s.enqueue (id, m.thread) ⟨event, subscribers⟩ with
    | (s, true) => m.returning s
    | (s, false) => m.entering s (.drain id m.thread)

/-- Gives an event with its subscribers to a dispatcher. -/
def dispatch (m : Machine H σ ε) (s : State H σ ε) (d : Dispatcher) (event : Event)
    (subscribers : List (Subscriber H)) : Machine H σ ε :=
  let s := s.sight m.thread d event subscribers
  match d.arrangement.apply subscribers with
  | none => m.returning s
  | some arranged =>
    m.drive (s.emit (.dispatched m.thread d.order event arranged)) d.order event arranged

/-- Posts an event on a bus.  An event without subscribers is posted once more, as a dead event;
a dead event without subscribers is dropped. -/
def post (m : Machine H σ ε) (bus : Nat) (event : Event) : Machine H σ ε :=
  match m.state.buses.get? bus with
  | none => m.returning m.state
  | some b =>
    match m.state.resolve b event.type with
    | (s, x :: xs) => m.dispatch (s.emit (.routed b.handle event (x :: xs))) b.dispatcher event
        (x :: xs)
    | (s, []) =>
      if event.type = .deadEvent then m.returning (s.emit (.dropped b.handle event))
      else
        let dead := Event.dead b.handle event event.type
        let s := s.emit (.died b.handle event)
        -- By now the bus may keep the closure of the type.
        match s.resolve ((s.buses.get? bus).getD b) .deadEvent with
        | (s, x :: xs) => m.dispatch (s.emit (.routed b.handle dead (x :: xs))) b.dispatcher dead
            (x :: xs)
        | (s, []) => m.returning (s.emit (.dropped b.handle dead))

def build (s : State H σ ε) (plan : BusPlan H) : State H σ ε × BusRef :=
  let handle : BusRef := ⟨s.busCount + 1, plan.identifier⟩
  let bus : Bus H :=
    ⟨handle, .empty plan.executor ⟨handle, plan.policy⟩, plan.dispatcher⟩
  let occurrence := Occurrence.built handle plan.executor (s.dispatcherDetail plan.dispatcher)
  (({ s with busCount := s.busCount + 1 }.setBus bus).emit occurrence, handle)

def register (s : State H σ ε) (bus : Nat) (target : Target) (bs : List (Binding H)) :
    State H σ ε × Nat :=
  match s.buses.get? bus with
  | none => (s, 0)
  | some b =>
    let r := b.registry.register target bs
    let s := s.setBus { b with registry := r.registry }
    let s := s.emitAll (r.admissions.map fun a => .considered target a.1 a.2)
    (s.emit (.registered b.handle r.added target), r.added)

def unregister (s : State H σ ε) (bus : Nat) (target : Target) (bs : List (Binding H)) :
    State H σ ε × Except Refusal Nat :=
  match s.buses.get? bus with
  | none => (s, .ok 0)
  | some b =>
    match b.registry.unregister target bs with
    | .error missing => (s, .error (.of target bs missing))
    | .ok (r, n) =>
      let s := (s.setBus { b with registry := r }).emit (.removed n)
      (s.emit (.unregistered b.handle n target), .ok n)

def report (p : Program H σ ε) (m : Machine H σ ε) (s : State H σ ε) (rest : List (Frame H σ ε))
    (failure : Failure) (event : Event) (x : Subscriber H) : Machine H σ ε :=
  let context := x.failureContext event
  let s := s.emit (.reported failure context)
  match x.desk.policy with
  | .log => { m with state := s.emit (.failureLogged failure context), stack := rest
                     control := .back }
  | .custom code =>
    { m with state := s, stack := .reporting failure context :: rest
             control := .run (p.report code failure context) }

/-- The end of a script: its result goes to the frame that it was run for. -/
def finish (p : Program H σ ε) (m : Machine H σ ε) (result : Except Failure Unit) :
    Progress H σ ε :=
  match m.stack with
  | [] => .ended m.state (.returned result)
  | .handling event x :: rest =>
    let s := m.state.leave x
    match result with
    | .ok () => .going { m with state := s.emit (.delivered event x), stack := rest
                                control := .back }
    | .error failure => .going (report p m s rest failure event x)
  | .reporting failure context :: rest =>
    let s := match result with
      | .ok () => m.state
      | .error secondary => m.state.emit (.reportFailed secondary failure context)
    .going { m with state := s, stack := rest, control := .back }
  | _ :: _ => .going { m with control := .back }

def runScript (p : Program H σ ε) (m : Machine H σ ε) : Script H σ ε → Progress H σ ε
  | .finish result => finish p m result
  | .panic payload => .going { m with control := .unwind payload }
  | .note entry next => .going { m with state := m.state.emit (.noted entry), control := .run next }
  | .inspect next => .going { m with control := .run (next m.state m.thread) }
  | .update change next =>
    .going { m with state := { m.state with user := change m.state.user }, control := .run next }
  | .declare types next =>
    let hierarchy := types.foldl (fun h d => h.declare d.1 d.2) m.state.hierarchy
    .going { m with state := { m.state with hierarchy := hierarchy }, control := .run next }
  | .newDispatcher next =>
    let n := m.state.dispatcherCount
    .going { m with state := { m.state with dispatcherCount := n + 1 }, control := .run (next n) }
  | .build plan next =>
    let r := build m.state plan
    .going { m with state := r.1, control := .run (next r.2) }
  | .register bus target bs next =>
    let r := register m.state bus target bs
    .going { m with state := r.1, control := .run (next r.2) }
  | .unregister bus target bs next =>
    let r := unregister m.state bus target bs
    .going { m with state := r.1, control := .run (next r.2) }
  | .post bus event false next =>
    .going (post { m with stack := .resume next :: m.stack } bus event)
  | .post bus event true next =>
    let n := m.state.threadCount
    .going (post
      { m with state := { m.state with threadCount := n + 1 }, thread := n
               stack := .join m.thread :: .resume next :: m.stack } bus event)
  | .runBacklog limit newestFirst next =>
    .going { m with stack := .backlog limit newestFirst 0 next :: m.stack, control := .back }

def goBack (p : Program H σ ε) (m : Machine H σ ε) : Progress H σ ε :=
  match m.stack with
  | [] => .ended m.state (.returned (.ok ()))
  | .resume next :: rest => .going { m with stack := rest, control := .run next }
  | .deliveries _ _ _ [] :: rest => .going { m with stack := rest }
  | .deliveries order t event (x :: xs) :: rest =>
    deliver p { m with stack := .deliveries order t event xs :: rest } order event x
  | .drain d t :: rest =>
    match m.state.dequeue (d, t) with
    | some (s, pending) =>
      .going (m.entering s (.deliveries (.queued d) t pending.event pending.subscribers))
    | none => .going { m with state := m.state.closeQueue (d, t), stack := rest }
  | .join waiting :: rest => .going { m with thread := waiting, stack := rest }
  | .backlog limit newestFirst done next :: rest =>
    -- The limit counts the deliveries taken, whatever becomes of them.
    let takes := match limit with
      | some n => decide (done < n)
      | none => true
    match (if takes then m.state.takeBacklog newestFirst else none) with
    | some (s, w) =>
      invoke p
        { m with state := s, stack := .backlog limit newestFirst (done + 1) next :: rest }
        w.event w.subscriber
    | none => .going { m with stack := rest, control := .run (next done) }
  | .pool :: rest =>
    match m.state.takePool with
    | some (s, w) => invoke p { m with state := s } w.event w.subscriber
    | none => .going { m with stack := rest }
  | .handling _ _ :: _ => finish p m (.ok ())
  | .reporting _ _ :: _ => finish p m (.ok ())

def unwind (m : Machine H σ ε) (payload : Payload) : Progress H σ ε :=
  match m.stack with
  | [] => .ended m.state (.panicked payload)
  | .drain d t :: rest => .going { m with state := m.state.closeQueue (d, t), stack := rest }
  | .handling _ x :: rest => .going { m with state := m.state.leave x, stack := rest }
  -- A report stops the panic, and so does the pool.
  | .reporting failure context :: rest =>
    .going { m with state := m.state.emit (.reportPanicked payload failure context)
                    stack := rest, control := .back }
  | .join waiting :: rest => .going { m with thread := waiting, stack := rest }
  | .pool :: _ => .going { m with state := m.state.emit (.poolPanicked payload), control := .back }
  | .resume _ :: rest => .going { m with stack := rest }
  | .deliveries _ _ _ _ :: rest => .going { m with stack := rest }
  | .backlog _ _ _ _ :: rest => .going { m with stack := rest }

def step (p : Program H σ ε) (m : Machine H σ ε) : Progress H σ ε :=
  match m.control with
  | .run script => runScript p m script
  | .back => goBack p m
  | .unwind payload => unwind m payload

def run (p : Program H σ ε) : Nat → Machine H σ ε → Progress H σ ε
  | 0, m => .going m
  | fuel + 1, m =>
    match step p m with
    | .going m' => run p fuel m'
    | finished => finished

/-- The machine about to run a script on the main thread. -/
def start (s : State H σ ε) (script : Script H σ ε) : Machine H σ ε :=
  ⟨s, mainThread, [], .run script⟩

/-- The machine about to run the pool until it is empty. -/
def startPool (s : State H σ ε) : Machine H σ ε :=
  ⟨s, poolThread, [.pool], .back⟩

end Machine

end EventBus
