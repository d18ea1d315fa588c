import EventBus.Bus.State

/-!
The log of a group of buses: which happenings are logged, at which level, and in which words.
-/

namespace EventBus

/-- How grave a record is. -/
inductive LogLevel where
  | error | warn | info | debug | trace
deriving DecidableEq, Repr

namespace LogLevel

def rank : LogLevel → Nat
  | error => 0
  | warn => 1
  | info => 2
  | debug => 3
  | trace => 4

def name : LogLevel → String
  | error => "ERROR"
  | warn => "WARN"
  | info => "INFO"
  | debug => "DEBUG"
  | trace => "TRACE"

end LogLevel

/-- The value of a field of a record. -/
inductive LogValue where
  | number (n : Nat)
  | text (s : String)
deriving DecidableEq, Repr

/-- A record of the log. -/
structure LogRecord where
  level : LogLevel
  /-- The part of the library that the record comes from. -/
  area : String
  message : String
  fields : List (String × LogValue)
deriving DecidableEq, Repr

namespace Occurrence

variable {H ε : Type}

def admissionRecord (target : Target) (b : Binding H) (a : Admission) : LogRecord :=
  let subject := [("handler", .text b.handler), ("subscriber", .text target.text)]
  let type := [("event", .text b.eventType.name)]
  match a with
  | .repeated => ⟨.warn, "registry",
      "Handler name declared twice for the same event type, ignoring the second", subject ++ type⟩
  | .present => ⟨.trace, "registry", "Already registered, skipping", subject⟩
  | .added => ⟨.trace, "registry", "Registering subscriber", subject ++ type⟩

/-- The record that a happening leaves in the log, if any. -/
def logRecord? : Occurrence H ε → Option LogRecord
  | built bus executor dispatcher => some ⟨.debug, "builder", "Event bus created",
      [("bus", .text bus.text), ("executor", .text executor.name),
        ("dispatcher", .text dispatcher)]⟩
  | considered target b a => some (admissionRecord target b a)
  | registered bus added target => some ⟨.trace, "bus", "Registered",
      [("bus", .text bus.identifier), ("added", .number added),
        ("listener", .text target.className)]⟩
  | removed n => some ⟨.trace, "registry", "Unregistered subscribers", [("removed", .number n)]⟩
  | unregistered bus n target => some ⟨.trace, "bus", "Unregistered",
      [("bus", .text bus.identifier), ("removed", .number n),
        ("listener", .text target.className)]⟩
  | closureKept t n => some ⟨.debug, "registry", "Cached type closure",
      [("event", .text t.name), ("types", .number n)]⟩
  | routed bus event subscribers => some ⟨.trace, "bus", "Dispatching",
      [("bus", .text bus.identifier), ("event", .text event.type.name),
        ("subscribers", .number subscribers.length)]⟩
  | died bus event => some ⟨.debug, "bus", "No subscribers, posting DeadEvent",
      [("bus", .text bus.identifier), ("event", .text event.type.name)]⟩
  | dropped bus _ => some ⟨.trace, "bus", "Dropping unobserved dead event",
      [("bus", .text bus.identifier)]⟩
  | queued n => some ⟨.trace, "dispatcher", "Queued nested event", [("queued", .number n)]⟩
  | interrupted n => some ⟨.debug, "dispatcher",
      "Dispatch interrupted, dropping queued events", [("discarded", .number n)]⟩
  | handedOff _ _ => some ⟨.trace, "executor",
      "Handing delivery off to the tokio blocking pool", []⟩
  | delivered _ x => some ⟨.trace, "subscriber", "Delivered",
      [("handler", .text x.handler), ("subscriber", .text x.target.text)]⟩
  | failureLogged failure c => some ⟨.error, "exception",
      "Exception thrown by subscriber " ++ c.handler ++ "(" ++ c.declared.name ++ ") on " ++
        c.target.text ++ " when dispatching event",
      [("bus", .text c.bus.identifier), ("handler", .text c.handler),
        ("declared", .text c.declared.name), ("subscriber", .text c.target.text),
        ("event", .text c.event.text), ("error", .text failure.chain)]⟩
  | reportFailed secondary failure c => some ⟨.error, "exception",
      "Exception " ++ secondary.chain ++ " thrown while handling exception: " ++ failure.chain,
      [("bus", .text c.bus.identifier), ("handler", .text c.handler)]⟩
  | reportPanicked payload failure c => some ⟨.error, "exception",
      "Exception handler panicked (" ++ payload.logText ++ ") while handling exception: " ++
        failure.chain,
      [("bus", .text c.bus.identifier), ("handler", .text c.handler)]⟩
  | poolPanicked payload => some ⟨.error, "executor",
      "Delivery panicked on the tokio blocking pool", [("panic", .text payload.logText)]⟩
  | resolved _ _ _ | sighted _ _ | dispatched _ _ _ _ | submitted _ _ _ _ | invoked _ _ _
  | reported _ _ | noted _ => none

end Occurrence

end EventBus
