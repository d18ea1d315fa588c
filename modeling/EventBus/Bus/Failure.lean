import EventBus.Error
import EventBus.Event.Basic
import EventBus.Registry.Basic

/-!
How a handler can end badly: with an error, which is reported to the bus, or with a panic, which
unwinds to whoever runs it.

An error is a chain of messages, the outermost first.
-/

namespace EventBus

/-- An error that a handler returns: its message and the messages of what it stems from. -/
structure Failure where
  outermost : String
  causes : List String
deriving DecidableEq, Repr

namespace Failure

def ofMessage (s : String) : Failure := ⟨s, []⟩

def wrap (f : Failure) (context : String) : Failure := ⟨context, f.outermost :: f.causes⟩

def chain (f : Failure) : String := Text.joinWith ": " (f.outermost :: f.causes)

end Failure

/-- What a panic carries. -/
inductive Payload where
  | text (message : String)
  | other
deriving DecidableEq, Repr

/-- The text of a panic where it is caught and logged. -/
def Payload.logText : Payload → String
  | text s => s
  | other => "non-string panic payload"

/-- Everything known about a failed delivery. -/
structure FailureContext where
  bus : BusRef
  /-- The event as it was posted, not the view that the handler was given. -/
  event : Event
  target : Target
  handler : String
  declared : EventType

namespace FailureContext

def detail (c : FailureContext) : String :=
  Text.record "SubscriberExceptionContext"
    [("bus", c.bus.detail), ("event", c.event.text), ("target", c.target.detail),
      ("handler", Text.quote c.handler), ("declared", c.declared.name)]

end FailureContext

def Subscriber.failureContext {H : Type} (s : Subscriber H) (event : Event) : FailureContext :=
  ⟨s.desk.bus, event, s.target, s.handler, s.eventType⟩

/-- What the handler of a subscriber is given of an event: a typed one a value of its declared type,
if the event has one, any other one the event itself. -/
def Subscriber.given {H : Type} (s : Subscriber H) (event : Event) : Option Event :=
  match s.intake with
  | .typed => event.project s.eventType
  | .whole => some event

/-- The defect of a typed handler that has no view of the event it is routed. -/
def Subscriber.defect {H : Type} (s : Subscriber H) (event : Event) : BusError :=
  .handlerDefect
    ("handler '" ++ s.handler ++ "' expects " ++ s.eventType.name ++ " but was given " ++
      event.text)
    (some "no view of the event matches the declared type")

/-- Why a target cannot be unregistered: there are types that hold none of its handlers.  The error
names one of them, and which one it is of several is left open. -/
structure Refusal where
  className : String
  types : List EventType
deriving DecidableEq, Repr

namespace Refusal

/-- The refusal of unregistering bindings of a target from the types in question. -/
def of {H : Type} (target : Target) (bs : List (Binding H)) (missing : List EventType) : Refusal :=
  ⟨if bs.isEmpty then "listener" else target.className, missing⟩

/-- The error that names what is written for a type. -/
def naming (r : Refusal) (type : String) : BusError :=
  .notRegistered (r.className ++ " has no subscriber registered for " ++ type)
    (some "SubscriberRegistry::unregister")

/-- The errors that the refusal may come as. -/
def errors (r : Refusal) : List BusError := r.types.map fun t => r.naming t.name

end Refusal

end EventBus
