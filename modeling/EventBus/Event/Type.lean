/-!
Event types: the routing keys of a bus.

A type is known by its printed name.  Two types have a fixed role: every event counts as an
`anyEvent`, and an event that nobody listens to is wrapped in a `deadEvent`.
-/

namespace EventBus

/-- A type of events, or a marker that events can be declared to carry. -/
structure EventType where
  name : String
deriving DecidableEq, Repr, Hashable

namespace EventType

def anyEvent : EventType := ⟨"herald_event_bus::event::AnyEvent"⟩

/-- The type of the wrapper around an unobserved event. -/
def deadEvent : EventType := ⟨"herald_event_bus::bus::DeadEvent"⟩

end EventType

end EventBus
