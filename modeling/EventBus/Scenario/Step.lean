import EventBus.Event.Catalogue
import EventBus.Bus.Builder

/-!
Scenarios: what can be told to happen on a group of named buses and listeners.

A scenario is a list of steps.  A step makes or changes a bus or a listener, posts events, runs
deferred work, or looks at something.  The handlers of a listener act by steps too, and by a few
acts of their own; an act may be limited in number and to one written form of the event.
-/

namespace EventBus.Scenario

/-- A dispatcher as a scenario describes it. -/
structure DispatcherSpec where
  queued : Bool
  shared : Option String
  arrangement : Arrangement
  detailed : Bool
deriving Repr

mutual

/-- A step of a scenario. -/
inductive Step where
  | types (entries : List (EventType × List EventType))
  | bus (name : String) (origin : Origin)
  | listener (name className : String) (bindings : List BindingSpec)
  | register (bus listener : String) (bindings : Option (List BindingSpec)) (describe : Bool)
  | unregister (bus listener : String) (bindings : Option (List BindingSpec)) (describe : Bool)
  | post (bus : String) (event : Event) (elsewhere : Bool) (times : Nat)
  | run (limit : Option Nat) (newestFirst : Bool)
  | count (bus : String) (types : List (String × EventType))
  | debug (bus : String)
  | handles (a b : String)

/-- Where a bus comes from. -/
inductive Origin where
  | plain
  | identified (identifier : String)
  | settled (settings : Settings)
  | clone (name : String)
  | built (parts : List Part)

/-- A part given for a bus. -/
inductive Part where
  | identifier (text : String)
  | executor (executor : Executor)
  | dispatcher (spec : DispatcherSpec)
  | settings (settings : Settings)
  | logging
  | noting
  | acting (acts : List Act) (detailed : Bool)

/-- A binding of a listener. -/
inductive BindingSpec where
  | mk (handler : String) (type : EventType) (intake : Intake) (concurrent : Bool)
      (executor : Option Executor) (acts : List Act)

/-- An act of a handler: only for one written form of the event if `only` is given, and at most
`limit` times. -/
inductive Act where
  | mk (only : Option String) (limit : Option Nat) (deed : Deed)

/-- What an act does. -/
inductive Deed where
  | step (name : String) (step : Step)
  | note (text : String)
  | fail (failure : Failure)
  | panic (payload : Payload)
  | countdown (bus : String)
  | repost (bus : String)
  | downcast (name : String) (type : EventType)

end

/-- What a step or a deed shows for itself. -/
inductive Answer where
  | nothing
  | made (text detail : String) (builder : Option String)
  | ok
  | refused (error : BusError)
  | ran (done left : Nat)
  | counted (total : Nat) (perType : List (String × Nat))
  | shown (detail text identifier handle : String) (deferred : Nat)
  | compared (equal matching : Bool) (distinct : Nat)

/-- A dead event as a handler notes it down. -/
structure DeadSighting where
  text : String
  source : String
  identifier : String
  buses : List String
  type : EventType
  event : String

/-- What handlers note down. -/
inductive Entry where
  | called (listener handler : String) (index : Nat) (saw : String) (dead : Option DeadSighting)
  | failed (failure : Failure) (context : FailureContext) (buses : List String) (detailed : Bool)
  | chain (text : String)
  | note (text : String)
  | acted (name : String) (answer : Answer)
  /-- The event inside a dead event, seen as a type; a type without values shows none. -/
  | downcast (name : String) (matching : Bool) (value : Option (Option String))
  | declared (target : Target) (handler : String) (type : EventType) (concurrent : Bool)
      (detail : String)
  | declaredAll (detail : String)

end EventBus.Scenario
