import EventBus.Bus.Handle
import EventBus.Event.Scalar
import EventBus.Text.Record

/-!
Event values and how they are seen as values of other types.

An event is a plain value, a value of a declared type that may embed parent events, a free-form
event that lists its views itself, or a dead event around another one.  `Event.view` finds the
value of a supertype inside an event; `Event.project` is what a typed handler receives: the event
itself if it has the wanted type, else its view if that has the wanted type.
-/

namespace EventBus

/-- How the written form of a declared value is laid out. -/
inductive Layout where
  | named | positional | bare
deriving DecidableEq, Repr

/-- A declared field; a parent field embeds an event that counts as a supertype. -/
structure Field where
  name : String
  type : EventType
  parent : Bool
deriving DecidableEq, Repr

/-- The shape of the values of a declared type, or of one variant of it. -/
structure Shape where
  type : EventType
  label : String
  layout : Layout
  fields : List Field
deriving DecidableEq, Repr

/-- An event value. -/
inductive Event where
  /-- A plain value. -/
  | scalar (value : Scalar)
  /-- A value of a declared type, with one value for each field. -/
  | composite (shape : Shape) (values : List Event)
  /-- An event that lists its views; `aliases` are consulted first and may give any event. -/
  | free (type : EventType) (label tag : String) (views : List Event)
      (aliases : List (EventType × Event))
  /-- An event that found no subscriber on `source`. -/
  | dead (source : BusRef) (event : Event) (type : EventType)

namespace Event

def type : Event → EventType
  | scalar v => v.type
  | composite shape _ => shape.type
  | free t _ _ _ _ => t
  | dead _ _ _ => .deadEvent

/-- The value of the first parent field declared of type `t`. -/
def directParent (t : EventType) : List Field → List Event → Option Event
  | f :: fs, v :: vs => if f.parent && f.type == t then some v else directParent t fs vs
  | _, _ => none

def ofType (t : EventType) : List Event → Option Event
  | [] => none
  | v :: vs => if v.type == t then some v else ofType t vs

def aliasOf (t : EventType) : List (EventType × Event) → Option Event
  | [] => none
  | (u, v) :: rest => if u == t then some v else aliasOf t rest

mutual

/-- The event seen as a value of `t`.  A declared value looks at its parent fields of that very
type before it asks the parents in turn; a free-form event looks at its aliases, then at its
views of that type, then asks the views in turn. -/
def view (t : EventType) : Event → Option Event
  | scalar _ => none
  | composite shape values =>
    match directParent t shape.fields values with
    | some v => some v
    | none => viewParents t shape.fields values
  | free _ _ _ views aliases =>
    match aliasOf t aliases with
    | some v => some v
    | none =>
      match ofType t views with
      | some v => some v
      | none => viewAny t views
  | dead _ _ _ => none

/-- The first view that a parent field has of `t`. -/
def viewParents (t : EventType) (fields : List Field) : List Event → Option Event
  | [] => none
  | v :: vs =>
    match fields with
    | [] => none
    | f :: fs =>
      match (if f.parent then view t v else none) with
      | some w => some w
      | none => viewParents t fs vs

/-- The first view that one of the events has of `t`. -/
def viewAny (t : EventType) : List Event → Option Event
  | [] => none
  | v :: vs =>
    match view t v with
    | some w => some w
    | none => viewAny t vs

end

/-- The value that a typed handler for `t` is given, if the event has one. -/
def project (t : EventType) (e : Event) : Option Event :=
  if e.type = t then some e
  else
    match e.view t with
    | some v => if v.type = t then some v else none
    | none => none

mutual

def text : Event → String
  | scalar v => v.written
  | composite shape values =>
    let parts := texts values
    match shape.layout with
    | .named => Text.record shape.label ((shape.fields.map (·.name)).zip parts)
    | .positional => Text.tuple shape.label parts
    | .bare => shape.label
  | free _ label tag _ _ => Text.tuple label [tag]
  | dead source event type =>
    Text.record "DeadEvent"
      [("source", source.detail), ("event", text event), ("event_type", type.name)]

def texts : List Event → List String
  | [] => []
  | e :: es => text e :: texts es

end

/-- The short written form of a dead event around `event`. -/
def deadText (source : BusRef) (event : Event) : String :=
  "DeadEvent\x7bsource=" ++ source.text ++ ", event=" ++ event.text ++ "\x7d"

end Event

end EventBus
