import EventBus.Event.Basic
import EventBus.Registry.Basic

/-!
Dispatchers decide in which order events and their subscribers are driven.

An immediate dispatcher delivers an event as soon as it is posted.  A queued dispatcher keeps one
queue for each thread that posts: the outermost post of a thread drains it, and what is posted
meanwhile waits its turn.  Several buses may share one queued dispatcher, so it has a number.
An arrangement watches or changes the list of subscribers before the dispatcher gets it.
-/

namespace EventBus

/-- The order in which events are driven. -/
inductive DispatchOrder where
  /-- First posted, first served, on each thread; the queues are known by a number. -/
  | queued (id : Nat)
  /-- At once. -/
  | immediate
deriving DecidableEq, Repr

/-- What is done to the list of subscribers on its way to the dispatcher. -/
inductive Arrangement where
  /-- Nothing. -/
  | plain
  /-- The dispatch is noted down. -/
  | record
  /-- Noted down, and reversed. -/
  | reverse
  /-- Noted down, and the first of equal subscribers kept. -/
  | unique
  /-- Noted down, and nothing is delivered. -/
  | drop
deriving DecidableEq, Repr

def Arrangement.name : Arrangement → String
  | plain => "plain"
  | record => "record"
  | reverse => "reverse"
  | unique => "unique"
  | drop => "drop"

/-- A dispatcher of a bus. -/
structure Dispatcher where
  order : DispatchOrder
  arrangement : Arrangement
  /-- Whether noting down a dispatch shows the subscribers in full. -/
  detailed : Bool
deriving DecidableEq, Repr

def Dispatcher.plain (order : DispatchOrder) : Dispatcher := ⟨order, .plain, false⟩

/-- The subscribers without those that equal an earlier one. -/
def keepFirst {H : Type} : List (Subscriber H) → List (Subscriber H)
  | [] => []
  | s :: rest => s :: (keepFirst rest).filter (fun t => !s.same t)

/-- The subscribers that the dispatcher gets; nothing if the event is not delivered at all. -/
def Arrangement.apply {H : Type} (a : Arrangement) (ss : List (Subscriber H)) :
    Option (List (Subscriber H)) :=
  match a with
  | plain | record => some ss
  | reverse => some ss.reverse
  | unique => some (keepFirst ss)
  | drop => none

/-- An event waiting with the subscribers it was posted to. -/
structure Pending (H : Type) where
  event : Event
  subscribers : List (Subscriber H)

/-- The queue of one thread. -/
structure DispatchQueue (H : Type) where
  waiting : List (Pending H)
  draining : Bool

end EventBus
