import EventBus.Bus.State

/-!
Scripts: what a handler does when it is called.

A script is a tree of calls.  Each call goes to a bus or to what the handler keeps, and the rest
of the script may depend on the answer; every path ends in a result or a panic.  Scripts are
finite along every path, so a handler always comes to an end unless a call of it does not return.

A script cannot catch a panic: where a call of it panics, the rest of the script is not run.  Nor
does it run beside another one.  A call has come to its end before the script goes on, and a post
from a fresh thread is waited for.
-/

namespace EventBus

/-- What a bus is built from. -/
structure BusPlan (H : Type) where
  identifier : String
  executor : Executor
  dispatcher : Dispatcher
  policy : FailurePolicy H

/-- A handler's course of action. -/
inductive Script (H σ ε : Type) where
  /-- The end: all well, or an error. -/
  | finish (result : Except Failure Unit)
  /-- A panic. -/
  | panic (payload : Payload)
  /-- Notes something down. -/
  | note (entry : ε) (next : Script H σ ε)
  /-- Looks at the state, on a thread. -/
  | inspect (next : State H σ ε → Nat → Script H σ ε)
  /-- Changes what the handlers keep. -/
  | update (change : σ → σ) (next : Script H σ ε)
  /-- Declares the direct supertypes of types. -/
  | declare (types : List (EventType × List EventType)) (next : Script H σ ε)
  /-- Makes a queued dispatcher and gives its number. -/
  | newDispatcher (next : Nat → Script H σ ε)
  /-- Builds a bus. -/
  | build (plan : BusPlan H) (next : BusRef → Script H σ ε)
  /-- Registers bindings of a target and gives the number of new subscribers. -/
  | register (bus : Nat) (target : Target) (bindings : List (Binding H))
      (next : Nat → Script H σ ε)
  /-- Unregisters bindings of a target and gives the number of subscribers removed, or why there are
  none. -/
  | unregister (bus : Nat) (target : Target) (bindings : List (Binding H))
      (next : Except Refusal Nat → Script H σ ε)
  /-- Posts an event, from a fresh thread if `elsewhere`, and waits for it. -/
  | post (bus : Nat) (event : Event) (elsewhere : Bool) (next : Script H σ ε)
  /-- Runs deferred deliveries, at most `limit` if there is one, and gives their number. -/
  | runBacklog (limit : Option Nat) (newestFirst : Bool) (next : Nat → Script H σ ε)

/-- What the handlers of a group of buses run. -/
structure Program (H σ ε : Type) where
  /-- The script of a handler that is given an event. -/
  handle : H → Event → Script H σ ε
  /-- The script of a handler of errors. -/
  report : H → Failure → FailureContext → Script H σ ε

end EventBus
