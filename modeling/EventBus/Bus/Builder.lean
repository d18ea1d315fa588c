import EventBus.Bus.Machine
import EventBus.Settings.Basic

/-!
Assembling a bus.

Every part is optional.  A bus that is given nothing is named by the default identifier, delivers
on the posting thread, queues nested events, and logs the errors of its handlers.
-/

namespace EventBus

/-- The parts given for a bus so far. -/
structure Builder (H : Type) where
  identifier : Option String
  executor : Option Executor
  dispatcher : Option Dispatcher
  policy : Option (FailurePolicy H)

namespace Builder

variable {H σ ε : Type}

def empty : Builder H := ⟨none, none, none, none⟩

/-- The builder as shown, with a state to look up the dispatcher in. -/
def detail (b : Builder H) (s : State H σ ε) : String :=
  Text.openRecord "EventBusBuilder"
    [("identifier", Text.option (b.identifier.map Text.quote)),
      ("executor", Text.option (b.executor.map Executor.name)),
      ("dispatcher", Text.option (b.dispatcher.map s.dispatcherDetail))]

/-- The bus to build; without a dispatcher it gets the queued one with the number `id`. -/
def plan (b : Builder H) (id : Nat) : BusPlan H where
  identifier := normalizeIdentifier (b.identifier.getD "")
  executor := b.executor.getD .direct
  dispatcher := b.dispatcher.getD (.plain (.queued id))
  policy := b.policy.getD .log

def build (b : Builder H) (next : BusRef → Script H σ ε) : Script H σ ε :=
  match b.dispatcher with
  | some _ => .build (b.plan 0) next
  | none => .newDispatcher fun id => .build (b.plan id) next

end Builder

end EventBus
