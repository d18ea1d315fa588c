import EventBus.Bus.Dispatcher
import EventBus.Text.Blank

/-!
Settings of a bus: its identifier and the order in which it delivers.

Blanks around an identifier do not count, and an identifier of blanks alone stands for the default.
-/

namespace EventBus

/-- The order of delivery that settings ask for. -/
inductive DispatchMode where
  | queued
  | immediate
deriving DecidableEq, Repr

namespace DispatchMode

def detail : DispatchMode → String
  | queued => "Queued"
  | immediate => "Immediate"

def keyword : DispatchMode → String
  | queued => "queued"
  | immediate => "immediate"

def ofKeyword? (s : String) : Option DispatchMode :=
  if s = queued.keyword then some queued
  else if s = immediate.keyword then some immediate
  else none

/-- The order of a dispatcher of that mode; a queued one has the number `id`. -/
def order (id : Nat) : DispatchMode → DispatchOrder
  | queued => .queued id
  | immediate => .immediate

end DispatchMode

/-- The settings of a bus. -/
structure Settings where
  identifier : String
  dispatch : DispatchMode
deriving DecidableEq, Repr

def defaultIdentifier : String := "default"

/-- The identifier that a bus gets: without the blanks around it, or the default. -/
def normalizeIdentifier (s : String) : String :=
  let trimmed := Text.trim s
  if trimmed.isEmpty then defaultIdentifier else trimmed

namespace Settings

def default : Settings := ⟨defaultIdentifier, .queued⟩

def effectiveIdentifier (s : Settings) : String := normalizeIdentifier s.identifier

def detail (s : Settings) : String :=
  Text.record "EventBusConfig"
    [("identifier", Text.quote s.identifier), ("dispatch", s.dispatch.detail)]

end Settings

end EventBus
