import EventBus.Number.Text

/-!
Handles of buses.

Each bus that is built gets a number of its own, and its handle carries it.  Handles are compared
by that number only: two buses may share an identifier.
-/

namespace EventBus

/-- A reference to a bus that can be kept and compared. -/
structure BusRef where
  id : Nat
  identifier : String
deriving Repr

namespace BusRef

def same (a b : BusRef) : Bool := a.id == b.id

def text (r : BusRef) : String := "EventBus\x7b" ++ r.identifier ++ "\x7d"

def detail (r : BusRef) : String := r.text ++ "#" ++ Number.natText r.id

end BusRef

end EventBus
