import EventBus.Bus.Builder

/-!
A look at what settings come to: every part as shown, and the bus built from them.
-/

namespace EventBus

/-- What settings come to. -/
structure Preview where
  identifier : String
  effective : String
  dispatch : String
  dispatcher : String
  detail : String
  isDefault : Bool
  bus : String
  busDetail : String
deriving DecidableEq, Repr

def Settings.preview (s : Settings) : Preview :=
  let alone : State Unit Unit Unit := .initial .empty ()
  let dispatcher : Dispatcher := .plain (s.dispatch.order 0)
  let builder : Builder Unit := ⟨some s.identifier, none, some dispatcher, none⟩
  let built := Machine.build alone (builder.plan 0)
  let busDetail := match built.1.buses.get? built.2.id with
    | some b => built.1.busDetail b
    | none => ""
  { identifier := s.identifier, effective := s.effectiveIdentifier, dispatch := s.dispatch.detail,
    dispatcher := alone.dispatcherDetail dispatcher, detail := s.detail,
    isDefault := s = .default, bus := built.2.text, busDetail := busDetail }

end EventBus
