import EventBus.Derive.ErrorCode

/-!
Values of error types, and what constructions make of a source.

A value of an error type is a variant with its fields; a field holds a context or something else.
A construction has to name each field of its variant: `Construction.completes` asks for that, and
`Construction.value` is what is made then.
-/

namespace EventBus.Derive

/-- What a field of an error holds. -/
inductive FieldValue (α : Type) where
  | context (text : Option String)
  | payload (value : α)
deriving DecidableEq, Repr

/-- A value of an error type: what the fields of a variant hold, in their order. -/
structure ErrorValue (α : Type) where
  variant : String
  fields : List (String × FieldValue α)
deriving DecidableEq, Repr

namespace Variant

def namedFields (v : Variant) : List NamedField :=
  match v.fields with
  | .named fields => fields
  | _ => []

def fieldNames (v : Variant) : List String :=
  v.namedFields.map (·.name)

end Variant

namespace Filling

/-- What a field is filled with, for a source and the context that is being added. -/
def value {α : Type} (source : α) (given : Option String) : Filling → FieldValue α
  | .source => .payload source
  | .noContext => .context none
  | .givenContext => .context given

end Filling

namespace Construction

/-- The construction names each field of the variant once, and nothing else. -/
def completes (c : Construction) (v : Variant) : Bool :=
  c.variant == v.name && (c.fields.map (·.1)).isPerm v.fieldNames

/-- What is made of a source; the fields stand as the variant has them. -/
def value {α : Type} (c : Construction) (v : Variant) (source : α) (given : Option String) :
    ErrorValue α :=
  ⟨v.name, v.fieldNames.filterMap fun n =>
    (c.fields.lookup n).map fun filling => (n, filling.value source given)⟩

end Construction

namespace ErrorValue

def get? {α : Type} (e : ErrorValue α) (field : String) : Option (FieldValue α) :=
  e.fields.lookup field

/-- The value with a new context in a field. -/
def put {α : Type} (e : ErrorValue α) (field text : String) : ErrorValue α :=
  { e with
    fields := e.fields.map fun f =>
      (f.1, if f.1 = field then .context (some text) else f.2) }

end ErrorValue

end EventBus.Derive
