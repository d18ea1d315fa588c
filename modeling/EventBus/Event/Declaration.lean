import EventBus.Event.Basic
import EventBus.Event.Hierarchy

/-!
Declarations of event types.

A declaration fixes what the values of a type look like and which supertypes it has: first the
types of its parent fields in field order, then the types it implements, repetitions kept.
Markers are declared too; they have supertypes but no values.
-/

namespace EventBus

/-- The contents of a declared type. -/
inductive Contents where
  | struct (layout : Layout) (fields : List Field)
  | enum (variants : List Shape)
  | marker
deriving Repr

/-- A declared event type. -/
structure Declaration where
  type : EventType
  label : String
  contents : Contents
  implemented : List EventType
deriving Repr

/-- The types of the parent fields, in field order. -/
def Field.parentTypes (fields : List Field) : List EventType :=
  (fields.filter (·.parent)).map (·.type)

namespace Declaration

def supertypes (d : Declaration) : List EventType :=
  match d.contents with
  | .struct _ fields => Field.parentTypes fields ++ d.implemented
  | _ => d.implemented

def shapes (d : Declaration) : List Shape :=
  match d.contents with
  | .struct layout fields => [⟨d.type, d.label, layout, fields⟩]
  | .enum variants => variants
  | .marker => []

def value (d : Declaration) (values : List Event) : Event :=
  match d.contents with
  | .struct layout fields => .composite ⟨d.type, d.label, layout, fields⟩ values
  | _ => .composite ⟨d.type, d.label, .bare, []⟩ values

/-- A value of an enum type, by the place of its variant. -/
def variantValue (d : Declaration) (index : Nat) (values : List Event) : Event :=
  match d.shapes[index]? with
  | some shape => .composite shape values
  | none => d.value values

end Declaration

/-- The hierarchy that a list of declarations gives; a later declaration of a type wins. -/
def Hierarchy.ofDeclarations (ds : List Declaration) : Hierarchy :=
  ds.foldl (fun h d => h.declare d.type d.supertypes) .empty

end EventBus
