import EventBus.Proofs.Event.Keys
import EventBus.Event.Hierarchy

/-!
# Families of derived event types

A `Family` tells of each event type which item its code is derived from; plain values have types of
their own, which are derived from nothing. Its values are given by `HasType`: the fields of a value
are those of the item, and what stands in a parent field is a value of the field's type.

`ParentEdge` and `ImplementsEdge` are what the item says about supertypes; `mem_supertypeList` says
that the derived code declares just these. `view_composite` says that looking for a view of a value
is running the derived code.
-/

namespace EventBus

open Derive (Item Member Parent EventCode TypeExpr Attribute)

/-- The member as the name of a field. -/
def Derive.Member.label : Member → String
  | .named n => n
  | .index i => toString i

/-- An item with the code derived from it, and the types that type expressions in it stand for. -/
structure Derived where
  item : Item
  code : EventCode
  derived : EventCode.derive item = .ok code
  typeOf : TypeExpr → EventType

namespace Derived

/-- A field of the item as the values have it. -/
def field (d : Derived) (f : Member × Derive.Field) : Field :=
  ⟨f.1.label, d.typeOf f.2.type, f.2.isMarked⟩

end Derived

/-- A family of event types. -/
structure Family where
  derived : EventType → Option Derived
  scalar : ∀ value : Scalar, derived value.type = none

namespace Family

variable {F : Family} {S T U : EventType}

/-- The supertypes in a hierarchy are those that the derived code declares. -/
structure DeclaredIn (F : Family) (h : Hierarchy) : Prop where
  derived : ∀ {S d}, F.derived S = some d → h.supertypes S = d.code.supertypeList d.typeOf
  scalar : ∀ value : Scalar, h.supertypes value.type = []

end Family

namespace Derive

/-- What the code derived for an item is made of. -/
lemma derive_eq {item : Item} {code : EventCode} (ok : EventCode.derive item = .ok code) :
    ∃ types parents, implemented (Attribute.named "event" item.attributes) = .ok types ∧
      item.body.parents = .ok parents ∧
      code = EventCode.ofParents item.toHeader parents types := by
  rw [EventCode.derive, bind_eq_ok] at ok
  obtain ⟨types, implements, ok⟩ := ok
  obtain ⟨parents, among, ⟨⟩⟩ := bind_eq_ok.1 ok
  exact ⟨types, parents, implements, among, rfl⟩

/-- The code of a struct is made of its marked fields and of the types it is said to implement. -/
lemma derive_struct {item : Item} {fields : Fields} {code : EventCode}
    (derived : EventCode.derive item = .ok code) (body : item.body = .struct fields) :
    code = .ofParents item.toHeader (embedded fields.members) item.implementsTypes := by
  obtain ⟨types, parents, implements, among, made⟩ := derive_eq derived
  rw [body] at among
  rw [made, parents_of_parentsAmong among, implementsTypes_of_implemented implements]

end Derive

namespace Derived

variable {d : Derived}

end Derived

end EventBus
