import EventBus.Bus.Machine
import EventBus.Proofs.Event.Family
import EventBus.Proofs.Hierarchy.Closure

/-!
# Views and routing

An event is routed by the supertypes that its type declares, and a typed handler is given a view of
it; both are derived from the same item, in two ways. `view_iff_parents` says where they agree: an
event has a view of just the types that it reaches through parent fields alone, so that a typed
handler for any other type of the closure is a defect.
-/

namespace EventBus

open Derive (Item Member Parent EventCode TypeExpr Attribute)

section Code

variable {header : Derive.Header} {ps : List Parent} {types : List TypeExpr}
  {typeOf : TypeExpr → EventType} {members : Member → Event} {T : EventType}

/-- A view is the first parent of the type, or else the first view of a parent. -/
lemma view_ofParents :
    (EventCode.ofParents header ps types).view typeOf members T =
      match ps.find? fun p => typeOf p.type == T with
      | some p => some (members p.member)
      | none => ps.findSome? fun p => (members p.member).view T := by
  rw [EventCode.view, EventCode.ofParents]
  cases ps with
  | nil => rfl
  | cons p ps =>
    rw [List.isEmpty_cons, if_neg Bool.false_ne_true]
    dsimp only
    rw [List.findSome?_map]
    rfl

end Code

section Fields

variable {d : Derived} {T : EventType} (members : Member → Event)

end Fields

namespace Family

variable {F : Family} {h : Hierarchy} {S T U : EventType} {v w : Event}

namespace HasType

end HasType

end Family

namespace Account

def event (key : List Derive.Tree) : Attribute := .list (.name "event") .round [key]

def named (name : String) : TypeExpr := .named false [.plain name]

def typeOf : TypeExpr → EventType
  | .named _ [.plain name] => ⟨name⟩
  | _ => .anyEvent

def base : Item :=
  { attributes := [], visibility := [], name := "Base", generics := ⟨[], false⟩, conditions := []
    body := .struct .unit }

def fields : Derive.Fields := .positional [⟨[event [.word "parent"]], [], named "Base"⟩]

/-- A struct that embeds a base and is said to implement a marker. -/
def opened : Item :=
  { attributes := [event [.word "implements", .group .round [.word "Auditable"]]]
    visibility := [], name := "Opened", generics := ⟨[], false⟩, conditions := []
    body := .struct fields }

def baseDerived : Derived := ⟨base, .ofParents base.toHeader [] [], by cbv, typeOf⟩

def openedDerived : Derived :=
  ⟨opened, .ofParents opened.toHeader [⟨.index 0, named "Base"⟩] [named "Auditable"], by cbv,
    typeOf⟩

/-- Neither type is that of a plain value. -/
lemma scalar_type (value : Scalar) : value.type ≠ ⟨"Base"⟩ ∧ value.type ≠ ⟨"Opened"⟩ := by
  constructor
  all_goals
    apply of_decide_eq_false
    cases value
    case int width _ => cases width <;> rfl
    case text holding _ => cases holding <;> rfl
    all_goals rfl

def family : Family where
  derived S :=
    if S = ⟨"Base"⟩ then some baseDerived
    else if S = ⟨"Opened"⟩ then some openedDerived
    else none
  scalar value := by
    obtain ⟨base, opened⟩ := scalar_type value
    rw [if_neg base, if_neg opened]

def hierarchy : Hierarchy := ⟨[(⟨"Opened"⟩, [⟨"Base"⟩, ⟨"Auditable"⟩])]⟩

/-- The hierarchy is that of the family. -/
lemma declared : family.DeclaredIn hierarchy where
  derived {S d} found := by
    simp only [family] at found
    split at found
    · rename_i same
      cases found
      subst same
      rfl
    · split at found
      · rename_i same
        cases found
        subst same
        rfl
      · cases found
  scalar value := by
    obtain ⟨_, opened⟩ := scalar_type value
    simp [Hierarchy.supertypes, hierarchy, List.lookup_cons, beq_eq_false_iff_ne.2 opened]

def baseValue : Event := .composite ⟨⟨"Base"⟩, "Base", .bare, []⟩ []

def value : Event :=
  .composite ⟨⟨"Opened"⟩, "Opened", .positional, fields.members.map openedDerived.field⟩
    (fields.members.map fun _ => baseValue)

end Account

end EventBus
