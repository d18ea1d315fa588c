import EventBus.Event.Catalogue
import EventBus.Proofs.Hierarchy.Distance
import EventBus.Proofs.Registry.Ledger

/-!
# Who comes first

The subscribers that are listed for a type stand in the order of the distances of their declared
types. That puts the more specific type first wherever it is the nearer one
(`resolve_specific_first`). It need not be the nearer one: `signal_misorders` has a type that
declares a supertype itself which it also has by way of another one.
-/

namespace EventBus

variable {H : Type}

/-- Each subscriber declared for `u` comes before each that is declared for `v`. -/
def Leads (u v : EventType) (xs : List (Subscriber H)) : Prop :=
  xs.Pairwise fun x y => ¬(x.eventType = v ∧ y.eventType = u)

namespace Hierarchy

variable {h : Hierarchy} {t u v : EventType}

/-- Where every type has a higher rank than those it declares, no type is above itself. -/
lemma acyclic_of_rank (rank : EventType → Nat)
    (down : ∀ e ∈ h.entries, ∀ u ∈ e.2, rank u < rank e.1) : ¬Relation.TransGen h.Declares t t := by
  have step {t u : EventType} (declares : h.Declares t u) : rank u < rank t := by
    unfold Declares supertypes at declares
    split at declares
    · cases declares
    · cases found : h.entries.lookup t with
      | none => simp [found] at declares
      | some us =>
        obtain ⟨before, behind, split, _⟩ := List.lookup_eq_some_iff.1 found
        rw [found] at declares
        exact down (t, us) (by simp [split]) u declares
  have lower {u : EventType} (above : Relation.TransGen h.Declares t u) : rank u < rank t := by
    induction above with
    | single declares => exact step declares
    | tail _ declares ih => exact (step declares).trans ih
  exact fun above => Nat.lt_irrefl _ (lower above)

/-- A type is nearer than one above it if every way to the latter is longer than the shortest way to
it. -/
lemma nearer_of_above (mem : u ∈ h.closure t) (other : u ≠ v)
    (above : Relation.TransGen h.Declares u v)
    (detour : v = .anyEvent ∨ ∀ i j, h.Distance t i u → h.Climbs t j v → i < j) :
    h.Nearer t u v := by
  have proper : u ≠ .anyEvent := by
    rintro rfl
    obtain ⟨_, declares, _⟩ := Relation.TransGen.head'_iff.1 above
    exact not_declares_anyEvent declares
  refine ⟨proper, detour.imp_right fun longer => ?_⟩
  obtain ⟨i, distance⟩ := distance_of_mem mem proper
  obtain ⟨j, _, climbs⟩ := distance.climbs.above above
  obtain ⟨j', _, distance'⟩ := climbs.distance
  exact ⟨i, j', distance, distance', longer i j' distance distance'.climbs⟩

end Hierarchy

namespace Books

variable {h : Hierarchy} {executor : Executor} {desk : FailureDesk H} {r : Registry H}
  {l : Ledger H}

/-- Those for the nearer type come first in the list. -/
lemma leads_of_nearer (books : Books h executor desk r l) {t u v : EventType}
    (nearer : h.Nearer t u v) : Leads u v (r.resolve h t) := by
  rw [books.resolve_eq, Leads, List.pairwise_flatMap]
  have declared {w : EventType} {x : Subscriber H}
      (mem : x ∈ l.live.filter (·.eventType = w)) : x.eventType = w :=
    of_decide_eq_true (List.mem_filter.1 mem).2
  constructor
  · intro w _
    apply List.pairwise_of_forall_mem_list
    rintro x mem y mem' ⟨type, type'⟩
    rw [declared mem] at type
    rw [declared mem'] at type'
    exact nearer.ne (type'.symm.trans type)
  · apply (h.closure_by_distance t).imp
    rintro w w' ordered x mem y mem' ⟨rfl, rfl⟩
    rw [declared mem, declared mem'] at nearer
    exact ordered nearer

end Books

/-- After any history of calls on a bus, the subscribers that are listed for a type stand in the
order of the distances of their declared types, with those for the universal type at the end. So
each subscriber for a type comes before each for a type above it, unless some way up to the latter
is no longer than the shortest to the former. -/
theorem resolve_specific_first (h : Hierarchy) (executor : Executor) (desk : FailureDesk H)
    (calls : List (Call H)) (t : EventType) :
    (∀ u v, h.Nearer t u v → Leads u v ((Registry.after h executor desk calls).resolve h t)) ∧
    ∀ u v, u ∈ h.closure t → u ≠ v → Relation.TransGen h.Declares u v →
      (v = .anyEvent ∨ ∀ i j, h.Distance t i u → h.Climbs t j v → i < j) →
      Leads u v ((Registry.after h executor desk calls).resolve h t) := by
  have books := Books.after h executor desk calls
  constructor
  · intro u v nearer
    exact books.leads_of_nearer nearer
  · intro u v mem other above detour
    exact books.leads_of_nearer (Hierarchy.nearer_of_above mem other above detour)

namespace Detour

open Catalogue

/-- Orders that are shipped are billable, and what is billable is auditable. -/
def orders : Hierarchy := .ofDeclarations [auditable, billable, orderShippedType]

/-- Signals are billable as well, but they declare first that they are auditable. -/
def signals : Hierarchy := .ofDeclarations [auditable, billable, signalType]

def binding (handler : String) (type : EventType) : Binding Unit :=
  ⟨handler, type, .whole, false, none, ()⟩

/-- A listener to what is auditable and to what is billable is registered. -/
def calls : List (Call Unit) :=
  [.register ⟨1, "Listener", "listener"⟩
    [binding "on_auditable" auditable.type, binding "on_billable" billable.type]]

def desk : FailureDesk Unit := ⟨⟨1, "bus"⟩, .log⟩

/-- Signals are above nothing, and what is auditable is below nothing. -/
lemma signals_acyclic (t : EventType) : ¬Relation.TransGen signals.Declares t t :=
  Hierarchy.acyclic_of_rank
    (fun u => if u = signalType.type then 2 else if u = billable.type then 1 else 0) (by decide)

end Detour

/-- Of an order that is shipped the listener is told as billable before it is told as auditable. -/
theorem orders_specific_first :
    Leads Catalogue.billable.type Catalogue.auditable.type
      ((Registry.after Detour.orders .direct Detour.desk Detour.calls).resolve Detour.orders
        Catalogue.orderShippedType.type) := by
  have declares : Detour.orders.Declares Catalogue.billable.type Catalogue.auditable.type := by
    decide
  obtain ⟨_, first⟩ := resolve_specific_first Detour.orders .direct Detour.desk Detour.calls
    Catalogue.orderShippedType.type
  apply first _ _ (by decide +kernel) (by decide) (.single declares)
  right
  intro i j distance climbs
  have near := distance.least (Hierarchy.climbs_succ.2 ⟨_, .here, by decide⟩)
  -- Two steps at least lead to what is auditable.
  match j with
  | 0 => exact absurd (Hierarchy.climbs_zero.1 climbs) (by decide)
  | 1 =>
    obtain ⟨_, climbs, declares⟩ := Hierarchy.climbs_succ.1 climbs
    obtain rfl := Hierarchy.climbs_zero.1 climbs
    exact absurd declares (by decide)
  | j + 2 => omega

/-- A type need not come before those above it, although no type is above itself: of a signal the
listener is told as auditable before it is told as billable. -/
theorem signal_misorders :
    ¬∀ (h : Hierarchy) (executor : Executor) (desk : FailureDesk Unit) (calls : List (Call Unit))
      (t u v : EventType), (∀ w, ¬Relation.TransGen h.Declares w w) →
      u ∈ h.closure t → v ∈ h.closure t → u ≠ v → Relation.TransGen h.Declares u v →
      Leads u v ((Registry.after h executor desk calls).resolve h t) := by
  intro first
  have listed : (((Registry.after Detour.signals .direct Detour.desk Detour.calls).resolve
      Detour.signals Catalogue.signalType.type).map (·.eventType)) =
        [Catalogue.auditable.type, Catalogue.billable.type] := by
    decide +kernel
  have one : Detour.signals.Declares Catalogue.billable.type Catalogue.auditable.type := by decide
  have leads := first Detour.signals .direct Detour.desk Detour.calls Catalogue.signalType.type
    Catalogue.billable.type Catalogue.auditable.type Detour.signals_acyclic (by decide +kernel)
    (by decide +kernel) (by decide) (.single one)
  rw [Leads, ← List.pairwise_map (f := Subscriber.eventType)
    (R := fun a b => ¬(a = Catalogue.auditable.type ∧ b = Catalogue.billable.type)), listed]
    at leads
  exact absurd leads (by decide)

end EventBus
