import EventBus.Event.Type

/-!
Declared supertypes and the type closure.

A `Hierarchy` lists for finitely many types their direct supertypes; all other types have none, and
`EventType.anyEvent` never has one.
`Hierarchy.closure` walks the supertypes of a type breadth first, each type once, and ends with
`EventType.anyEvent`.  Cycles and repetitions are harmless: `unseen_append_fresh` says that every
type entering the walk is one fewer of the finitely many that can still enter it, which is why the
walk ends.
-/

namespace EventBus

/-- The direct supertypes that types declare, in declaration order. -/
structure Hierarchy where
  entries : List (EventType × List EventType)
deriving Repr

namespace Hierarchy

def empty : Hierarchy := ⟨[]⟩

/-- The direct supertypes of a type; nothing is above the universal type. -/
def supertypes (h : Hierarchy) (t : EventType) : List EventType :=
  if t = .anyEvent then [] else (h.entries.lookup t).getD []

/-- The hierarchy in which `t` has the direct supertypes `parents`, whatever it had before. -/
def declare (h : Hierarchy) (t : EventType) (parents : List EventType) : Hierarchy :=
  ⟨(t, parents) :: h.entries.filter (fun e => e.1 != t)⟩

/-- Every type that some type declares as a supertype. -/
def targets (h : Hierarchy) : List EventType :=
  h.entries.flatMap (·.2)

def unseen (h : Hierarchy) (seen : List EventType) : Nat :=
  (h.targets.filter (fun t => !seen.contains t)).length

/-- The types of a list that are not in `seen`, each at its first place. -/
def fresh (seen : List EventType) : List EventType → List EventType
  | [] => []
  | t :: rest => if t ∈ seen then fresh seen rest else t :: fresh (t :: seen) rest

theorem mem_targets_of_mem_supertypes {h : Hierarchy} {t u : EventType}
    (hu : u ∈ h.supertypes t) : u ∈ h.targets := by
  unfold supertypes at hu
  split at hu
  · simp at hu
  unfold targets
  generalize h.entries = es at hu ⊢
  induction es with
  | nil => simp at hu
  | cons e es ih =>
    obtain ⟨k, ps⟩ := e
    rw [List.lookup_cons] at hu
    rw [List.flatMap_cons, List.mem_append]
    split at hu
    · exact Or.inl hu
    · exact Or.inr (ih hu)

/-- A target entering `seen` is no longer among the unseen ones. -/
theorem filter_insert_lt {seen us : List EventType} {t : EventType} (ht : t ∈ us)
    (hs : t ∉ seen) :
    (us.filter (fun u => !(t :: seen).contains u)).length <
      (us.filter (fun u => !seen.contains u)).length := by
  have split : us.filter (fun u => !(t :: seen).contains u) =
      (us.filter (fun u => !seen.contains u)).filter (fun u => u != t) := by
    rw [List.filter_filter]
    apply List.filter_congr
    intro u _
    rw [List.contains_cons, Bool.not_or]
    rfl
  rw [split, List.length_filter_lt_length_iff_exists]
  exact ⟨t, List.mem_filter.2 ⟨ht, by simpa using hs⟩, by simp⟩

theorem unseen_insert_lt {h : Hierarchy} {seen : List EventType} {t : EventType}
    (ht : t ∈ h.targets) (hs : t ∉ seen) : h.unseen (t :: seen) < h.unseen seen :=
  filter_insert_lt ht hs

theorem unseen_congr {h : Hierarchy} {seen seen' : List EventType}
    (e : ∀ t, t ∈ seen ↔ t ∈ seen') : h.unseen seen = h.unseen seen' := by
  unfold unseen
  congr 1
  apply List.filter_congr
  intro t _
  simp [e t]

theorem unseen_append_fresh {h : Hierarchy} {seen ts : List EventType}
    (hts : ∀ t ∈ ts, t ∈ h.targets) :
    h.unseen (seen ++ fresh seen ts) + (fresh seen ts).length ≤ h.unseen seen := by
  induction ts generalizing seen with
  | nil => simp [fresh]
  | cons t ts ih =>
    have hrest : ∀ u ∈ ts, u ∈ h.targets := fun u hu => hts u (List.mem_cons_of_mem _ hu)
    unfold fresh
    split
    · exact ih hrest
    · rename_i hs
      have step := unseen_insert_lt (hts t List.mem_cons_self) hs
      have rest := @ih (t :: seen) hrest
      have e : h.unseen (seen ++ t :: fresh (t :: seen) ts) =
          h.unseen (t :: seen ++ fresh (t :: seen) ts) :=
        unseen_congr (by intro u; simp only [List.mem_append, List.mem_cons]; grind)
      rw [e, List.length_cons]
      omega

/-- The types reached from those pending, first come first served.  A type enters at most once:
what has ever been pending is in `seen`. -/
def walk (h : Hierarchy) (seen : List EventType) : List EventType → List EventType
  | [] => []
  | t :: pending =>
    t :: walk h (seen ++ fresh seen (h.supertypes t)) (pending ++ fresh seen (h.supertypes t))
termination_by pending => h.unseen seen + pending.length
decreasing_by
  have := @unseen_append_fresh h seen (h.supertypes t)
    (fun _ hu => mem_targets_of_mem_supertypes hu)
  simp only [List.length_append, List.length_cons]
  omega

/-- The closure of a type: itself, the types reachable from it breadth first, and last the
universal type. -/
def closure (h : Hierarchy) (t : EventType) : List EventType :=
  if t = .anyEvent then [.anyEvent] else h.walk [.anyEvent, t] [t] ++ [.anyEvent]

end Hierarchy

end EventBus
