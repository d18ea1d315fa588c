import Mathlib
import EventBus.Event.Hierarchy

/-!
# Type closures

The breadth-first walk over declared supertypes lists what it should: `mem_closure` says that the
closure of a type holds the type, every type that is reached from it and the universal type, and
`closure_nodup` that it holds none twice.
-/

namespace EventBus

namespace Hierarchy

variable {h : Hierarchy} {t u : EventType} {seen ts pending : List EventType}

/-- A type that another one declares as a direct supertype. -/
def Declares (h : Hierarchy) (t u : EventType) : Prop := u ∈ h.supertypes t

/-- Nothing is above the universal type. -/
lemma not_declares_anyEvent : ¬h.Declares .anyEvent u := by
  intro declares
  rw [Declares, supertypes, if_pos rfl] at declares
  cases declares

/-- Fresh are those that have not been seen. -/
lemma mem_fresh : u ∈ fresh seen ts ↔ u ∈ ts ∧ u ∉ seen := by
  induction ts generalizing seen with
  | nil => simp [fresh]
  | cons t ts ih =>
    by_cases old : t ∈ seen
    · rw [fresh, if_pos old, ih]
      constructor
      · rintro ⟨mem, new⟩
        exact ⟨List.mem_cons_of_mem _ mem, new⟩
      · rintro ⟨mem, new⟩
        cases mem with
        | head => exact absurd old new
        | tail _ mem => exact ⟨mem, new⟩
    · rw [fresh, if_neg old, List.mem_cons, ih]
      by_cases same : u = t
      · subst same
        simp [old]
      · simp [same]

/-- None is fresh twice. -/
lemma fresh_nodup : (fresh seen ts).Nodup := by
  induction ts generalizing seen with
  | nil => exact List.nodup_nil
  | cons t ts ih =>
    by_cases old : t ∈ seen
    · rw [fresh, if_pos old]
      exact ih
    · rw [fresh, if_neg old, List.nodup_cons, mem_fresh]
      exact ⟨fun mem => mem.2 List.mem_cons_self, ih⟩

/-- What is pending is walked to. -/
lemma mem_walk_of_mem (mem : u ∈ pending) : u ∈ h.walk seen pending := by
  fun_induction walk h seen pending with
  | case1 => cases mem
  | case2 seen t pending ih =>
    cases mem with
    | head => exact List.mem_cons_self
    | tail _ mem => exact List.mem_cons_of_mem _ (ih (List.mem_append_left _ mem))

/-- What is reached was pending or not seen yet. -/
lemma new_of_mem_walk (mem : u ∈ h.walk seen pending) : u ∈ pending ∨ u ∉ seen := by
  fun_induction walk h seen pending with
  | case1 => cases mem
  | case2 seen t pending ih =>
    cases mem with
    | head => exact .inl List.mem_cons_self
    | tail _ mem =>
      obtain mem | new := ih mem
      · obtain mem | mem := List.mem_append.1 mem
        · exact .inl (List.mem_cons_of_mem _ mem)
        · exact .inr (mem_fresh.1 mem).2
      · exact .inr (fun mem => new (List.mem_append_left _ mem))

/-- The walk comes to nothing twice. -/
lemma walk_nodup (nodup : pending.Nodup) (old : ∀ u ∈ pending, u ∈ seen) :
    (h.walk seen pending).Nodup := by
  fun_induction walk h seen pending with
  | case1 => exact List.nodup_nil
  | case2 seen t pending ih =>
    obtain ⟨once, nodup⟩ := List.nodup_cons.1 nodup
    have old_t := old t List.mem_cons_self
    rw [List.nodup_cons]
    constructor
    · intro mem
      obtain mem | new := new_of_mem_walk mem
      · obtain mem | mem := List.mem_append.1 mem
        · exact once mem
        · exact (mem_fresh.1 mem).2 old_t
      · exact new (List.mem_append_left _ old_t)
    · apply ih
      · rw [List.nodup_append']
        refine ⟨nodup, fresh_nodup, ?_⟩
        intro u mem mem'
        exact (mem_fresh.1 mem').2 (old u (List.mem_cons_of_mem _ mem))
      · intro u mem
        obtain mem | mem := List.mem_append.1 mem
        · exact List.mem_append_left _ (old u (List.mem_cons_of_mem _ mem))
        · exact List.mem_append_right _ mem

/-- What is reached is reached from something pending. -/
lemma reaches_of_mem_walk (mem : u ∈ h.walk seen pending) :
    ∃ v ∈ pending, Relation.ReflTransGen h.Declares v u := by
  fun_induction walk h seen pending with
  | case1 => cases mem
  | case2 seen t pending ih =>
    cases mem with
    | head => exact ⟨u, List.mem_cons_self, .refl⟩
    | tail _ mem =>
      obtain ⟨v, mem, reaches⟩ := ih mem
      obtain mem | mem := List.mem_append.1 mem
      · exact ⟨v, List.mem_cons_of_mem _ mem, reaches⟩
      · exact ⟨t, List.mem_cons_self, .head (mem_fresh.1 mem).1 reaches⟩

/-- The supertypes of what is reached were seen before or are reached as well. -/
lemma walk_closed (mem : t ∈ h.walk seen pending) (declares : h.Declares t u) :
    u ∈ seen ∨ u ∈ h.walk seen pending := by
  fun_induction walk h seen pending with
  | case1 => cases mem
  | case2 seen v pending ih =>
    -- The walk that follows reaches all that is fresh.
    have ahead {w} (mem : w ∈ fresh seen (h.supertypes v)) :
        w ∈ h.walk (seen ++ fresh seen (h.supertypes v))
          (pending ++ fresh seen (h.supertypes v)) :=
      mem_walk_of_mem (List.mem_append_right _ mem)
    cases mem with
    | head =>
      by_cases old : u ∈ seen
      · exact .inl old
      · exact .inr (List.mem_cons_of_mem _ (ahead (mem_fresh.2 ⟨declares, old⟩)))
    | tail _ mem =>
      obtain old | mem := ih mem
      · obtain old | new := List.mem_append.1 old
        · exact .inl old
        · exact .inr (List.mem_cons_of_mem _ (ahead new))
      · exact .inr (List.mem_cons_of_mem _ mem)

/-- What is reached from a type is in its closure. -/
lemma mem_closure_of_reaches (reaches : Relation.ReflTransGen h.Declares t u) :
    u ∈ h.closure t := by
  unfold closure
  split
  · rename_i universal
    subst universal
    obtain rfl | ⟨_, declares, _⟩ := reaches.cases_head
    · exact List.mem_cons_self
    · exact absurd declares not_declares_anyEvent
  · -- What is reached stays in the walk, which is closed, until it is the universal type.
    induction reaches with
    | refl => exact List.mem_append_left _ (mem_walk_of_mem List.mem_cons_self)
    | @tail v w _ declares ih =>
      rw [List.mem_append, List.mem_singleton] at ih ⊢
      obtain mem | rfl := ih
      · obtain old | mem := walk_closed mem declares
        · simp only [List.mem_cons, List.not_mem_nil, or_false] at old
          obtain rfl | rfl := old
          · exact .inr rfl
          · exact .inl (mem_walk_of_mem List.mem_cons_self)
        · exact .inl mem
      · exact absurd declares not_declares_anyEvent

/-- The closure of a type holds just the type, what is reached from it and the universal type. -/
theorem mem_closure :
    u ∈ h.closure t ↔ u = t ∨ Relation.TransGen h.Declares t u ∨ u = .anyEvent := by
  constructor
  · intro mem
    unfold closure at mem
    split at mem
    · rename_i universal
      exact .inl ((List.mem_singleton.1 mem).trans universal.symm)
    · rw [List.mem_append, List.mem_singleton] at mem
      obtain mem | rfl := mem
      · obtain ⟨v, mem, reaches⟩ := reaches_of_mem_walk mem
        cases List.mem_singleton.1 mem
        obtain rfl | reaches := Relation.reflTransGen_iff_eq_or_transGen.1 reaches
        · exact .inl rfl
        · exact .inr (.inl reaches)
      · exact .inr (.inr rfl)
  · rintro (rfl | reaches | rfl)
    · exact mem_closure_of_reaches .refl
    · exact mem_closure_of_reaches reaches.to_reflTransGen
    · unfold closure
      split
      · exact List.mem_cons_self
      · exact List.mem_append_right _ List.mem_cons_self

/-- No type is twice in a closure. -/
theorem closure_nodup : (h.closure t).Nodup := by
  unfold closure
  split
  · exact List.nodup_singleton _
  · rename_i other
    rw [List.nodup_append']
    refine ⟨walk_nodup (List.nodup_singleton t) (by simp), List.nodup_singleton _, ?_⟩
    intro u mem mem'
    cases List.mem_singleton.1 mem'
    obtain mem | new := new_of_mem_walk mem
    · exact other (List.mem_singleton.1 mem).symm
    · exact new List.mem_cons_self

end Hierarchy

end EventBus
