import EventBus.Proofs.Hierarchy.Closure

/-!
# Distances in a hierarchy

The walk over the supertypes of a type goes level by level: the type itself, then what is one step
away from it, and so on (`walk_level`). Hence a closure is in the order of the distances, with the
universal type at its end (`closure_by_distance`).
-/

namespace EventBus

namespace Hierarchy

variable {h : Hierarchy} {t u v : EventType} {n k : Nat} {seen pending : List EventType}

/-- A type is reached from `t` by going up to a direct supertype so many times. -/
inductive Climbs (h : Hierarchy) (t : EventType) : Nat → EventType → Prop where
  | here : Climbs h t 0 t
  | up {n : Nat} {u v : EventType} :
    Climbs h t n u →
    h.Declares u v →
    Climbs h t (n + 1) v

/-- The least number of steps that lead from `t` to a type. -/
structure Distance (h : Hierarchy) (t : EventType) (n : Nat) (u : EventType) : Prop where
  climbs : h.Climbs t n u
  least : ∀ {k}, h.Climbs t k u → n ≤ k

instance (h : Hierarchy) (t u : EventType) : Decidable (h.Declares t u) :=
  inferInstanceAs (Decidable (u ∈ h.supertypes t))

/-- In no steps one stays. -/
lemma climbs_zero : h.Climbs t 0 u ↔ t = u := by
  constructor
  · rintro ⟨⟩
    rfl
  · rintro rfl
    exact .here

/-- The last step is one of its own. -/
lemma climbs_succ : h.Climbs t (n + 1) v ↔ ∃ u, h.Climbs t n u ∧ h.Declares u v := by
  constructor
  · rintro ⟨⟩
    exact ⟨_, ‹_›, ‹_›⟩
  · rintro ⟨u, climbs, declares⟩
    exact climbs.up declares

/-- What is above something reached is reached in more steps. -/
lemma Climbs.above (climbs : h.Climbs t n u) (above : Relation.TransGen h.Declares u v) :
    ∃ k, n < k ∧ h.Climbs t k v := by
  induction above with
  | single declares => exact ⟨n + 1, Nat.lt_succ_self n, climbs.up declares⟩
  | tail _ declares ih =>
    obtain ⟨k, less, climbs⟩ := ih
    exact ⟨k + 1, Nat.lt_succ_of_lt less, climbs.up declares⟩

/-- What is reached in some steps is at a distance of no more. -/
lemma Climbs.distance (climbs : h.Climbs t n u) : ∃ k, k ≤ n ∧ h.Distance t k u := by
  classical
  have found : ∃ k, h.Climbs t k u := ⟨n, climbs⟩
  exact ⟨Nat.find found, Nat.find_min' found climbs, Nat.find_spec found, Nat.find_min' found⟩

/-- There is one distance. -/
lemma Distance.unique (d : h.Distance t n u) (d' : h.Distance t k u) : n = k :=
  Nat.le_antisymm (d.least d'.climbs) (d'.least d.climbs)

/-- What is reached is reached in some number of steps. -/
lemma climbs_of_reaches (reaches : Relation.ReflTransGen h.Declares t u) : ∃ n, h.Climbs t n u := by
  induction reaches with
  | refl => exact ⟨0, .here⟩
  | tail _ declares ih =>
    obtain ⟨n, climbs⟩ := ih
    exact ⟨n + 1, climbs.up declares⟩

/-- Every type of a closure but the universal one has a distance. -/
lemma distance_of_mem (mem : u ∈ h.closure t) (proper : u ≠ .anyEvent) : ∃ n, h.Distance t n u := by
  have reaches : Relation.ReflTransGen h.Declares t u := by
    obtain rfl | reaches | universal := mem_closure.1 mem
    · exact .refl
    · exact reaches.to_reflTransGen
    · exact absurd universal proper
  obtain ⟨n, climbs⟩ := climbs_of_reaches reaches
  obtain ⟨k, _, distance⟩ := climbs.distance
  exact ⟨k, distance⟩

/-- What is fresh does not depend on the order in which types were seen. -/
lemma fresh_congr {seen' : List EventType} (same : ∀ u, u ∈ seen ↔ u ∈ seen')
    (ts : List EventType) : fresh seen ts = fresh seen' ts := by
  induction ts generalizing seen seen' with
  | nil => rfl
  | cons t ts ih =>
    have rest : fresh (t :: seen) ts = fresh (t :: seen') ts := by
      apply ih
      intro u
      rw [List.mem_cons, List.mem_cons, same]
    simp only [fresh, same t, ih same, rest]

/-- Of two lists the fresh ones of the first are seen when it comes to the second. -/
lemma fresh_append (seen ts us : List EventType) :
    fresh seen (ts ++ us) = fresh seen ts ++ fresh (seen ++ fresh seen ts) us := by
  induction ts generalizing seen with
  | nil => simp [fresh]
  | cons t ts ih =>
    rw [List.cons_append, fresh, fresh]
    split
    · exact ih seen
    · rw [ih, List.cons_append]
      congr 2
      apply fresh_congr
      intro u
      simp only [List.mem_append, List.mem_cons]
      tauto

/-- Before the walk gets to what stands behind some pending types, it has seen their supertypes. -/
lemma walk_append (h : Hierarchy) (seen ps qs : List EventType) :
    h.walk seen (ps ++ qs) =
      ps ++ h.walk (seen ++ fresh seen (ps.flatMap h.supertypes))
        (qs ++ fresh seen (ps.flatMap h.supertypes)) := by
  induction ps generalizing seen qs with
  | nil => simp [fresh]
  | cons p ps ih =>
    rw [List.cons_append, walk, List.append_assoc, ih, List.flatMap_cons, fresh_append]
    simp only [List.cons_append, List.append_assoc]

/-- The next level of the walk: what is fresh among the supertypes of the pending types. -/
def nextLevel (h : Hierarchy) (seen pending : List EventType) : List EventType :=
  fresh seen (pending.flatMap h.supertypes)

/-- The walk goes level by level. -/
lemma walk_level (h : Hierarchy) (seen pending : List EventType) :
    h.walk seen pending =
      pending ++ h.walk (seen ++ h.nextLevel seen pending) (h.nextLevel seen pending) := by
  have whole := h.walk_append seen pending []
  rwa [List.append_nil, List.nil_append] at whole

/-- The walk from `t` is about to visit the types at distance `n`, and has seen all those that are
no further away. -/
structure Level (h : Hierarchy) (t : EventType) (n : Nat) (seen pending : List EventType) :
    Prop where
  seen : ∀ u, u ∈ seen ↔ u = .anyEvent ∨ ∃ k ≤ n, h.Climbs t k u
  pending : ∀ u, u ∈ pending ↔ u ≠ .anyEvent ∧ h.Distance t n u

namespace Level

/-- The first level is the type itself. -/
lemma start (proper : t ≠ .anyEvent) : h.Level t 0 [.anyEvent, t] [t] where
  seen u := by
    rw [List.mem_cons, List.mem_singleton]
    apply or_congr_right
    constructor
    · rintro rfl
      exact ⟨0, Nat.le_refl 0, .here⟩
    · rintro ⟨k, none, climbs⟩
      cases Nat.le_zero.1 none
      cases climbs
      rfl
  pending u := by
    rw [List.mem_singleton]
    constructor
    · rintro rfl
      exact ⟨proper, .here, fun _ => Nat.zero_le _⟩
    · rintro ⟨_, distance⟩
      cases distance.climbs
      rfl

/-- The next level are the types one step further. -/
lemma mem_next (level : h.Level t n seen pending) :
    u ∈ h.nextLevel seen pending ↔ u ≠ .anyEvent ∧ h.Distance t (n + 1) u := by
  rw [nextLevel, mem_fresh, List.mem_flatMap, level.seen, not_or]
  constructor
  · rintro ⟨⟨v, mem, declares⟩, proper, further⟩
    obtain ⟨_, distance⟩ := (level.pending v).1 mem
    refine ⟨proper, distance.climbs.up declares, ?_⟩
    intro k climbs
    by_contra less
    exact further ⟨k, by omega, climbs⟩
  · rintro ⟨proper, distance⟩
    refine ⟨?_, proper, ?_⟩
    · cases distance.climbs with
      | @up _ v _ climbs declares =>
        refine ⟨v, (level.pending v).2 ⟨?_, climbs, ?_⟩, declares⟩
        · rintro rfl
          exact not_declares_anyEvent declares
        · -- A shorter way to `v` would be one to `u`.
          intro k climbs'
          exact Nat.le_of_succ_le_succ (distance.least (climbs'.up declares))
    · rintro ⟨k, less, climbs⟩
      have := distance.least climbs
      omega

/-- The levels follow one another. -/
lemma next (level : h.Level t n seen pending) :
    h.Level t (n + 1) (seen ++ h.nextLevel seen pending) (h.nextLevel seen pending) where
  seen u := by
    rw [List.mem_append, level.mem_next, level.seen]
    constructor
    · rintro ((universal | ⟨k, less, climbs⟩) | ⟨_, distance⟩)
      · exact .inl universal
      · exact .inr ⟨k, Nat.le_succ_of_le less, climbs⟩
      · exact .inr ⟨n + 1, Nat.le_refl _, distance.climbs⟩
    · rintro (universal | ⟨k, less, climbs⟩)
      · exact .inl (.inl universal)
      · by_cases universal : u = .anyEvent
        · exact .inl (.inl universal)
        obtain ⟨d, less', distance⟩ := climbs.distance
        obtain near | rfl : d ≤ n ∨ d = n + 1 := by omega
        · exact .inl (.inr ⟨d, near, distance.climbs⟩)
        · exact .inr ⟨universal, distance⟩
  pending _ := level.mem_next

/-- Nothing that the walk is still to visit is nearer than the pending types. -/
lemma le_of_mem_walk (level : h.Level t n seen pending) (mem : u ∈ h.walk seen pending)
    (distance : h.Distance t k u) : n ≤ k := by
  obtain mem | new := new_of_mem_walk mem
  · rw [distance.unique ((level.pending u).1 mem).2]
  · by_contra less
    exact new ((level.seen u).2 (.inr ⟨k, by omega, distance.climbs⟩))

end Level

/-- What holds between the types of each level, and of those with all that is visited afterwards,
holds along the walk. -/
lemma walk_pairwise {P : Nat → List EventType → List EventType → Prop}
    {R : EventType → EventType → Prop}
    (next : ∀ {n seen pending}, P n seen pending →
      P (n + 1) (seen ++ h.nextLevel seen pending) (h.nextLevel seen pending))
    (within : ∀ {n seen pending}, P n seen pending → pending.Pairwise R)
    (across : ∀ {n seen pending}, P n seen pending → ∀ u ∈ pending,
      ∀ v ∈ h.walk (seen ++ h.nextLevel seen pending) (h.nextLevel seen pending), R u v)
    (level : P n seen pending) : (h.walk seen pending).Pairwise R := by
  -- Each level is shorter than what was left unseen before it, so that there are finitely many.
  induction left : h.unseen seen using Nat.strong_induction_on generalizing n seen pending with
  | _ left' ih =>
    subst left
    have rest : (h.walk (seen ++ h.nextLevel seen pending) (h.nextLevel seen pending)).Pairwise
        R := by
      by_cases none : h.nextLevel seen pending = []
      · rw [none, walk]
        exact .nil
      · apply ih _ _ (next level) rfl
        have declared : ∀ u ∈ pending.flatMap h.supertypes, u ∈ h.targets := by
          intro u mem
          obtain ⟨v, _, declares⟩ := List.mem_flatMap.1 mem
          exact mem_targets_of_mem_supertypes declares
        have fewer : h.unseen (seen ++ h.nextLevel seen pending) +
            (h.nextLevel seen pending).length ≤ h.unseen seen := unseen_append_fresh declared
        have some := List.length_pos_iff.2 none
        omega
    rw [walk_level, List.pairwise_append]
    exact ⟨within level, rest, across level⟩

/-- The walk visits no type before one that is nearer. -/
lemma walk_by_distance (level : h.Level t n seen pending) :
    (h.walk seen pending).Pairwise fun u v =>
      ∀ i j, h.Distance t i u → h.Distance t j v → i ≤ j := by
  refine walk_pairwise Level.next ?_ ?_ level
  · intro n seen pending level
    apply List.pairwise_of_forall_mem_list
    intro u mem v mem' i j distance distance'
    rw [distance.unique ((level.pending u).1 mem).2,
      distance'.unique ((level.pending v).1 mem').2]
  · intro n seen pending level u mem v mem' i j distance distance'
    rw [distance.unique ((level.pending u).1 mem).2]
    exact Nat.le_of_succ_le (level.next.le_of_mem_walk mem' distance')

/-- A type is nearer to `t` than another one. The universal type is further away than any. -/
def Nearer (h : Hierarchy) (t u v : EventType) : Prop :=
  u ≠ .anyEvent ∧ (v = .anyEvent ∨ ∃ i j, h.Distance t i u ∧ h.Distance t j v ∧ i < j)

/-- What is nearer is something else. -/
lemma Nearer.ne (nearer : h.Nearer t u v) : u ≠ v := by
  rintro rfl
  obtain ⟨proper, universal | ⟨i, j, distance, distance', less⟩⟩ := nearer
  · exact proper universal
  · rw [distance.unique distance'] at less
    exact absurd less (Nat.lt_irrefl j)

/-- In a closure no type comes before one that is nearer. -/
theorem closure_by_distance (h : Hierarchy) (t : EventType) :
    (h.closure t).Pairwise fun u v => ¬h.Nearer t v u := by
  unfold closure
  split
  · exact List.pairwise_singleton ..
  · rename_i proper
    rw [List.pairwise_append]
    refine ⟨?_, List.pairwise_singleton .., ?_⟩
    · apply (walk_by_distance (.start proper)).imp_of_mem
      rintro u v mem _ ordered ⟨_, rfl | ⟨i, j, distance, distance', less⟩⟩
      · obtain mem | new := new_of_mem_walk mem
        · exact proper (List.mem_singleton.1 mem).symm
        · exact new List.mem_cons_self
      · have := ordered j i distance' distance
        omega
    · rintro u _ v mem ⟨other, _⟩
      exact other (List.mem_singleton.1 mem)

end Hierarchy

end EventBus
