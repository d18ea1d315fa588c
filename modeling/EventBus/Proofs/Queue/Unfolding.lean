import Mathlib

/-!
# Unfoldings

Work that can be done in any order. Each piece that is settled leaves a report and turns into other
pieces, whatever else is still to be done. `Unfolds` says that all that is owed can be settled;
`Unfolds.settle_first` that any piece may be the first, so that the number of pieces and the reports
do not depend on the order. `Interleaves` says what the order is free to do: it shuffles lists and
keeps each of them in its own order.
-/

namespace EventBus

/-- What a piece of work turns into when it is settled, and what is reported of it. -/
structure Settlement (A B : Type) where
  yields : A → List A
  tells : A → List B

namespace Settlement

variable {A B : Type} (S : Settlement A B)

/-- All that is owed can be settled, piece by piece; so many pieces are settled on the way, and this
is reported of them. -/
inductive Unfolds : Multiset A → Multiset B → Nat → Prop where
  | nil : Unfolds 0 0 0
  | settle {a owed told n} :
    Unfolds (S.yields a + owed) told n →
    Unfolds (a ::ₘ owed) (S.tells a + told) (n + 1)

variable {S} {owed : Multiset A} {told told' : Multiset B} {n n' : Nat}

namespace Unfolds

/-- Any piece may be settled before the others. -/
lemma settle_first {all : Multiset A} (h : S.Unfolds all told n) :
    ∀ {a owed}, all = a ::ₘ owed →
      ∃ told' n', S.Unfolds (S.yields a + owed) told' n' ∧ told = S.tells a + told' ∧
        n = n' + 1 := by
  induction h with
  | nil =>
    intro a owed split
    exact absurd split Multiset.zero_ne_cons
  | @settle b others told n h ih =>
    intro a owed split
    obtain ⟨rfl, rfl⟩ | ⟨_, rest, rfl, rfl⟩ := Multiset.cons_eq_cons.1 split
    · exact ⟨told, n, h, rfl, rfl⟩
    · -- The piece `a` comes first in what is left once `b` is settled, and `b` can wait for it.
      obtain ⟨told, n, h, rfl, rfl⟩ := ih (Multiset.add_cons a _ rest)
      refine ⟨S.tells b + told, n + 1, ?_, add_left_comm .., rfl⟩
      rw [Multiset.add_cons]
      apply settle
      rwa [add_left_comm]

/-- Whichever way it is unfolded, what is told is the same, in as many steps. -/
theorem unique (h : S.Unfolds owed told n) (h' : S.Unfolds owed told' n') :
    told' = told ∧ n' = n := by
  induction h generalizing told' n' with
  | nil =>
    generalize none : (0 : Multiset A) = owed at h'
    cases h' with
    | nil => exact ⟨rfl, rfl⟩
    | settle _ => exact absurd none Multiset.zero_ne_cons
  | settle _ ih =>
    obtain ⟨_, _, rest, rfl, rfl⟩ := h'.settle_first rfl
    obtain ⟨rfl, rfl⟩ := ih rest
    exact ⟨rfl, rfl⟩

end Unfolds

end Settlement

/-- A list in which other lists are run through side by side, each in its own order. -/
inductive Interleaves {A : Type} : Multiset (List A) → List A → Prop where
  | nil : Interleaves 0 []
  | done {lists whole} :
    Interleaves lists whole →
    Interleaves ([] ::ₘ lists) whole
  | next {a as lists whole} :
    Interleaves (as ::ₘ lists) whole →
    Interleaves ((a :: as) ::ₘ lists) (a :: whole)

namespace Interleaves

variable {A : Type} {lists : Multiset (List A)} {whole : List A}

/-- Each list keeps its order. -/
lemma sublist (h : Interleaves lists whole) : ∀ {as}, as ∈ lists → as.Sublist whole := by
  induction h with
  | nil =>
    intro as mem
    exact absurd mem (Multiset.notMem_zero as)
  | done _ ih =>
    intro as mem
    obtain rfl | mem := Multiset.mem_cons.1 mem
    · exact List.nil_sublist _
    · exact ih mem
  | @next a bs _ _ _ ih =>
    intro as mem
    obtain rfl | mem := Multiset.mem_cons.1 mem
    · exact (ih (Multiset.mem_cons_self bs _)).cons_cons a
    · exact (ih (Multiset.mem_cons_of_mem mem)).cons a

end Interleaves

end EventBus
