import EventBus.Proofs.Registry.Census

/-!
# Histories apart from one target

Listeners share the lists of a registry, and the keys they stand under. What one target does with
its own handlers is nevertheless nothing that another can tell (`others_undisturbed`): without the
calls of the one, every other call of a history returns what it returned, and what is resolved is
the same apart from the subscribers of that target.

Two registries that are `Apart` differ in the subscribers of one target at most. A call of this
target on one of them keeps them so (`Apart.own`), and so does a call of anybody else on both
(`Apart.other`).
-/

namespace EventBus

variable {H : Type} {h : Hierarchy} {id : Nat} {r r' : Registry H}

/-- Whether a call is one of the target with that number. -/
def Call.isBy (id : Nat) : Call H → Bool
  | .register target _ => target.id = id
  | .unregister target _ => target.id = id
  | .resolve _ => false

/-- What a call on a bus returns. -/
inductive Answer (H : Type) where
  | registered (added : Nat) (admissions : List (Binding H × Admission))
  | unregistered (removed : Nat)
  | refused (missing : List EventType)
  | resolved (subscribers : List (Subscriber H))

/-- A subscriber without the number that its lock has among those of the bus; every subscriber has a
lock of its own. -/
def Subscriber.unnumbered (s : Subscriber H) : Subscriber H :=
  { s with lock := { s.lock with serial := 0 } }

/-- The subscribers of all targets but one. -/
def others (id : Nat) (xs : List (Subscriber H)) : List (Subscriber H) :=
  (xs.filter (·.target.id ≠ id)).map (·.unnumbered)

/-- An answer as far as it has to do with other targets. -/
def Answer.others (id : Nat) : Answer H → Answer H
  | .resolved xs => .resolved (EventBus.others id xs)
  | answer => answer

namespace Registry

def answer (h : Hierarchy) (r : Registry H) : Call H → Answer H
  | .register target bs =>
    .registered (r.register target bs).added (r.register target bs).admissions
  | .unregister target bs =>
    match r.unregister target bs with
    | .ok (_, removed) => .unregistered removed
    | .error missing => .refused missing
  | .resolve t => .resolved (r.resolve h t)

/-- The calls of a history, each with what it returns. -/
def answers (h : Hierarchy) (r : Registry H) : List (Call H) → List (Call H × Answer H)
  | [] => []
  | c :: calls => (c, r.answer h c) :: (r.call h c).answers h calls

/-- The registries differ in the subscribers of one target at most. -/
structure Apart (id : Nat) (r r' : Registry H) : Prop where
  lists : ∀ t, others id (r.subscribersFor t) = others id (r'.subscribersFor t)
  closures : r.closures = r'.closures
  executor : r.executor = r'.executor
  desk : r.desk = r'.desk

end Registry

/-- The others in two lists are those in the first and those in the second. -/
lemma others_append (xs ys : List (Subscriber H)) :
    others id (xs ++ ys) = others id xs ++ others id ys := by
  rw [others, List.filter_append, List.map_append]
  rfl

/-- The others in lists for several types are those in each of them. -/
lemma others_flatMap (ts : List EventType) (f : EventType → List (Subscriber H)) :
    others id (ts.flatMap f) = ts.flatMap fun t => others id (f t) := by
  rw [others, List.filter_flatMap, List.map_flatMap]
  rfl

section

variable {p : Subscriber H → Bool}

/-- A filter that cannot see numbers may be applied before or after. -/
lemma others_filter (blind : ∀ s, p s.unnumbered = p s) (xs : List (Subscriber H)) :
    others id (xs.filter p) = (others id xs).filter p := by
  rw [others, others, List.filter_map, List.filter_filter, List.filter_filter]
  congr 1
  apply List.filter_congr
  intro s _
  rw [Function.comp_apply, blind, Bool.and_comm]

/-- To drop some of the subscribers of the target makes no difference to the others. -/
lemma others_filter_own (own : ∀ s, p s = false → s.target.id = id) (xs : List (Subscriber H)) :
    others id (xs.filter p) = others id xs := by
  rw [others, others, List.filter_filter]
  congr 1
  apply List.filter_congr
  intro s _
  cases kept : p s with
  | false => simp [own s kept]
  | true => rw [Bool.and_true]

/-- Whoever has a property that the target lacks is one of the others. -/
lemma length_filter_others (blind : ∀ s, p s.unnumbered = p s)
    (foreign : ∀ s, p s → s.target.id ≠ id) (xs : List (Subscriber H)) :
    ((others id xs).filter p).length = (xs.filter p).length := by
  rw [← others_filter blind, others, List.length_map, List.filter_filter]
  congr 1
  apply List.filter_congr
  intro s _
  cases holds : p s with
  | false => rw [Bool.and_false]
  | true => simp [foreign s holds]

/-- Whoever is found by a search for others is one of them. -/
lemma any_others (blind : ∀ s, p s.unnumbered = p s) (foreign : ∀ s, p s → s.target.id ≠ id)
    (xs : List (Subscriber H)) : (others id xs).any p = xs.any p := by
  rw [Bool.eq_iff_iff, List.any_eq_true, List.any_eq_true, ← List.length_filter_pos_iff,
    ← List.length_filter_pos_iff, length_filter_others blind foreign]

end

namespace Registry

/-- The subscribers of the others once a subscriber has been added. -/
lemma others_add (r : Registry H) (target : Target) (b : Binding H) (t : EventType) :
    others id ((r.add target b).subscribersFor t) =
      others id (r.subscribersFor t) ++
        if b.eventType = t ∧ target.id ≠ id then [(r.subscriber target b).unnumbered]
        else [] := by
  rw [subscribersFor_add, others_append]
  congr 1
  by_cases type : b.eventType = t
  · by_cases own : target.id = id
    · simp [others, subscriber, type, own]
    · simp [others, subscriber, type, own]
  · rw [if_neg type, if_neg (fun both => type both.1)]
    rfl

/-- A target finds the same of its own subscribers in a list and among the others of it. -/
lemma holds_others (r : Registry H) {target : Target} (other : target.id ≠ id)
    (key : EventType × String) :
    (others id (r.subscribersFor key.1)).any (·.isFor target key.2) = r.holds target key := by
  apply any_others (fun s => rfl)
  rintro s found rfl
  exact other (eq_of_beq (Bool.and_eq_true_iff.1 found).1).symm

/-- Whoever the bindings of a target name belongs to it. -/
lemma of_named {target : Target} {bs : List (Binding H)} {t : EventType} {s : Subscriber H}
    (found : named target bs t s) : s.target.id = target.id := by
  obtain ⟨b, _, found⟩ := List.any_eq_true.1 found
  exact eq_of_beq (Bool.and_eq_true_iff.1 (Bool.and_eq_true_iff.1 found).2).1

namespace Apart

section

variable {target : Target} (apart : Apart id r r')
include apart

/-- A registration of the target itself leaves the others alone. -/
lemma registerFrom_own (own : target.id = id) (declared : List (EventType × String))
    (bs : List (Binding H)) : Apart id (registerFrom target declared r bs).registry r' := by
  apply registerFrom_keeps (P := fun r => Apart id r r') _ apart
  intro r b _ _ apart
  refine ⟨?_, apart.closures, apart.executor, apart.desk⟩
  intro t
  rw [others_add, if_neg (fun both => both.2 own), List.append_nil]
  exact apart.lists t

/-- A registration of another target is the same on both sides. -/
lemma registerFrom (other : target.id ≠ id) (declared : List (EventType × String))
    (bs : List (Binding H)) :
    Apart id (registerFrom target declared r bs).registry
      (Registry.registerFrom target declared r' bs).registry ∧
    (Registry.registerFrom target declared r bs).added =
      (Registry.registerFrom target declared r' bs).added ∧
    (Registry.registerFrom target declared r bs).admissions =
      (Registry.registerFrom target declared r' bs).admissions := by
  induction bs generalizing r r' declared with
  | nil => exact ⟨apart, rfl, rfl⟩
  | cons b bs ih =>
    have held : r.holds target b.key = r'.holds target b.key := by
      rw [← holds_others r other, apart.lists, holds_others r' other]
    rw [Registry.registerFrom, Registry.registerFrom, held]
    split
    · obtain ⟨apart, added, admissions⟩ := ih apart declared
      exact ⟨apart, added, congrArg (List.cons _) admissions⟩
    · split
      · obtain ⟨apart, added, admissions⟩ := ih apart (b.key :: declared)
        exact ⟨apart, added, congrArg (List.cons _) admissions⟩
      · have apart : Apart id (r.add target b) (r'.add target b) := by
          refine ⟨?_, apart.closures, apart.executor, apart.desk⟩
          intro t
          have alike :
              (r.subscriber target b).unnumbered = (r'.subscriber target b).unnumbered := by
            unfold subscriber
            rw [apart.executor, apart.desk]
            rfl
          rw [others_add, others_add, apart.lists, alike]
        obtain ⟨apart, added, admissions⟩ := ih apart (b.key :: declared)
        exact ⟨apart, congrArg (· + 1) added, congrArg (List.cons _) admissions⟩

/-- An unregistration of the target itself leaves the others alone. -/
lemma unregister_own (own : target.id = id) (bs : List (Binding H)) :
    Apart id (r.call h (.unregister target bs)) r' := by
  rw [call, unregister]
  cases r.missingTypes target bs with
  | cons t ts => exact apart
  | nil =>
    obtain ⟨lists, same⟩ := Books.foldl_removeNamed r target bs (declaredTypes bs)
    have kept := Books.subscribersFor_removeNamed r target bs (declaredTypes bs)
    dsimp only
    rw [same] at kept ⊢
    refine ⟨?_, apart.closures, apart.executor, apart.desk⟩
    intro t
    rw [kept, ← apart.lists]
    split
    · apply others_filter_own
      intro s found
      rw [of_named (Bool.not_eq_eq_eq_not.1 found), own]
    · rfl

/-- An unregistration of another target is the same on both sides. -/
lemma unregister (other : target.id ≠ id) (bs : List (Binding H)) :
    Apart id (r.call h (.unregister target bs)) (r'.call h (.unregister target bs)) ∧
      r.answer h (.unregister target bs) = r'.answer h (.unregister target bs) := by
  have foreign {t : EventType} (s : Subscriber H) (found : named target bs t s) :
      s.target.id ≠ id := by
    rwa [of_named found]
  have missing : r.missingTypes target bs = r'.missingTypes target bs := by
    apply List.filter_congr
    intro t _
    rw [← any_others (fun s => rfl) foreign, apart.lists, any_others (fun s => rfl) foreign]
  have count : r.namedCount target bs = r'.namedCount target bs := by
    rw [namedCount, namedCount, List.length_flatMap, List.length_flatMap]
    congr 2
    funext t
    rw [← length_filter_others (fun s => rfl) foreign, apart.lists,
      length_filter_others (fun s => rfl) foreign]
  rw [call, call, answer, answer, Registry.unregister, Registry.unregister, missing, count]
  cases r'.missingTypes target bs with
  | cons t ts => exact ⟨apart, rfl⟩
  | nil =>
    refine ⟨?_, rfl⟩
    obtain ⟨lists, same⟩ := Books.foldl_removeNamed r target bs (declaredTypes bs)
    obtain ⟨lists', same'⟩ := Books.foldl_removeNamed r' target bs (declaredTypes bs)
    have kept := Books.subscribersFor_removeNamed r target bs (declaredTypes bs)
    have kept' := Books.subscribersFor_removeNamed r' target bs (declaredTypes bs)
    dsimp only
    rw [same] at kept ⊢
    rw [same'] at kept' ⊢
    refine ⟨?_, apart.closures, apart.executor, apart.desk⟩
    intro t
    rw [kept, kept']
    split
    · rw [others_filter (fun s => rfl), others_filter (fun s => rfl), apart.lists]
    · exact apart.lists t

/-- Of the others the same are listed. -/
lemma resolve (t : EventType) : others id (r.resolve h t) = others id (r'.resolve h t) := by
  rw [Registry.resolve, Registry.resolve, others_flatMap, others_flatMap, closureOf, closureOf,
    apart.closures]
  simp only [apart.lists]

/-- To remember a closure keeps the two apart. -/
lemma remember (t : EventType) : Apart id (r.remember h t) (r'.remember h t) := by
  rw [Registry.remember, Registry.remember, apart.closures]
  split
  · exact apart
  · exact ⟨apart.lists, rfl, apart.executor, apart.desk⟩

/-- A call of the target itself. -/
lemma call_own {c : Call H} (own : c.isBy id) : Apart id (r.call h c) r' := by
  cases c with
  | register target bs => exact apart.registerFrom_own (of_decide_eq_true own) [] bs
  | unregister target bs => exact apart.unregister_own (of_decide_eq_true own) bs
  | resolve t => cases own

/-- The same call of anybody else. -/
lemma call {c : Call H} (other : c.isBy id = false) :
    Apart id (r.call h c) (r'.call h c) ∧
      (r.answer h c).others id = (r'.answer h c).others id := by
  cases c with
  | register target bs =>
    obtain ⟨apart, added, admissions⟩ := apart.registerFrom (of_decide_eq_false other) [] bs
    refine ⟨apart, ?_⟩
    rw [answer, answer, Registry.register, Registry.register, added, admissions]
  | unregister target bs =>
    obtain ⟨apart, same⟩ := apart.unregister (h := h) (of_decide_eq_false other) bs
    exact ⟨apart, congrArg _ same⟩
  | resolve t => exact ⟨apart.remember t, congrArg Answer.resolved (apart.resolve t)⟩

/-- A history on the one, and on the other what is left of it without the calls of the target. -/
lemma history (calls : List (Call H)) :
    Apart id (calls.foldl (Registry.call h) r)
      ((calls.filter (!·.isBy id)).foldl (Registry.call h) r') ∧
    ((r.answers h calls).filter (!·.1.isBy id)).map (fun a => (a.1, a.2.others id)) =
      (r'.answers h (calls.filter (!·.isBy id))).map (fun a => (a.1, a.2.others id)) := by
  induction calls generalizing r r' with
  | nil => exact ⟨apart, rfl⟩
  | cons c calls ih =>
    rw [answers, List.foldl_cons]
    cases whose : c.isBy id with
    | true =>
      rw [List.filter_cons_of_neg (by simp [whose]), List.filter_cons_of_neg (by simp [whose])]
      exact ih (apart.call_own whose)
    | false =>
      obtain ⟨apart, same⟩ := apart.call (h := h) whose
      obtain ⟨apart, rest⟩ := ih apart
      rw [List.filter_cons_of_pos (by simp [whose]), List.filter_cons_of_pos (by simp [whose]),
        answers]
      refine ⟨apart, ?_⟩
      rw [List.map_cons, List.map_cons, same, rest]

end

end Apart

end Registry

/-- If a target has made no call, none of what is listed belongs to it. -/
lemma foreign_of_resolve {executor : Executor} {desk : FailureDesk H} {calls : List (Call H)}
    (none : ∀ c ∈ calls, c.isBy id = false) {t : EventType} {s : Subscriber H}
    (listed : s ∈ (Registry.after h executor desk calls).resolve h t) : s.target.id ≠ id := by
  rw [(Books.after h executor desk calls).resolve_eq] at listed
  obtain ⟨_, _, live⟩ := List.mem_flatMap.1 listed
  -- Whoever made the registration that the subscriber comes from is its target.
  obtain ⟨before, target, seen, b, rest, later, rfl, rfl, _⟩ :=
    Ledger.madeLive executor desk calls (List.mem_filter.1 live).1
  exact of_decide_eq_false (none _ (List.mem_append_right _ List.mem_cons_self))

/-- What one target does on a bus, no other target can tell. If the calls of the one are taken out
of a history, each call that is left returns what it did: the same number added or removed, or the
same types that nothing was found for. And whatever type is resolved, then or at the end, the
subscribers of the others are listed as they were, in the same order, with none of that target. -/
theorem others_undisturbed (h : Hierarchy) (executor : Executor) (desk : FailureDesk H)
    (target : Target) (calls : List (Call H)) :
    let rest := calls.filter (!·.isBy target.id)
    let empty : Registry H := .empty executor desk
    ((empty.answers h calls).filter (!·.1.isBy target.id)).map
        (fun a => (a.1, a.2.others target.id)) =
      (empty.answers h rest).map (fun a => (a.1, a.2.others target.id)) ∧
    ∀ t, others target.id ((Registry.after h executor desk calls).resolve h t) =
      ((Registry.after h executor desk rest).resolve h t).map (·.unnumbered) := by
  intro rest empty
  have apart : Registry.Apart target.id empty empty := ⟨fun _ => rfl, rfl, rfl, rfl⟩
  obtain ⟨apart, answers⟩ := apart.history (h := h) calls
  refine ⟨answers, ?_⟩
  intro t
  refine (apart.resolve t).trans ?_
  rw [others, List.filter_eq_self.2]
  · rfl
  intro s listed
  apply decide_eq_true
  apply foreign_of_resolve _ listed
  intro c mem
  exact Bool.not_eq_eq_eq_not.1 (List.mem_filter.1 mem).2

end EventBus
