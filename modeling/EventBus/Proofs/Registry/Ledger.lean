import EventBus.Proofs.Hierarchy.Closure
import EventBus.Registry.Basic

/-!
# The ledger of a registry

A registry keeps its subscribers in one list for each declared type. The `Ledger` is the plain
account of the same history: one list of the subscriptions that are live, the one that has been live
longest first. `Books` says what the two have to do with each other, `Books.call` that every call
keeps it, and `resolve_lists_live` what resolving a type comes to after any history.
-/

namespace EventBus

variable {H : Type}

/-- What tells the live subscriptions of a bus apart: the declared type, the target and the handler.
-/
def Subscriber.subscription (s : Subscriber H) : EventType × Nat × String :=
  (s.eventType, s.target.id, s.handler)

/-- The live subscriptions of a bus, oldest first, and the number of those there have ever been. -/
structure Ledger (H : Type) where
  live : List (Subscriber H)
  ever : Nat

/-- A call on a bus that has to do with its subscriptions. -/
inductive Call (H : Type) where
  | register (target : Target) (bindings : List (Binding H))
  | unregister (target : Target) (bindings : List (Binding H))
  | resolve (type : EventType)

/-- What a registry lists for a type once a subscriber has been added. -/
lemma Registry.subscribersFor_add (r : Registry H) (target : Target) (b : Binding H)
    (t : EventType) :
    (r.add target b).subscribersFor t =
      r.subscribersFor t ++ if b.eventType = t then [r.subscriber target b] else [] := by
  rw [add, subscribersFor, Table.get?_set]
  split
  · rename_i same
    rw [← same]
    rfl
  · exact (List.append_nil _).symm

/-- Once a binding is a subscriber, the target has its key besides those it had. -/
lemma Registry.holds_add {r : Registry H} {target : Target} {b : Binding H}
    {key : EventType × String} :
    (r.add target b).holds target key ↔ r.holds target key ∨ key = b.key := by
  rw [holds, subscribersFor_add, List.any_append, Bool.or_eq_true]
  apply or_congr_right
  constructor
  · intro new
    split at new
    · rename_i type
      obtain ⟨s, mem, isFor⟩ := List.any_eq_true.1 new
      obtain rfl := List.mem_singleton.1 mem
      have handler : b.handler = key.2 := eq_of_beq (Bool.and_eq_true_iff.1 isFor).2
      exact Prod.ext type.symm handler.symm
    · cases new
  · rintro rfl
    simp [Binding.key, Subscriber.isFor, subscriber]

/-- A registration keeps whatever is kept when a subscriber is added for one of its bindings. -/
lemma Registry.registerFrom_keeps {P : Registry H → Prop} {target : Target} {bs : List (Binding H)}
    (add : ∀ r : Registry H, ∀ b ∈ bs, ¬r.holds target b.key → P r → P (r.add target b))
    {r : Registry H} (h : P r) (declared : List (EventType × String)) :
    P (registerFrom target declared r bs).registry := by
  induction bs generalizing r declared with
  | nil => exact h
  | cons b bs ih =>
    have ih := fun {r} => @ih (fun r b mem => add r b (List.mem_cons_of_mem _ mem)) r
    rw [registerFrom]
    split
    · exact ih h declared
    · split
      · exact ih h _
      · rename_i new
        exact ih (add r b List.mem_cons_self new h) _

namespace Ledger

/-- The `n`th subscription that there has ever been. -/
def entry (executor : Executor) (desk : FailureDesk H) (n : Nat) (target : Target)
    (b : Binding H) : Subscriber H where
  target := target
  handler := b.handler
  eventType := b.eventType
  intake := b.intake
  concurrent := b.concurrent
  executor := b.executor.getD executor
  code := b.code
  desk := desk
  lock := ⟨desk.bus.id, n⟩

/-- A binding becomes a live subscription, unless its subscription is live already. -/
def enter (executor : Executor) (desk : FailureDesk H) (target : Target) (l : Ledger H)
    (b : Binding H) : Ledger H :=
  if (b.eventType, target.id, b.handler) ∈ l.live.map (·.subscription) then l
  else ⟨l.live ++ [entry executor desk l.ever target b], l.ever + 1⟩

/-- Whether a subscription is one that the bindings of a target name. -/
def names (target : Target) (bs : List (Binding H)) (s : Subscriber H) : Bool :=
  bs.any (fun b => s.subscription = (b.eventType, target.id, b.handler))

/-- The subscriptions that the bindings of a target name are live no more, provided that each type
the bindings declare is the type of one of them. -/
def strike (target : Target) (bs : List (Binding H)) (l : Ledger H) : Ledger H :=
  if ∀ b ∈ bs, ∃ s ∈ l.live, s.eventType = b.eventType ∧ names target bs s then
    { l with live := l.live.filter (fun s => !names target bs s) }
  else l

/-- The ledger after a call. -/
def call (executor : Executor) (desk : FailureDesk H) (l : Ledger H) : Call H → Ledger H
  | .register target bs => bs.foldl (enter executor desk target) l
  | .unregister target bs => l.strike target bs
  | .resolve _ => l

/-- The ledger after a history of calls. -/
def after (executor : Executor) (desk : FailureDesk H) (calls : List (Call H)) : Ledger H :=
  calls.foldl (call executor desk) ⟨[], 0⟩

/-- Nobody is named whose type is not declared. -/
lemma not_names {target : Target} {bs : List (Binding H)} {s : Subscriber H}
    (undeclared : s.eventType ∉ Registry.declaredTypes bs) : names target bs s = false := by
  rw [Bool.eq_false_iff]
  intro named
  obtain ⟨b, mem, same⟩ := List.any_eq_true.1 named
  have type : s.eventType = b.eventType := congrArg (·.1) (of_decide_eq_true same)
  apply undeclared
  rw [type]
  exact Hierarchy.mem_fresh.2 ⟨List.mem_map_of_mem mem, List.not_mem_nil⟩

end Ledger

namespace Registry

/-- The registry after a call. -/
def call (h : Hierarchy) (r : Registry H) : Call H → Registry H
  | .register target bs => (r.register target bs).registry
  | .unregister target bs =>
    match r.unregister target bs with
    | .ok (kept, _) => kept
    | .error _ => r
  | .resolve t => r.remember h t

/-- The registry of a new bus after a history of calls. -/
def after (h : Hierarchy) (executor : Executor) (desk : FailureDesk H) (calls : List (Call H)) :
    Registry H :=
  calls.foldl (call h) (.empty executor desk)

end Registry

/-- A registry and a ledger tell of the same subscriptions, none of which is live twice. -/
structure Books (h : Hierarchy) (executor : Executor) (desk : FailureDesk H) (r : Registry H)
    (l : Ledger H) : Prop where
  executor_eq : r.executor = executor
  desk_eq : r.desk = desk
  serial : r.serial = l.ever
  lists : ∀ t, r.subscribersFor t = l.live.filter (·.eventType = t)
  closures : ∀ t c, r.closures.get? t = some c → c = h.closure t
  distinct : (l.live.map (·.subscription)).Nodup

namespace Books

variable {h : Hierarchy} {executor : Executor} {desk : FailureDesk H} {r : Registry H}
  {l : Ledger H} {target : Target}

/-- A registry has the handler of a target for a type just where the subscription is live. -/
lemma holds_iff (books : Books h executor desk r l) (key : EventType × String) :
    r.holds target key ↔ (key.1, target.id, key.2) ∈ l.live.map (·.subscription) := by
  rw [Registry.holds, books.lists, List.any_eq_true, List.mem_map]
  simp only [List.mem_filter, Subscriber.isFor, Bool.and_eq_true, beq_iff_eq, decide_eq_true_eq,
    Subscriber.subscription, Prod.mk.injEq]
  constructor
  · rintro ⟨s, ⟨mem, type⟩, id, handler⟩
    exact ⟨s, mem, type, id, handler⟩
  · rintro ⟨s, mem, type, id, handler⟩
    exact ⟨s, ⟨mem, type⟩, id, handler⟩

/-- A binding that is held already is not entered. -/
lemma enter_old (books : Books h executor desk r l) {b : Binding H} (old : r.holds target b.key) :
    l.enter executor desk target b = l := by
  have old : (b.eventType, target.id, b.handler) ∈ l.live.map (·.subscription) :=
    (books.holds_iff b.key).1 old
  rw [Ledger.enter, if_pos old]

/-- A binding that is new becomes the last subscription. -/
lemma enter_new (books : Books h executor desk r l) {b : Binding H}
    (new : ¬r.holds target b.key) :
    l.enter executor desk target b = ⟨l.live ++ [r.subscriber target b], l.ever + 1⟩ := by
  have new : (b.eventType, target.id, b.handler) ∉ l.live.map (·.subscription) :=
    fun mem => new ((books.holds_iff b.key).2 mem)
  have same : Ledger.entry executor desk l.ever target b = r.subscriber target b := by
    rw [Registry.subscriber, books.executor_eq, books.desk_eq, books.serial]
    rfl
  rw [Ledger.enter, if_neg new, same]

/-- One more subscriber is one more entry. -/
lemma add (books : Books h executor desk r l) {b : Binding H} (new : ¬r.holds target b.key) :
    Books h executor desk (r.add target b) (l.enter executor desk target b) := by
  rw [books.enter_new new]
  constructor
  · exact books.executor_eq
  · exact books.desk_eq
  · exact congrArg (· + 1) books.serial
  · intro t
    rw [Registry.subscribersFor_add, List.filter_append, ← books.lists]
    congr 1
    by_cases type : b.eventType = t
    · simp [Registry.subscriber, type]
    · simp [Registry.subscriber, type]
  · exact books.closures
  · rw [List.map_append, List.nodup_append']
    refine ⟨books.distinct, List.nodup_singleton _, ?_⟩
    intro key mem mem'
    cases List.mem_singleton.1 mem'
    exact new ((books.holds_iff b.key).2 mem)

/-- A registration enters its bindings one after the other. -/
lemma registerFrom (books : Books h executor desk r l) (bs : List (Binding H))
    {declared : List (EventType × String)} (old : ∀ key ∈ declared, r.holds target key) :
    Books h executor desk (Registry.registerFrom target declared r bs).registry
      (bs.foldl (Ledger.enter executor desk target) l) := by
  -- What has been declared is held by now, so that a repetition is an old subscription as well.
  induction bs generalizing r l declared with
  | nil => exact books
  | cons b bs ih =>
    rw [Registry.registerFrom, List.foldl_cons]
    split
    · rename_i repeated
      rw [books.enter_old (old _ repeated)]
      exact ih books old
    · split
      · rename_i present
        rw [books.enter_old present]
        apply ih books
        intro key mem
        cases mem with
        | head => exact present
        | tail _ mem => exact old key mem
      · rename_i new
        apply ih (books.add new)
        intro key mem
        cases mem with
        | head => exact Registry.holds_add.2 (.inr rfl)
        | tail _ mem => exact Registry.holds_add.2 (.inl (old key mem))

/-- The bindings of a target name a subscriber in its list just where they name its subscription. -/
lemma named_eq (bs : List (Binding H)) (s : Subscriber H) :
    Registry.named target bs s.eventType s = Ledger.names target bs s := by
  unfold Registry.named Ledger.names
  congr 1
  funext b
  rw [Bool.eq_iff_iff]
  simp only [Subscriber.isFor, Bool.and_eq_true, beq_iff_eq, Subscriber.subscription,
    Prod.mk.injEq, decide_eq_true_eq]
  constructor
  · rintro ⟨type, id, handler⟩
    exact ⟨type.symm, id, handler⟩
  · rintro ⟨type, id, handler⟩
    exact ⟨type.symm, id, handler⟩

/-- Taking away those who are named changes the lists only. -/
lemma foldl_removeNamed (r : Registry H) (target : Target) (bs : List (Binding H))
    (ts : List EventType) :
    ∃ lists, ts.foldl (Registry.removeNamed target bs) r = { r with lists := lists } := by
  induction ts generalizing r with
  | nil => exact ⟨r.lists, rfl⟩
  | cons t ts ih =>
    obtain ⟨lists, same⟩ := ih (Registry.removeNamed target bs r t)
    refine ⟨lists, ?_⟩
    rw [List.foldl_cons, same]
    unfold Registry.removeNamed
    split <;> rfl

/-- The subscribers for a type once those of some types that are named have been removed. -/
lemma subscribersFor_removeNamed (r : Registry H) (target : Target) (bs : List (Binding H))
    (ts : List EventType) (t : EventType) :
    (ts.foldl (Registry.removeNamed target bs) r).subscribersFor t =
      if t ∈ ts then (r.subscribersFor t).filter (fun s => !Registry.named target bs t s)
      else r.subscribersFor t := by
  induction ts generalizing r with
  | nil => simp
  | cons u ts ih =>
    have one : (Registry.removeNamed target bs r u).subscribersFor t =
        if t = u then (r.subscribersFor t).filter (fun s => !Registry.named target bs t s)
        else r.subscribersFor t := by
      unfold Registry.removeNamed
      split
      · rename_i none
        rw [Registry.subscribersFor, Table.get?_erase]
        by_cases same : t = u
        · subst same
          simp [none]
        · simp [same, Ne.symm same, Registry.subscribersFor]
      · rw [Registry.subscribersFor, Table.get?_set]
        by_cases same : t = u
        · subst same
          simp
        · simp [same, Ne.symm same, Registry.subscribersFor]
    rw [List.foldl_cons, ih, one]
    by_cases same : t = u
    · subst same
      simp
    · simp [same]

/-- No type is missing if each has a live subscription that is named. -/
lemma missingTypes_eq_nil (books : Books h executor desk r l) (target : Target)
    (bs : List (Binding H)) :
    r.missingTypes target bs = [] ↔
      ∀ b ∈ bs, ∃ s ∈ l.live, s.eventType = b.eventType ∧ Ledger.names target bs s := by
  have one (t : EventType) : (r.subscribersFor t).any (Registry.named target bs t) ↔
      ∃ s ∈ l.live, s.eventType = t ∧ Ledger.names target bs s := by
    rw [books.lists, List.any_eq_true]
    constructor
    · rintro ⟨s, mem, named⟩
      obtain ⟨live, type⟩ := List.mem_filter.1 mem
      obtain rfl := of_decide_eq_true type
      exact ⟨s, live, rfl, by rwa [named_eq] at named⟩
    · rintro ⟨s, mem, rfl, named⟩
      exact ⟨s, List.mem_filter.2 ⟨mem, decide_eq_true rfl⟩, by rwa [named_eq]⟩
  rw [Registry.missingTypes, List.filter_eq_nil_iff]
  constructor
  · intro all b mem
    apply (one b.eventType).1
    have declared : b.eventType ∈ Registry.declaredTypes bs :=
      Hierarchy.mem_fresh.2 ⟨List.mem_map_of_mem mem, List.not_mem_nil⟩
    simpa using all _ declared
  · intro all t declared
    obtain ⟨b, mem, rfl⟩ := List.mem_map.1 (Hierarchy.mem_fresh.1 declared).1
    simpa using (one b.eventType).2 (all b mem)

/-- An unregistration strikes those who are named. -/
lemma unregister (books : Books h executor desk r l) (bs : List (Binding H)) :
    Books h executor desk (r.call h (.unregister target bs)) (l.strike target bs) := by
  have missing := books.missingTypes_eq_nil target bs
  rw [Registry.call, Registry.unregister, Ledger.strike]
  cases none : r.missingTypes target bs with
  | cons t ts =>
    rw [if_neg]
    · exact books
    · rw [← missing, none]
      exact List.cons_ne_nil t ts
  | nil =>
    rw [if_pos (missing.1 none)]
    obtain ⟨lists, same⟩ := foldl_removeNamed r target bs (Registry.declaredTypes bs)
    have kept := subscribersFor_removeNamed r target bs (Registry.declaredTypes bs)
    rw [same] at kept ⊢
    refine ⟨books.executor_eq, books.desk_eq, books.serial, ?_, books.closures, ?_⟩
    · intro t
      change _ = (l.live.filter (fun s => !Ledger.names target bs s)).filter (·.eventType = t)
      rw [kept, books.lists]
      split
      · rw [List.filter_filter, List.filter_filter]
        apply List.filter_congr
        intro s mem
        by_cases type : s.eventType = t
        · subst type
          rw [named_eq, Bool.and_comm]
        · simp [type]
      · -- Of a type that the bindings do not declare they name nothing.
        rename_i undeclared
        rw [List.filter_filter]
        apply List.filter_congr
        intro s mem
        by_cases type : s.eventType = t
        · subst type
          rw [Ledger.not_names undeclared, Bool.not_false, Bool.and_true]
        · simp [type]
    · exact books.distinct.sublist (List.filter_sublist.map _)

/-- Every call keeps the books. -/
lemma call (books : Books h executor desk r l) (c : Call H) :
    Books h executor desk (r.call h c) (l.call executor desk c) := by
  cases c with
  | register target bs => exact books.registerFrom bs (List.forall_mem_nil _)
  | unregister target bs => exact books.unregister bs
  | resolve t =>
    rw [Registry.call, Registry.remember]
    split
    · exact books
    · refine ⟨books.executor_eq, books.desk_eq, books.serial, books.lists, ?_, books.distinct⟩
      intro u c found
      rw [Table.get?_set] at found
      split at found
      · rename_i same
        cases found
        rw [same]
      · exact books.closures u c found

/-- After any history of calls the registry agrees with the ledger. -/
lemma after (h : Hierarchy) (executor : Executor) (desk : FailureDesk H) (calls : List (Call H)) :
    Books h executor desk (Registry.after h executor desk calls)
      (Ledger.after executor desk calls) := by
  -- The calls are taken one by one, from any registry and ledger that agree.
  have go {r : Registry H} {l : Ledger H} (books : Books h executor desk r l) :
      Books h executor desk (calls.foldl (Registry.call h) r)
        (calls.foldl (Ledger.call executor desk) l) := by
    induction calls generalizing r l with
    | nil => exact books
    | cons c calls ih => exact ih (books.call c)
  apply go
  exact ⟨rfl, rfl, rfl, fun _ => rfl, by rintro t c ⟨⟩, List.nodup_nil⟩

/-- Resolving a type lists the live subscriptions for each type of its closure. -/
lemma resolve_eq (books : Books h executor desk r l) (t : EventType) :
    r.resolve h t = (h.closure t).flatMap (fun u => l.live.filter (·.eventType = u)) := by
  have closure : r.closureOf h t = h.closure t := by
    rw [Registry.closureOf]
    cases found : r.closures.get? t with
    | none => rfl
    | some c => exact books.closures t c found
  rw [Registry.resolve, closure]
  congr 1
  funext u
  exact books.lists u

end Books

/-- If each type has a list of different subscribers declared for it, the lists of different types
put together name no subscription twice. -/
lemma subscription_nodup_of_typed {lists : EventType → List (Subscriber H)} {ts : List EventType}
    (typed : ∀ t, ∀ s ∈ lists t, s.eventType = t)
    (distinct : ∀ t, ((lists t).map (·.subscription)).Nodup) (nodup : ts.Nodup) :
    ((ts.flatMap lists).map (·.subscription)).Nodup := by
  rw [List.map_flatMap, List.nodup_flatMap]
  refine ⟨fun t _ => distinct t, nodup.imp ?_⟩
  intro t u other key mem mem'
  obtain ⟨s, listed, rfl⟩ := List.mem_map.1 mem
  obtain ⟨s', listed', same⟩ := List.mem_map.1 mem'
  -- The same subscription would be declared for both types.
  apply other
  rw [← typed t s listed, ← typed u s' listed']
  exact (congrArg (·.1) same).symm

/-- Subscriptions of a list that are grouped by declared types without a repetition are not
repeated. -/
lemma subscription_nodup {live : List (Subscriber H)} {ts : List EventType}
    (distinct : (live.map (·.subscription)).Nodup) (nodup : ts.Nodup) :
    ((ts.flatMap fun u => live.filter (·.eventType = u)).map (·.subscription)).Nodup := by
  apply subscription_nodup_of_typed _ _ nodup
  · intro u s mem
    exact of_decide_eq_true (List.mem_filter.1 mem).2
  · intro u
    exact distinct.sublist (List.filter_sublist.map _)

/-- After any history of calls on a bus, resolving a type lists, for each type of its closure in
turn, the live subscriptions declared for that type, the oldest first. It lists the live
subscriptions for the type, the types reached from it and the universal type, no other, and none of
them twice. -/
theorem resolve_lists_live (h : Hierarchy) (executor : Executor) (desk : FailureDesk H)
    (calls : List (Call H)) (t : EventType) :
    (Registry.after h executor desk calls).resolve h t =
      (h.closure t).flatMap (fun u =>
        (Ledger.after executor desk calls).live.filter (·.eventType = u)) ∧
    (∀ s, s ∈ (Registry.after h executor desk calls).resolve h t ↔
      s ∈ (Ledger.after executor desk calls).live ∧
        (s.eventType = t ∨ Relation.TransGen h.Declares t s.eventType ∨
          s.eventType = .anyEvent)) ∧
    (((Registry.after h executor desk calls).resolve h t).map (·.subscription)).Nodup := by
  have books := Books.after h executor desk calls
  rw [books.resolve_eq t]
  refine ⟨rfl, ?_, subscription_nodup books.distinct Hierarchy.closure_nodup⟩
  intro s
  rw [List.mem_flatMap]
  constructor
  · rintro ⟨u, mem, listed⟩
    obtain ⟨live, type⟩ := List.mem_filter.1 listed
    obtain rfl := of_decide_eq_true type
    exact ⟨live, Hierarchy.mem_closure.1 mem⟩
  · rintro ⟨live, type⟩
    exact ⟨s.eventType, Hierarchy.mem_closure.2 type,
      List.mem_filter.2 ⟨live, decide_eq_true rfl⟩⟩

end EventBus
