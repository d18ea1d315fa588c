import EventBus.Proofs.Registry.Removal

/-!
# Registering and taking back

A registration only adds: to the lists of the types it finds, at their ends, and to the keys, at
their end (`Growth`). It adds one subscriber for each key of the bindings that is not held yet, so
that taking back bindings none of which was there before leads back to the same map
(`unregister_register`).
-/

namespace EventBus

variable {H : Type}

namespace Registry

variable {r r' r'' : Registry H} {target : Target} {bs : List (Binding H)}

namespace Tidy

/-- What is found under a type is its list, unless nobody is there. -/
lemma get?_eq (tidy : r.Tidy) (t : EventType) :
    r.lists.get? t = if r.subscribersFor t = [] then none else some (r.subscribersFor t) := by
  have filled := tidy.filled t
  rw [subscribersFor]
  cases found : r.lists.get? t with
  | none => rfl
  | some xs =>
    rw [found] at filled
    rw [if_neg]
    · rfl
    · rintro none
      exact filled (congrArg some none)

/-- Tidy maps with the same keys and the same list for each type are equal. -/
lemma lists_eq (tidy : r.Tidy) (tidy' : r'.Tidy) (keys : r'.lists.keys = r.lists.keys)
    (same : ∀ t, r'.subscribersFor t = r.subscribersFor t) : r'.lists = r.lists := by
  apply Table.ext_keys tidy.once keys
  intro t
  rw [tidy.get?_eq, tidy'.get?_eq, same]

end Tidy

/-- What a target has once a list has been registered, of which `declared` had been seen. -/
lemma holds_registerFrom {declared : List (EventType × String)} {key : EventType × String} :
    (registerFrom target declared r bs).registry.holds target key ↔
      r.holds target key ∨ key ∈ bs.map (·.key) ∧ key ∉ declared := by
  induction bs generalizing r declared with
  | nil => simp [registerFrom]
  | cons b bs ih =>
    rw [registerFrom, List.map_cons, List.mem_cons]
    split
    · rename_i repeated
      rw [ih]
      grind
    · split
      · rename_i present
        rw [ih, List.mem_cons]
        grind
      · rw [ih, holds_add, List.mem_cons]
        grind

/-- The number that a registration returns is that of the keys it comes upon first and that the
target does not have yet. -/
lemma added_registerFrom {declared : List (EventType × String)} :
    (registerFrom target declared r bs).added =
      ((bs.map (·.key)).toFinset.filter
        (fun key => key ∉ declared ∧ ¬r.holds target key)).card := by
  induction bs generalizing r declared with
  | nil => rfl
  | cons b bs ih =>
    rw [registerFrom, List.map_cons, List.toFinset_cons, Finset.filter_insert]
    split
    · rename_i repeated
      rw [if_neg (fun new => new.1 repeated)]
      exact ih
    · split
      · rename_i present
        rw [if_neg (fun new => new.2 present)]
        dsimp only
        rw [ih]
        congr 1
        apply Finset.filter_congr
        intro key _
        grind
      · rename_i new absent
        rw [if_pos ⟨new, absent⟩]
        dsimp only
        rw [ih, ← Finset.card_insert_of_notMem (a := b.key)]
        · congr 1
          ext key
          rw [Finset.mem_insert, Finset.mem_insert, Finset.mem_filter, Finset.mem_filter, holds_add,
            List.mem_cons]
          grind
        · intro mem
          exact (Finset.mem_filter.1 mem).2.1 List.mem_cons_self

/-- `r'` is `r` with more subscribers, whom the bindings of a target name. -/
structure Growth (target : Target) (bs : List (Binding H)) (r r' : Registry H) : Prop where
  lists : ∀ t, ∃ new, r'.subscribersFor t = r.subscribersFor t ++ new ∧
    ∀ s ∈ new, Ledger.names target bs s
  keys : r.lists.keys <+: r'.lists.keys
  rest : r' = { r with lists := r'.lists, serial := r'.serial }

namespace Growth

/-- No registration is no growth. -/
lemma refl (target : Target) (bs : List (Binding H)) (r : Registry H) : Growth target bs r r :=
  ⟨fun _ => ⟨[], (List.append_nil _).symm, List.forall_mem_nil _⟩, List.prefix_rfl, rfl⟩

/-- One growth may follow another. -/
lemma trans (growth : Growth target bs r r') (growth' : Growth target bs r' r'') :
    Growth target bs r r'' := by
  refine ⟨?_, growth.keys.trans growth'.keys, ?_⟩
  · intro t
    obtain ⟨new, same, named⟩ := growth.lists t
    obtain ⟨new', same', named'⟩ := growth'.lists t
    refine ⟨new ++ new', ?_, ?_⟩
    · rw [same', same, List.append_assoc]
    · intro s mem
      obtain mem | mem := List.mem_append.1 mem
      · exact named s mem
      · exact named' s mem
  · rw [growth'.rest, growth.rest]

/-- One more subscriber is a growth. -/
lemma add {b : Binding H} (mem : b ∈ bs) (r : Registry H) :
    Growth target bs r (r.add target b) := by
  refine ⟨?_, ?_, rfl⟩
  · intro t
    refine ⟨_, subscribersFor_add r target b t, ?_⟩
    intro s new
    split at new
    · obtain rfl := List.mem_singleton.1 new
      exact List.any_eq_true.2 ⟨b, mem, decide_eq_true rfl⟩
    · cases new
  · show r.lists.keys <+: (r.lists.set _ _).keys
    rw [Table.keys_set]
    split
    · exact List.prefix_rfl
    · exact List.prefix_append _ _

/-- A registration is a growth. -/
lemma registerFrom {all : List (Binding H)} (sub : bs ⊆ all) (r : Registry H)
    (declared : List (EventType × String)) :
    Growth target all r (Registry.registerFrom target declared r bs).registry :=
  registerFrom_keeps (P := Growth target all r)
    (fun r' _ mem _ growth => growth.trans (add (sub mem) r')) (refl target all r) declared

/-- Taking back what has been added leaves the map as it was, if nobody was named before. -/
lemma removal (growth : Growth target bs r r') (removal : Removal target bs r' r'')
    (tidy : r.Tidy) (tidy' : r'.Tidy) (tidy'' : r''.Tidy)
    (fresh : ∀ t, ∀ s ∈ r.subscribersFor t, Ledger.names target bs s = false) :
    r'' = { r with serial := r'.serial } := by
  have same (t : EventType) : r''.subscribersFor t = r.subscribersFor t := by
    obtain ⟨new, grown, named⟩ := growth.lists t
    have stays : (r.subscribersFor t).filter (fun s => !Ledger.names target bs s) =
        r.subscribersFor t := by
      rw [List.filter_eq_self]
      intro s mem
      rw [fresh t s mem]
      rfl
    have goes : new.filter (fun s => !Ledger.names target bs s) = [] := by
      rw [List.filter_eq_nil_iff]
      intro s mem
      rw [named s mem]
      exact Bool.false_ne_true
    rw [removal.lists, grown, List.filter_append, stays, goes, List.append_nil]
  have keys : r''.lists.keys = r.lists.keys := by
    obtain ⟨more, grown⟩ := growth.keys
    have once := tidy'.once
    rw [← grown, List.nodup_append'] at once
    rw [removal.keys, ← grown, List.filter_append, List.filter_eq_self.2, List.filter_eq_nil_iff.2,
      List.append_nil]
    · -- Under a key that is new there was nobody, and there is nobody again.
      intro t mem
      rw [same, decide_eq_true_iff, ← tidy.mem_keys]
      intro old
      exact once.2.2 old mem
    · intro t mem
      rw [same]
      exact decide_eq_true ((tidy.mem_keys t).1 mem)
  rw [removal.rest, growth.rest, tidy.lists_eq tidy'' keys same]

end Growth

/-- The number of subscribers ever added goes up by what is added. -/
lemma serial_registerFrom {declared : List (EventType × String)} :
    (registerFrom target declared r bs).registry.serial =
      r.serial + (registerFrom target declared r bs).added := by
  induction bs generalizing r declared with
  | nil => rfl
  | cons b bs ih =>
    rw [registerFrom]
    split
    · exact ih
    · split
      · exact ih
      · dsimp only
        rw [ih, Registry.add]
        dsimp only
        omega

end Registry

open Registry

/-- In a registry that came about by calls, let a target register bindings that it has none of yet.
If the same bindings are then taken back, the map is what it was, with the same subscribers for the
same types in the same order; only the number of subscribers ever added has gone up. Both calls
return the number of the pairs of a type and a handler that the bindings declare. -/
theorem unregister_register {r : Registry H} (arises : r.Arises) (target : Target)
    (bs : List (Binding H)) (fresh : ∀ b ∈ bs, ¬r.holds target b.key) :
    let n := (bs.map (·.key)).toFinset.card
    (r.register target bs).added = n ∧
    (r.register target bs).registry.unregister target bs =
      .ok ({ r with serial := r.serial + n }, n) := by
  intro n
  have added : (r.register target bs).added = n := by
    rw [register, added_registerFrom, Finset.filter_true_of_mem]
    intro key mem
    obtain ⟨b, declared, rfl⟩ := List.mem_map.1 (List.mem_toFinset.1 mem)
    exact ⟨List.not_mem_nil, fresh b declared⟩
  refine ⟨added, ?_⟩
  have tidy := arises.tidy
  have arises' : (r.register target bs).registry.Arises :=
    arises.call .empty (.register target bs)
  have growth : Growth target bs r (r.register target bs).registry :=
    .registerFrom (List.Subset.refl bs) r []
  have count : (r.register target bs).registry.count = r.count + n := by
    rw [← added]
    exact tidy.count_registerFrom
  have serial : (r.register target bs).registry.serial = r.serial + n := by
    rw [← added]
    exact serial_registerFrom
  have unnamed : ∀ t, ∀ s ∈ r.subscribersFor t, Ledger.names target bs s = false := by
    intro t s mem
    rw [← arises.orderly.named_eq mem, named, Bool.eq_false_iff]
    intro some
    obtain ⟨b, declared, isFor⟩ := List.any_eq_true.1 some
    obtain ⟨type, isFor⟩ := Bool.and_eq_true_iff.1 isFor
    apply fresh b declared
    rw [holds, Binding.key, eq_of_beq type]
    exact List.any_eq_true.2 ⟨s, mem, isFor⟩
  have held : ∀ b ∈ bs, (r.register target bs).registry.holds target b.key := by
    intro b mem
    exact holds_registerFrom.2 (.inr ⟨List.mem_map_of_mem mem, List.not_mem_nil⟩)
  generalize (r.register target bs).registry = r' at arises' growth count serial held
  have found : r'.missingTypes target bs = [] := by
    rw [List.eq_nil_iff_forall_not_mem]
    intro t missing
    obtain ⟨declared, lacks⟩ := mem_missingTypes.1 missing
    obtain ⟨b, mem, rfl⟩ := List.mem_map.1 declared
    exact lacks b mem rfl (held b mem)
  have removal := arises'.removal target bs
  have tidy' := arises'.tidy
  have tidy'' := tidy'.foldl_removeNamed target bs (declaredTypes bs)
  have back := growth.removal removal tidy tidy' tidy'' unnamed
  have removed := tidy'.count_removeNamed target bs
  rw [back, count] at removed
  rw [unregister_eq_ok]
  refine ⟨found, ?_, ?_⟩
  · -- The map is what it was, so that it counts as many.
    have same : Registry.count { r with serial := r'.serial } = r.count := rfl
    omega
  · rw [back, serial]

namespace Repeats

open Catalogue

/-- Bindings that the listener has none of after `calls`: a name twice for a type that is in use, the
same name for a type that is not, and another name for that. -/
def more : List (Binding String) :=
  [binding billable.type "on_lost" "first", binding auditable.type "on_lost" "second",
    binding billable.type "on_lost" "third", binding auditable.type "on_found" "fourth"]

end Repeats

/-- Three of the four bindings are added, and a key with them; taking them back leads back to the
registry there was. -/
theorem repeats_undone :
    let r := Registry.after .empty .direct Repeats.failures Repeats.calls
    let r' := (r.register Repeats.listener Repeats.more).registry
    (∀ b ∈ Repeats.more, ¬r.holds Repeats.listener b.key) ∧
    (r.register Repeats.listener Repeats.more).added = 3 ∧
    r'.lists.keys = [Catalogue.billable.type, Catalogue.auditable.type] ∧
    r'.unregister Repeats.listener Repeats.more = .ok ({ r with serial := r.serial + 3 }, 3) := by
  intro r r'
  have arises : r.Arises := .after .empty .direct Repeats.failures Repeats.calls
  have fresh : ∀ b ∈ Repeats.more, ¬r.holds Repeats.listener b.key := by decide +kernel
  have card : (Repeats.more.map (·.key)).toFinset.card = 3 := by decide +kernel
  obtain ⟨added, back⟩ := unregister_register arises Repeats.listener Repeats.more fresh
  rw [card] at added back
  exact ⟨fresh, added, by decide +kernel, back⟩

end EventBus
