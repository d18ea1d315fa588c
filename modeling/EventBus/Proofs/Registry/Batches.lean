import EventBus.Proofs.Registry.Undoing

/-!
# Registering piece by piece

Within one registration a binding is dropped if its key has been declared before, and across
registrations if the target has the handler. The two come to the same, since what has been declared
is held by then: a registration enters its bindings one after the other (`registerFrom_eq`), and
nothing is lost by cutting a list in two or by registering each binding by itself
(`register_append`).
-/

namespace EventBus

variable {H : Type}

namespace Registry

variable {r : Registry H} {target : Target} {bs bs' : List (Binding H)}

/-- A binding by itself is added, unless the target has its handler for the type. -/
def enter (target : Target) (r : Registry H) (b : Binding H) : Registry H :=
  if r.holds target b.key then r else r.add target b

/-- Each of some bindings is registered by itself; with the registry comes the number of those that
were added. -/
def registerEach (r : Registry H) (target : Target) (bs : List (Binding H)) : Registry H × Nat :=
  bs.foldl (fun so b => ((so.1.register target [b]).registry,
    so.2 + (so.1.register target [b]).added)) (r, 0)

/-- A binding that is there already is not entered. -/
lemma enter_of_holds {b : Binding H} (present : r.holds target b.key) : r.enter target b = r := by
  rw [enter, if_pos present]

/-- A registration enters its bindings one by one, if the target has all that was declared. -/
lemma registerFrom_eq {declared : List (EventType × String)}
    (held : ∀ key ∈ declared, r.holds target key) :
    (registerFrom target declared r bs).registry = bs.foldl (enter target) r := by
  induction bs generalizing r declared with
  | nil => rfl
  | cons b bs ih =>
    rw [registerFrom, List.foldl_cons]
    split
    · rename_i repeated
      rw [enter_of_holds (held _ repeated)]
      exact ih held
    · split
      · rename_i present
        rw [enter_of_holds present]
        exact ih (List.forall_mem_cons.2 ⟨present, held⟩)
      · rename_i absent
        rw [enter, if_neg absent]
        apply ih
        intro key mem
        rw [holds_add]
        cases mem with
        | head => exact .inr rfl
        | tail _ mem => exact .inl (held key mem)

/-- A registration enters binding by binding. -/
lemma register_eq (r : Registry H) (target : Target) (bs : List (Binding H)) :
    (r.register target bs).registry = bs.foldl (enter target) r :=
  registerFrom_eq (List.forall_mem_nil _)

/-- How many bindings a registration adds can be told by the numbers that subscribers get. -/
lemma serial_register (r : Registry H) (target : Target) (bs : List (Binding H)) :
    (r.register target bs).registry.serial = r.serial + (r.register target bs).added :=
  serial_registerFrom

/-- Two lists may be registered one after the other. -/
lemma register_append_registry (r : Registry H) (target : Target) (bs bs' : List (Binding H)) :
    (r.register target (bs ++ bs')).registry =
      ((r.register target bs).registry.register target bs').registry := by
  rw [register_eq, register_eq, register_eq, List.foldl_append]

/-- The numbers that they return are added up. -/
lemma register_append_added (r : Registry H) (target : Target) (bs bs' : List (Binding H)) :
    (r.register target (bs ++ bs')).added =
      (r.register target bs).added +
        ((r.register target bs).registry.register target bs').added := by
  have whole := r.serial_register target (bs ++ bs')
  have first := r.serial_register target bs
  have second := (r.register target bs).registry.serial_register target bs'
  rw [register_append_registry] at whole
  omega

/-- The bindings may also be registered one by one. -/
lemma registerEach_eq (r : Registry H) (target : Target) (bs : List (Binding H)) :
    r.registerEach target bs = ((r.register target bs).registry, (r.register target bs).added) := by
  induction bs using List.reverseRecOn with
  | nil => rfl
  | append_singleton bs b ih =>
    have step : r.registerEach target (bs ++ [b]) =
        (((r.registerEach target bs).1.register target [b]).registry,
          (r.registerEach target bs).2 +
            ((r.registerEach target bs).1.register target [b]).added) := by
      rw [registerEach, List.foldl_append]
      rfl
    rw [step, ih, register_append_registry, register_append_added]

/-- Bindings whose handlers the target has already make no difference. -/
lemma register_held (held : ∀ b ∈ bs, r.holds target b.key) :
    (r.register target bs).registry = r ∧ (r.register target bs).added = 0 := by
  have same : (r.register target bs).registry = r := by
    rw [register_eq]
    induction bs with
    | nil => rfl
    | cons b bs ih =>
      obtain ⟨present, held⟩ := List.forall_mem_cons.1 held
      rw [List.foldl_cons, enter_of_holds present]
      exact ih held
  refine ⟨same, ?_⟩
  have serial := r.serial_register target bs
  rw [same] at serial
  omega

end Registry

open Registry

/-- Whatever a registry is like, to register a list of bindings of a target and then another one is
to register both as one list: the registry is the same, with every list and every subscriber, and
the numbers that are returned add up. So a list may as well be registered binding by binding. And
to register, right after a list, bindings that declare no other keys, be it the same list once more
or one with other functions, executors or marks under the same names, adds nothing and leaves the
registry as it is. -/
theorem register_append (r : Registry H) (target : Target) (bs bs' : List (Binding H)) :
    (r.register target (bs ++ bs')).registry =
      ((r.register target bs).registry.register target bs').registry ∧
    (r.register target (bs ++ bs')).added =
      (r.register target bs).added +
        ((r.register target bs).registry.register target bs').added ∧
    r.registerEach target bs =
      ((r.register target bs).registry, (r.register target bs).added) ∧
    ∀ again : List (Binding H), (∀ b ∈ again, b.key ∈ bs.map (·.key)) →
      ((r.register target bs).registry.register target again).registry =
        (r.register target bs).registry ∧
      ((r.register target bs).registry.register target again).added = 0 := by
  refine ⟨register_append_registry r target bs bs', register_append_added r target bs bs',
    registerEach_eq r target bs, ?_⟩
  intro again declared
  apply register_held
  intro b mem
  exact holds_registerFrom.2 (.inr ⟨declared b mem, List.not_mem_nil⟩)

namespace Repeats

open Catalogue

/-- The handlers of `more` under their names, but with other functions, an executor of their own and
the mark for concurrent calls. -/
def altered : List (Binding String) :=
  more.map fun b => { b with code := "other", executor := some .pool, concurrent := true }

end Repeats

/-- A name that is declared twice for a type counts once, be it in one list or in two, and other
handlers under the same names change nothing. -/
theorem repeats_append :
    let r := Registry.after .empty .direct Repeats.failures Repeats.calls
    let r' := (r.register Repeats.listener Repeats.more).registry
    (r.register Repeats.listener (Repeats.more ++ Repeats.more)).added = 3 + 0 ∧
    (r.register Repeats.listener (Repeats.more ++ Repeats.more)).registry = r' ∧
    (∀ b ∈ Repeats.altered, b.key ∈ Repeats.more.map (·.key)) ∧
    (r'.register Repeats.listener Repeats.altered).registry = r' ∧
    (r'.register Repeats.listener Repeats.altered).added = 0 := by
  intro r r'
  obtain ⟨whole, added, _, again⟩ :=
    register_append r Repeats.listener Repeats.more Repeats.more
  have three : (r.register Repeats.listener Repeats.more).added = 3 := by decide +kernel
  have keys : ∀ b ∈ Repeats.altered, b.key ∈ Repeats.more.map (·.key) := by decide +kernel
  obtain ⟨same, none⟩ := again Repeats.more fun b mem => List.mem_map_of_mem mem
  rw [three, none] at added
  exact ⟨added, whole.trans same, keys, again Repeats.altered keys⟩

end EventBus
