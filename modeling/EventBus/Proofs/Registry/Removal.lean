import EventBus.Proofs.Registry.Census
import EventBus.Proofs.Routing.Registries

/-!
# What an unregistration removes

An unregistration is all or nothing by type: it fails if the registry `Lacks`, for one of the
declared types, every handler that is declared for it. If it does not fail, what it does is a
`Removal`: whoever is named by type, target and handler is gone, everybody else stays where it was,
and a type is no longer a key once nobody is left under it (`unregister_removes`). That not all of
the handlers declared for a type are there makes no difference.
-/

namespace EventBus

variable {H σ ε : Type}

namespace Registry

variable {r r' r'' : Registry H} {target : Target} {bs : List (Binding H)}

/-- Of the handlers that the bindings of a target declare for a type, a registry has none. -/
def Lacks (r : Registry H) (target : Target) (bs : List (Binding H)) (t : EventType) : Prop :=
  ∀ b ∈ bs, b.eventType = t → ¬r.holds target b.key

/-- A type is missing if it is declared and all of its handlers are lacking. -/
lemma mem_missingTypes {t : EventType} :
    t ∈ r.missingTypes target bs ↔ t ∈ bs.map (·.eventType) ∧ r.Lacks target bs t := by
  have declared : t ∈ declaredTypes bs ↔ t ∈ bs.map (·.eventType) := by
    rw [declaredTypes, Hierarchy.mem_fresh]
    exact and_iff_left List.not_mem_nil
  rw [missingTypes, List.mem_filter, declared]
  apply and_congr_right
  intro _
  rw [Bool.not_eq_true', Bool.eq_false_iff, ne_eq, List.any_eq_true]
  constructor
  · intro none b mem same held
    subst same
    obtain ⟨s, listed, isFor⟩ := List.any_eq_true.1 held
    apply none
    refine ⟨s, listed, List.any_eq_true.2 ⟨b, mem, ?_⟩⟩
    simpa [Binding.key] using isFor
  · rintro lacks ⟨s, listed, named⟩
    obtain ⟨b, mem, same⟩ := List.any_eq_true.1 named
    obtain ⟨same, isFor⟩ := Bool.and_eq_true_iff.1 same
    obtain rfl := eq_of_beq same
    exact lacks b mem rfl (List.any_eq_true.2 ⟨s, listed, isFor⟩)

/-- `r'` is `r` without the subscribers that the bindings of a target name. -/
structure Removal (target : Target) (bs : List (Binding H)) (r r' : Registry H) : Prop where
  lists : ∀ t, r'.subscribersFor t =
    (r.subscribersFor t).filter (fun s => !Ledger.names target bs s)
  keys : r'.lists.keys = r.lists.keys.filter (fun t => r'.subscribersFor t ≠ [])
  rest : r' = { r with lists := r'.lists }

/-- A registry that came about by calls is tidy. -/
lemma Arises.tidy (arises : r.Arises) : r.Tidy := by
  induction arises with
  | empty executor desk => exact ⟨List.nodup_nil, by rintro t ⟨⟩⟩
  | call h c _ ih => exact ih.call h c

/-- The registry of a bus after a history of calls comes about by calls. -/
lemma Arises.after (h : Hierarchy) (executor : Executor) (desk : FailureDesk H)
    (calls : List (Call H)) : (Registry.after h executor desk calls).Arises := by
  induction calls using List.reverseRecOn with
  | nil => exact .empty executor desk
  | append_singleton calls c ih =>
    rw [Registry.after, List.foldl_append]
    exact ih.call h c

/-- By type, the bindings of a target name whom they name by subscription. -/
lemma Orderly.named_eq (orderly : r.Orderly) {t : EventType} {s : Subscriber H}
    (mem : s ∈ r.subscribersFor t) : named target bs t s = Ledger.names target bs s := by
  rw [← orderly.typed t s mem]
  exact Books.named_eq bs s

/-- Nobody is named under a type that the bindings do not declare. -/
lemma Orderly.undeclared (orderly : r.Orderly) {t : EventType} (new : t ∉ declaredTypes bs)
    {s : Subscriber H} (mem : s ∈ r.subscribersFor t) : Ledger.names target bs s = false := by
  apply Ledger.not_names
  rwa [orderly.typed t s mem]

namespace Tidy

/-- If a map loses some of its keys, those are left that somebody is under. -/
lemma keys_eq (tidy : r.Tidy) (tidy' : r'.Tidy) (fewer : r'.lists.keys.Sublist r.lists.keys) :
    r'.lists.keys = r.lists.keys.filter (fun t => r'.subscribersFor t ≠ []) := by
  have all : r'.lists.keys.filter (fun t => r'.subscribersFor t ≠ []) = r'.lists.keys := by
    rw [List.filter_eq_self]
    intro t mem
    exact decide_eq_true ((tidy'.mem_keys t).1 mem)
  have sub := fewer.filter (fun t => decide (r'.subscribersFor t ≠ []))
  rw [all] at sub
  apply sub.eq_of_length
  apply List.Perm.length_eq
  rw [List.perm_ext_iff_of_nodup tidy'.once (tidy.once.filter _)]
  intro t
  constructor
  · intro mem
    exact sub.subset mem
  · intro mem
    exact (tidy'.mem_keys t).2 (of_decide_eq_true (List.mem_filter.1 mem).2)

/-- Taking away those who are named adds no key. -/
lemma keys_foldl_removeNamed (tidy : r.Tidy) (target : Target) (bs : List (Binding H))
    (ts : List EventType) :
    (ts.foldl (removeNamed target bs) r).lists.keys.Sublist r.lists.keys := by
  induction ts generalizing r with
  | nil => exact List.Sublist.refl _
  | cons t ts ih =>
    have tidy' : (removeNamed target bs r t).Tidy := tidy.foldl_removeNamed target bs [t]
    apply (ih tidy').trans
    rw [removeNamed]
    split
    · show (r.lists.erase t).keys.Sublist _
      rw [Table.keys_erase]
      exact List.filter_sublist
    · -- Somebody is left under the type, so that it has been a key before.
      rename_i some
      have old : t ∈ r.lists.keys := by
        rw [tidy.mem_keys]
        intro none
        rw [none] at some
        exact some rfl
      show (r.lists.set t _).keys.Sublist _
      rw [Table.keys_set, if_pos old]

end Tidy

/-- Removing the named subscribers of all declared types is a removal. -/
lemma Arises.removal (arises : r.Arises) (target : Target) (bs : List (Binding H)) :
    Removal target bs r ((declaredTypes bs).foldl (removeNamed target bs) r) := by
  have tidy := arises.tidy
  refine ⟨?_, ?_, ?_⟩
  · intro t
    rw [Books.subscribersFor_removeNamed]
    split
    · apply List.filter_congr
      intro s mem
      rw [arises.orderly.named_eq mem]
    · rename_i new
      symm
      rw [List.filter_eq_self]
      intro s mem
      rw [arises.orderly.undeclared new mem]
      rfl
  · exact tidy.keys_eq (tidy.foldl_removeNamed target bs _)
      (tidy.keys_foldl_removeNamed target bs _)
  · obtain ⟨lists, same⟩ := Books.foldl_removeNamed r target bs (declaredTypes bs)
    rw [same]

/-- What is refused for lack of some types may be refused for each of them. -/
lemma mem_errors (some : r.missingTypes target bs ≠ []) {e : BusError} :
    e ∈ (Refusal.of target bs (r.missingTypes target bs)).errors ↔
      ∃ t ∈ r.missingTypes target bs,
        e = .notRegistered (target.className ++ " has no subscriber registered for " ++ t.name)
          (Option.some "SubscriberRegistry::unregister") := by
  -- Without bindings no type is declared, so that none is missing.
  have declares : bs ≠ [] := by
    rintro rfl
    exact some rfl
  have className : (Refusal.of target bs (r.missingTypes target bs)).className =
      target.className := by
    rw [Refusal.of, List.isEmpty_eq_false_iff.2 declares]
    rfl
  rw [Refusal.errors, List.mem_map]
  apply exists_congr
  intro t
  rw [Refusal.naming, className]
  exact and_congr_right fun _ => eq_comm

/-- An unregistration fails if types are missing, for these. -/
lemma unregister_eq_error {missing : List EventType} :
    r.unregister target bs = .error missing ↔
      missing ≠ [] ∧ r.missingTypes target bs = missing := by
  rw [unregister]
  split
  · rename_i none
    rw [none]
    constructor
    · rintro ⟨⟩
    · rintro ⟨some, rfl⟩
      exact absurd rfl some
  · rename_i some
    constructor
    · rintro ⟨⟩
      exact ⟨some, rfl⟩
    · rintro ⟨_, rfl⟩
      rfl

/-- An unregistration that does not fail takes away those who are named, and counts them. -/
lemma unregister_eq_ok {n : Nat} :
    r.unregister target bs = .ok (r', n) ↔
      r.missingTypes target bs = [] ∧ n = r.namedCount target bs ∧
        r' = (declaredTypes bs).foldl (removeNamed target bs) r := by
  rw [unregister]
  split
  · rename_i none
    constructor
    · rintro ⟨⟩
      exact ⟨none, rfl, rfl⟩
    · rintro ⟨_, rfl, rfl⟩
      rfl
  · rename_i some
    constructor
    · rintro ⟨⟩
    · rintro ⟨none, _⟩
      exact absurd none some

end Registry

open Registry

/-- An unregistration in a registry that came about by calls fails just when the registry lacks, for
one of the declared types, all handlers that are declared for it. The types that it fails for are
the types like this. What the bus answers then names one of them, any of them it may be, and the
bus, with all else, is as it was. If it does not fail, the subscribers that are named are gone, and with them the types that
nobody is left for; all others are where they were, and the number that is returned is what is
missing in the count. An empty list changes nothing. -/
theorem unregister_removes {r : Registry H} (arises : r.Arises) (target : Target)
    (bs : List (Binding H)) :
    ((∃ missing, r.unregister target bs = .error missing) ↔
      ∃ b ∈ bs, r.Lacks target bs b.eventType) ∧
    (∀ missing, r.unregister target bs = .error missing →
      missing ≠ [] ∧
      (∀ t, t ∈ missing ↔ t ∈ bs.map (·.eventType) ∧ r.Lacks target bs t) ∧
      ∀ (s : State H σ ε) (bus : Nat) (b : Bus H), s.buses.get? bus = some b → b.registry = r →
        ∃ refusal, Machine.unregister s bus target bs = (s, .error refusal) ∧
          ∀ e, e ∈ refusal.errors ↔ ∃ t ∈ missing,
            e = .notRegistered (target.className ++ " has no subscriber registered for " ++ t.name)
              (some "SubscriberRegistry::unregister")) ∧
    (∀ r' n, r.unregister target bs = .ok (r', n) →
      Removal target bs r r' ∧ r'.count + n = r.count ∧
      ∀ (s : State H σ ε) (bus : Nat) (b : Bus H), s.buses.get? bus = some b → b.registry = r →
        (Machine.unregister s bus target bs).2 = .ok n ∧
        (Machine.unregister s bus target bs).1.buses =
          (s.setBus { b with registry := r' }).buses) ∧
    r.unregister target [] = .ok (r, 0) := by
  refine ⟨?_, ?_, ?_, rfl⟩
  · constructor
    · rintro ⟨missing, failed⟩
      obtain ⟨some, rfl⟩ := unregister_eq_error.1 failed
      obtain ⟨t, listed⟩ := List.exists_mem_of_ne_nil _ some
      obtain ⟨declared, lacks⟩ := mem_missingTypes.1 listed
      obtain ⟨b, mem, rfl⟩ := List.mem_map.1 declared
      exact ⟨b, mem, lacks⟩
    · rintro ⟨b, mem, lacks⟩
      refine ⟨r.missingTypes target bs, unregister_eq_error.2 ⟨?_, rfl⟩⟩
      exact List.ne_nil_of_mem (mem_missingTypes.2 ⟨List.mem_map_of_mem mem, lacks⟩)
  · intro missing failed
    obtain ⟨some, rfl⟩ := unregister_eq_error.1 failed
    refine ⟨some, fun t => mem_missingTypes, ?_⟩
    intro s bus b found same
    refine ⟨.of target bs (r.missingTypes target bs), ?_, fun e => mem_errors some⟩
    rw [Machine.unregister, found]
    dsimp only
    rw [same, failed]
  · intro r' n done
    obtain ⟨_, rfl, rfl⟩ := unregister_eq_ok.1 done
    have removal := arises.removal target bs
    refine ⟨removal, arises.tidy.count_removeNamed target bs, ?_⟩
    intro s bus b found same
    rw [Machine.unregister, found]
    dsimp only
    rw [same, done]
    exact ⟨rfl, rfl⟩

namespace Repeats

open Catalogue

/-- One of the two handlers that the listener has for what is billable, and one it never had. -/
def half : List (Binding String) :=
  [binding billable.type "on_bill" "", binding billable.type "on_lost" ""]

/-- As before, with the handler for what is auditable that has been taken back already. -/
def tooMany : List (Binding String) :=
  half ++ [binding auditable.type "on_bill" ""]

end Repeats

/-- The listener takes back one handler of two, together with one it never had; the others stay in
their order. With a type that it has no handler for any more, nothing is removed. -/
theorem repeats_removal :
    let r := Registry.after .empty .direct Repeats.failures Repeats.calls
    (∃ r', r.unregister Repeats.listener Repeats.half = .ok (r', 1) ∧
      (r'.subscribersFor Catalogue.billable.type).map (·.code) = ["fourth", "sixth"] ∧
      r'.count + 1 = r.count) ∧
    (∃ missing, r.unregister Repeats.listener Repeats.tooMany = .error missing) ∧
    ∃ b ∈ Repeats.tooMany, r.Lacks Repeats.listener Repeats.tooMany b.eventType := by
  intro r
  have arises : r.Arises := .after .empty .direct Repeats.failures Repeats.calls
  obtain ⟨_, _, removed, _⟩ :=
    @unregister_removes String Unit Unit r arises Repeats.listener Repeats.half
  obtain ⟨refused, _⟩ :=
    @unregister_removes String Unit Unit r arises Repeats.listener Repeats.tooMany
  have failed : ∃ missing, r.unregister Repeats.listener Repeats.tooMany = .error missing :=
    ⟨_, rfl⟩
  obtain ⟨r', done, left⟩ : ∃ r', r.unregister Repeats.listener Repeats.half = .ok (r', 1) ∧
      (r'.subscribersFor Catalogue.billable.type).map (·.code) = ["fourth", "sixth"] :=
    ⟨_, rfl, by decide +kernel⟩
  exact ⟨⟨r', done, left, (removed r' 1 done).2.1⟩, failed, refused.1 failed⟩

end EventBus
