import EventBus.Event.Catalogue
import EventBus.Proofs.Registry.Ledger

/-!
# The census of a registry

What the map of a registry looks like after any history of calls: it has a key for each type that
somebody is registered for and for no other, and under it the live subscriptions for the type. The
counts that are given out are those of the ledger (`registry_census`), and `MadeLive` says which
binding a live subscription was made from.
-/

namespace EventBus

namespace Table

variable {K V : Type} [DecidableEq K]

/-- A key that is new comes last, one that is there stays where it is. -/
lemma keys_set (t : Table K V) (k : K) (v : V) :
    (t.set k v).keys = if k ∈ t.keys then t.keys else t.keys ++ [k] := by
  obtain ⟨entries⟩ := t
  unfold set keys
  dsimp only
  induction entries with
  | nil => rfl
  | cons e es ih =>
    by_cases same : e.1 = k
    · simp [put, same]
    · have still : k ∈ (e :: es).map (·.1) ↔ k ∈ es.map (·.1) := by
        rw [List.map_cons, List.mem_cons, or_iff_right (Ne.symm same)]
      rw [put, if_neg same, List.map_cons, ih]
      simp only [still]
      split
      · rfl
      · rfl

/-- A key that is erased is gone. -/
lemma keys_erase (t : Table K V) (k : K) : (t.erase k).keys = t.keys.filter (· ≠ k) := by
  rw [erase, keys, keys, List.filter_map]
  rfl

/-- Setting a value repeats no key. -/
lemma nodup_set {t : Table K V} (once : t.keys.Nodup) (k : K) (v : V) : (t.set k v).keys.Nodup := by
  rw [keys_set]
  split
  · exact once
  · rename_i new
    exact once.append (List.nodup_singleton k) (by simpa using new)

/-- Nor does erasing a key. -/
lemma nodup_erase {t : Table K V} (once : t.keys.Nodup) (k : K) : (t.erase k).keys.Nodup := by
  rw [keys_erase]
  exact once.filter _

/-- Nothing is found just for those that are no keys. -/
lemma get?_eq_none_iff (t : Table K V) (k : K) : t.get? k = none ↔ k ∉ t.keys := by
  obtain ⟨entries⟩ := t
  unfold get? keys
  dsimp only
  induction entries with
  | nil => simp [find]
  | cons e es ih =>
    rw [find, List.map_cons, List.mem_cons]
    split
    · rename_i same
      simp [same]
    · rename_i other
      rw [ih]
      simp [Ne.symm other]

/-- The values of a table without a repeated key are those its keys lead to. -/
lemma values_eq {t : Table K V} (once : t.keys.Nodup) :
    t.values.map some = t.keys.map t.get? := by
  obtain ⟨entries⟩ := t
  unfold keys at once
  unfold values keys get?
  dsimp only at once ⊢
  induction entries with
  | nil => rfl
  | cons e es ih =>
    rw [List.map_cons, List.nodup_cons] at once
    obtain ⟨new, once⟩ := once
    rw [List.map_cons, List.map_cons, List.map_cons, List.map_cons, find, if_pos rfl, ih once]
    congr 1
    apply List.map_congr_left
    intro k mem
    rw [find, if_neg]
    rintro rfl
    exact new mem

/-- Tables are equal if they have the same keys, none of them twice, and lead to the same. -/
lemma ext_keys {t t' : Table K V} (once : t.keys.Nodup) (keys : t'.keys = t.keys)
    (same : ∀ k, t'.get? k = t.get? k) : t' = t := by
  have values : t'.values = t.values := by
    apply List.map_injective_iff.2 (Option.some_injective V)
    rw [values_eq once, values_eq (keys ▸ once), keys]
    apply List.map_congr_left
    intro k _
    exact same k
  have entries (t : Table K V) : t.entries = t.keys.zip t.values := List.zip_of_prod rfl rfl
  obtain ⟨es⟩ := t
  obtain ⟨es'⟩ := t'
  congr 1
  show (mk es').entries = (mk es).entries
  rw [entries, entries, keys, values]

end Table

variable {H : Type} {h : Hierarchy} {executor : Executor} {desk : FailureDesk H} {r : Registry H}
  {l : Ledger H} {target : Target}

namespace Registry

/-- A map of subscribers has no key twice, and none with nobody under it. -/
structure Tidy (r : Registry H) : Prop where
  once : r.lists.keys.Nodup
  filled : ∀ t, r.lists.get? t ≠ some []

namespace Tidy

/-- A map stays tidy when somebody is put under a type. -/
lemma set (tidy : r.Tidy) (t : EventType) {xs : List (Subscriber H)} (filled : xs ≠ [])
    (n : Nat) : Tidy { r with lists := r.lists.set t xs, serial := n } where
  once := Table.nodup_set tidy.once t xs
  filled u := by
    show (r.lists.set t xs).get? u ≠ _
    rw [Table.get?_set]
    split
    · rintro ⟨⟩
      exact filled rfl
    · exact tidy.filled u

/-- It stays tidy when a type is taken away. -/
lemma erase (tidy : r.Tidy) (t : EventType) : Tidy { r with lists := r.lists.erase t } where
  once := Table.nodup_erase tidy.once t
  filled u := by
    show (r.lists.erase t).get? u ≠ _
    rw [Table.get?_erase]
    split
    · rintro ⟨⟩
    · exact tidy.filled u

/-- A registration keeps it tidy. -/
lemma registerFrom (tidy : r.Tidy) (target : Target) (declared : List (EventType × String))
    (bs : List (Binding H)) : (Registry.registerFrom target declared r bs).registry.Tidy :=
  registerFrom_keeps (P := Tidy) (fun _ b _ _ tidy => tidy.set b.eventType (by simp) _) tidy declared

/-- So does taking away those who are named. -/
lemma foldl_removeNamed (tidy : r.Tidy) (target : Target) (bs : List (Binding H))
    (ts : List EventType) : (ts.foldl (Registry.removeNamed target bs) r).Tidy := by
  induction ts generalizing r with
  | nil => exact tidy
  | cons t ts ih =>
    apply ih
    rw [Registry.removeNamed]
    split
    · exact tidy.erase t
    · rename_i some
      exact tidy.set t some _

/-- So does any call. -/
lemma call (tidy : r.Tidy) (h : Hierarchy) (c : Call H) : (r.call h c).Tidy := by
  cases c with
  | register target bs => exact tidy.registerFrom target [] bs
  | unregister target bs =>
    rw [Registry.call, Registry.unregister]
    cases r.missingTypes target bs with
    | nil => exact tidy.foldl_removeNamed target bs _
    | cons t ts => exact tidy
  | resolve t =>
    rw [Registry.call, Registry.remember]
    split
    · exact tidy
    · exact ⟨tidy.once, tidy.filled⟩

/-- After any history of calls the map is tidy. -/
lemma after (h : Hierarchy) (executor : Executor) (desk : FailureDesk H) (calls : List (Call H)) :
    (Registry.after h executor desk calls).Tidy := by
  have go {r : Registry H} (tidy : r.Tidy) : (calls.foldl (Registry.call h) r).Tidy := by
    induction calls generalizing r with
    | nil => exact tidy
    | cons c calls ih => exact ih (tidy.call h c)
  exact go ⟨List.nodup_nil, by rintro t ⟨⟩⟩

/-- The count of a registry is the sum of the lengths of its lists. -/
lemma count_eq (tidy : r.Tidy) :
    r.count = ∑ t ∈ r.lists.keys.toFinset, (r.subscribersFor t).length := by
  have values : r.lists.values = r.lists.keys.map r.subscribersFor := by
    have same := congrArg (List.map (Option.getD · [])) (Table.values_eq tidy.once)
    rw [List.map_map, List.map_map] at same
    rw [← List.map_id r.lists.values]
    exact same
  rw [Registry.count, List.length_flatten, values, List.map_map, List.sum_toFinset _ tidy.once]
  rfl

/-- The keys are the types that somebody is under. -/
lemma mem_keys (tidy : r.Tidy) (t : EventType) :
    t ∈ r.lists.keys ↔ r.subscribersFor t ≠ [] := by
  have filled := tidy.filled t
  rw [← not_iff_not, ← Table.get?_eq_none_iff, Registry.subscribersFor, not_not]
  cases found : r.lists.get? t with
  | none => simp
  | some xs =>
    rw [found] at filled
    simpa using filled

/-- The count of a registry is such a sum over any types that its keys are among. -/
lemma count_eq_sum (tidy : r.Tidy) {ts : Finset EventType} (all : r.lists.keys.toFinset ⊆ ts) :
    r.count = ∑ t ∈ ts, (r.subscribersFor t).length := by
  rw [tidy.count_eq]
  apply Finset.sum_subset all
  intro t _ out
  rw [List.mem_toFinset, tidy.mem_keys, not_not] at out
  rw [out, List.length_nil]

/-- One more subscriber leaves the map tidy. -/
lemma add (tidy : r.Tidy) (target : Target) (b : Binding H) :
    (r.add target b).Tidy :=
  tidy.set b.eventType (by simp) _

/-- One more subscriber counts one more. -/
lemma count_add (tidy : r.Tidy) (target : Target) (b : Binding H) :
    (r.add target b).count = r.count + 1 := by
  have keys : r.lists.keys.toFinset ⊆ insert b.eventType r.lists.keys.toFinset :=
    Finset.subset_insert _ _
  have keys' : (r.add target b).lists.keys.toFinset ⊆
      insert b.eventType r.lists.keys.toFinset := by
    intro t mem
    rw [List.mem_toFinset, Registry.add, Table.keys_set] at mem
    rw [Finset.mem_insert, List.mem_toFinset]
    split at mem
    · exact .inr mem
    · rw [List.mem_append, List.mem_singleton] at mem
      exact mem.symm
  have one (t : EventType) : ((r.add target b).subscribersFor t).length =
      (r.subscribersFor t).length + if b.eventType = t then 1 else 0 := by
    rw [subscribersFor_add, List.length_append]
    split
    · rfl
    · rfl
  rw [tidy.count_eq_sum keys, (tidy.add target b).count_eq_sum keys']
  simp only [one, Finset.sum_add_distrib, Finset.sum_ite_eq, if_pos (Finset.mem_insert_self _ _)]

/-- The number that a registration returns is what the count goes up by. -/
lemma count_registerFrom (tidy : r.Tidy) {target : Target} {bs : List (Binding H)}
    {declared : List (EventType × String)} :
    (Registry.registerFrom target declared r bs).registry.count =
      r.count + (Registry.registerFrom target declared r bs).added := by
  induction bs generalizing r declared with
  | nil => rfl
  | cons b bs ih =>
    rw [Registry.registerFrom]
    split
    · exact ih tidy
    · split
      · exact ih tidy
      · dsimp only
        rw [ih (tidy.add target b), tidy.count_add]
        omega

/-- Who is left when the named subscribers of all declared types are removed, and those who are named,
make up what was there. -/
lemma count_removeNamed (tidy : r.Tidy) (target : Target) (bs : List (Binding H)) :
    ((Registry.declaredTypes bs).foldl (Registry.removeNamed target bs) r).count +
      r.namedCount target bs = r.count := by
  have tidy' := tidy.foldl_removeNamed target bs (Registry.declaredTypes bs)
  have left := Books.subscribersFor_removeNamed r target bs (Registry.declaredTypes bs)
  generalize (Registry.declaredTypes bs).foldl (Registry.removeNamed target bs) r = r' at tidy' left
  -- All sums are taken over the same types: the keys and the declared types.
  let ts := r.lists.keys.toFinset ∪ (Registry.declaredTypes bs).toFinset
  have keys : r.lists.keys.toFinset ⊆ ts := Finset.subset_union_left
  have keys' : r'.lists.keys.toFinset ⊆ ts := by
    intro t mem
    rw [List.mem_toFinset, tidy'.mem_keys, left] at mem
    apply keys
    rw [List.mem_toFinset, tidy.mem_keys]
    rintro none
    rw [none] at mem
    split at mem
    · exact mem rfl
    · exact mem rfl
  have once : (Registry.declaredTypes bs).Nodup := Hierarchy.fresh_nodup
  have named : r.namedCount target bs = ∑ t ∈ ts,
      if t ∈ Registry.declaredTypes bs then
        ((r.subscribersFor t).filter (Registry.named target bs t)).length else 0 := by
    rw [Registry.namedCount, List.length_flatMap, ← List.sum_toFinset _ once,
      ← Finset.sum_subset Finset.subset_union_right]
    · apply Finset.sum_congr rfl
      intro t mem
      rw [if_pos (List.mem_toFinset.1 mem)]
    · intro t _ out
      rw [if_neg (mt List.mem_toFinset.2 out)]
  rw [tidy.count_eq_sum keys, tidy'.count_eq_sum keys', named, ← Finset.sum_add_distrib]
  apply Finset.sum_congr rfl
  intro t _
  rw [left]
  split
  · rw [Nat.add_comm]
    exact (List.length_eq_length_filter_add _).symm
  · rfl

end Tidy

end Registry

/-- Whoever is in a list is counted under one of some types, if those are all there are. -/
lemma sum_length_filter {xs : List (Subscriber H)} {ts : Finset EventType}
    (all : ∀ x ∈ xs, x.eventType ∈ ts) :
    ∑ t ∈ ts, (xs.filter (·.eventType = t)).length = xs.length := by
  induction xs with
  | nil => simp
  | cons x xs ih =>
    obtain ⟨mem, all⟩ := List.forall_mem_cons.1 all
    have one (t : EventType) : ((x :: xs).filter (·.eventType = t)).length =
        (xs.filter (·.eventType = t)).length + if x.eventType = t then 1 else 0 := by
      rw [List.filter_cons]
      by_cases same : x.eventType = t
      · simp [same]
      · simp [same]
    simp only [one, Finset.sum_add_distrib, ih all, Finset.sum_ite_eq, if_pos mem,
      List.length_cons]

namespace Books

/-- The count of a registry is the number of live subscriptions. -/
lemma count_eq (books : Books h executor desk r l) (tidy : r.Tidy) : r.count = l.live.length := by
  have all : ∀ s ∈ l.live, s.eventType ∈ r.lists.keys.toFinset := by
    intro s mem
    rw [List.mem_toFinset, tidy.mem_keys, books.lists]
    exact List.ne_nil_of_mem (List.mem_filter.2 ⟨mem, decide_eq_true rfl⟩)
  rw [tidy.count_eq, ← sum_length_filter all]
  simp only [books.lists]

/-- There are as many keys as there are types with a live subscription. -/
lemma size_eq (books : Books h executor desk r l) (tidy : r.Tidy) :
    r.lists.size = (l.live.map (·.eventType)).toFinset.card := by
  have keys : r.lists.keys.toFinset = (l.live.map (·.eventType)).toFinset := by
    ext t
    rw [List.mem_toFinset, List.mem_toFinset, tidy.mem_keys, books.lists, List.mem_map, ne_eq,
      List.filter_eq_nil_iff]
    simp
  rw [← keys, List.toFinset_card_of_nodup tidy.once, Table.size, Table.keys, List.length_map]

end Books

namespace Ledger

/-- The ledger of a history at the moment when a registration gets to the rest of its bindings. -/
def reaching (executor : Executor) (desk : FailureDesk H) (before : List (Call H))
    (target : Target) (seen : List (Binding H)) : Ledger H :=
  seen.foldl (enter executor desk target) (after executor desk before)

/-- A subscription was made of a binding of a registration, at a moment when it was not live, and
has been live ever since. -/
def MadeLive (executor : Executor) (desk : FailureDesk H) (calls : List (Call H))
    (s : Subscriber H) : Prop :=
  ∃ before target seen b rest later,
    calls = before ++ .register target (seen ++ b :: rest) :: later ∧
    s = entry executor desk (reaching executor desk before target seen).ever target b ∧
    s.subscription ∉ (reaching executor desk before target seen).live.map (·.subscription) ∧
    ∀ soFar, soFar <+: later →
      s ∈ (after executor desk (before ++ .register target (seen ++ b :: rest) :: soFar)).live

/-- A history that is longer by a call. -/
lemma after_append (executor : Executor) (desk : FailureDesk H) (calls : List (Call H))
    (c : Call H) :
    after executor desk (calls ++ [c]) = (after executor desk calls).call executor desk c := by
  rw [after, List.foldl_append]
  rfl

/-- What is live after a registration was so before, or is made of one of the bindings. -/
lemma of_mem_foldl_enter {s : Subscriber H} {bs : List (Binding H)}
    (live : s ∈ (bs.foldl (enter executor desk target) l).live) :
    s ∈ l.live ∨ ∃ seen b rest, bs = seen ++ b :: rest ∧
      s = entry executor desk (seen.foldl (enter executor desk target) l).ever target b ∧
      s.subscription ∉
        (seen.foldl (enter executor desk target) l).live.map (·.subscription) := by
  induction bs generalizing l with
  | nil => exact .inl live
  | cons b bs ih =>
    obtain live | ⟨seen, b', rest, rfl, made, new⟩ := ih live
    · rw [enter] at live
      split at live
      · exact .inl live
      · rename_i new
        obtain live | made := List.mem_append.1 live
        · exact .inl live
        · obtain rfl := List.mem_singleton.1 made
          exact .inr ⟨[], b, bs, rfl, rfl, new⟩
    · exact .inr ⟨b :: seen, b', rest, rfl, made, new⟩

/-- Every live subscription was made live by a binding of the history. -/
lemma madeLive (executor : Executor) (desk : FailureDesk H) (calls : List (Call H))
    {s : Subscriber H} (live : s ∈ (after executor desk calls).live) :
    MadeLive executor desk calls s := by
  induction calls using List.reverseRecOn with
  | nil => cases live
  | append_singleton calls c ih =>
    -- A subscription that was live before the last call has stayed so.
    have old (already : s ∈ (after executor desk calls).live) :
        MadeLive executor desk (calls ++ [c]) s := by
      obtain ⟨before, target, seen, b, rest, later, rfl, made, new, since⟩ := ih already
      refine ⟨before, target, seen, b, rest, later ++ [c], by simp, made, new, ?_⟩
      intro soFar early
      obtain rfl | early := List.prefix_concat_iff.1 early
      · simpa using live
      · exact since soFar early
    rw [after_append] at live
    cases c with
    | resolve t => exact old live
    | unregister target bs =>
      apply old
      rw [call, strike] at live
      split at live
      · exact (List.mem_filter.1 live).1
      · exact live
    | register target bs =>
      obtain live' | ⟨seen, b, rest, rfl, made, new⟩ := of_mem_foldl_enter live
      · exact old live'
      · refine ⟨calls, target, seen, b, rest, [], rfl, made, new, ?_⟩
        intro soFar early
        rw [List.prefix_nil.1 early, after_append]
        exact live

/-- The live subscriptions stand in the order in which they became live. -/
structure InOrder (l : Ledger H) : Prop where
  sorted : l.live.Pairwise (·.lock.serial < ·.lock.serial)
  early : ∀ s ∈ l.live, s.lock.serial < l.ever

namespace InOrder

/-- What is entered comes last. -/
lemma enter (order : l.InOrder) (executor : Executor) (desk : FailureDesk H) (target : Target)
    (b : Binding H) : (l.enter executor desk target b).InOrder := by
  rw [Ledger.enter]
  split
  · exact order
  · constructor
    · rw [List.pairwise_append]
      refine ⟨order.sorted, List.pairwise_singleton _ _, ?_⟩
      intro s mem s' mem'
      obtain rfl := List.mem_singleton.1 mem'
      exact order.early s mem
    · intro s mem
      obtain mem | mem := List.mem_append.1 mem
      · exact Nat.lt_succ_of_lt (order.early s mem)
      · obtain rfl := List.mem_singleton.1 mem
        exact Nat.lt_succ_self _

/-- Every call leaves the others in their order. -/
lemma call (order : l.InOrder) (executor : Executor) (desk : FailureDesk H) (c : Call H) :
    (l.call executor desk c).InOrder := by
  cases c with
  | resolve t => exact order
  | unregister target bs =>
    rw [Ledger.call, strike]
    split
    · exact ⟨order.sorted.filter _, fun s mem => order.early s (List.mem_filter.1 mem).1⟩
    · exact order
  | register target bs =>
    rw [Ledger.call]
    induction bs generalizing l with
    | nil => exact order
    | cons b bs ih => exact ih (order.enter executor desk target b)

/-- After any history they are in order. -/
lemma after (executor : Executor) (desk : FailureDesk H) (calls : List (Call H)) :
    (Ledger.after executor desk calls).InOrder := by
  induction calls using List.reverseRecOn with
  | nil => exact ⟨.nil, List.forall_mem_nil _⟩
  | append_singleton calls c ih =>
    rw [after_append]
    exact ih.call executor desk c

end InOrder

end Ledger

/-- The list of a type has no two subscribers of one target and handler. -/
lemma Books.not_same (books : Books h executor desk r l) (t : EventType) :
    (r.subscribersFor t).Pairwise (fun s s' => ¬s.same s') := by
  rw [books.lists, List.pairwise_filter]
  apply (List.pairwise_map.1 books.distinct).imp
  intro s s' other type type' same
  obtain ⟨id, handler⟩ := Bool.and_eq_true_iff.1 same
  apply other
  rw [Subscriber.subscription, Subscriber.subscription, of_decide_eq_true type,
    of_decide_eq_true type', eq_of_beq id, eq_of_beq handler]

/-- After any history of calls on a bus, no type is twice a key of its map, and none is a key with
nobody under it; whoever is under a type is declared for it, and no two of them are one handler of
one target. They are the live subscriptions for the type, in the order in which these became live,
each as the binding has it that made it live. The count of the registry is the number of the live
subscriptions and the sum over all types, the map has as many keys as there are types with a live
subscription, and the numbers that a registration and an unregistration return are the change of
the count. -/
theorem registry_census (h : Hierarchy) (executor : Executor) (desk : FailureDesk H)
    (calls : List (Call H)) :
    let r := Registry.after h executor desk calls
    let live := (Ledger.after executor desk calls).live
    r.lists.keys.Nodup ∧
    (∀ t xs, r.lists.get? t = some xs →
      xs ≠ [] ∧ (∀ s ∈ xs, s.eventType = t) ∧ xs.Pairwise (fun s s' => ¬s.same s')) ∧
    (∀ t, r.subscribersFor t = live.filter (·.eventType = t)) ∧
    live.Pairwise (·.lock.serial < ·.lock.serial) ∧
    (∀ s ∈ live, Ledger.MadeLive executor desk calls s) ∧
    r.count = live.length ∧
    r.count = ∑ᶠ t, (r.subscribersFor t).length ∧
    r.lists.size = (live.map (·.eventType)).toFinset.card ∧
    (∀ target bs, r.count + (r.register target bs).added =
      (r.register target bs).registry.count) ∧
    ∀ target bs r' n, r.unregister target bs = .ok (r', n) → r'.count + n = r.count := by
  intro r live
  have books := Books.after h executor desk calls
  have tidy : r.Tidy := .after h executor desk calls
  refine ⟨tidy.once, ?_, books.lists, (Ledger.InOrder.after executor desk calls).sorted,
    fun s => Ledger.madeLive executor desk calls, books.count_eq tidy, ?_, books.size_eq tidy,
    ?_, ?_⟩
  · intro t xs found
    have all : r.subscribersFor t = xs := by rw [Registry.subscribersFor, found]; rfl
    refine ⟨?_, ?_, all ▸ books.not_same t⟩
    · rintro rfl
      exact tidy.filled t found
    · intro s mem
      rw [← all, books.lists] at mem
      exact of_decide_eq_true (List.mem_filter.1 mem).2
  · rw [tidy.count_eq, finsum_eq_sum_of_support_subset]
    intro t counted
    rw [Finset.mem_coe, List.mem_toFinset, tidy.mem_keys]
    rintro none
    exact counted (congrArg List.length none)
  · intro target bs
    exact tidy.count_registerFrom.symm
  · intro target bs r' n done
    rw [Registry.unregister] at done
    split at done <;> cases done
    exact tidy.count_removeNamed target bs

namespace Repeats

open Catalogue

def failures : FailureDesk String := ⟨⟨1, "bus"⟩, .log⟩

def listener : Target := ⟨1, "Listener", "listener"⟩

def binding (type : EventType) (handler code : String) : Binding String :=
  ⟨handler, type, .whole, false, none, code⟩

/-- The listener repeats itself within a call and in a later one, and takes back its handler for
what is auditable, together with one it never had. -/
def calls : List (Call String) :=
  [.register listener [binding billable.type "on_bill" "first",
      binding billable.type "on_bill" "second", binding auditable.type "on_bill" "third"],
    .register ⟨2, "Listener", "other"⟩ [binding billable.type "on_bill" "fourth"],
    .register listener [binding billable.type "on_bill" "fifth",
      binding billable.type "on_paid" "sixth"],
    .unregister listener [binding auditable.type "on_bill" "", binding auditable.type "on_paid" ""]]

/-- What the listener has left to take back. -/
def left : List (Binding String) :=
  [binding billable.type "on_bill" "", binding billable.type "on_paid" ""]

end Repeats

/-- Where the listener has repeated itself, what it declared first is what is live. One of its three
handlers is gone with its type, and if the listener takes back the other two, one handler is left.
-/
theorem repeats_census :
    let r := Registry.after .empty .direct Repeats.failures Repeats.calls
    (r.subscribersFor Catalogue.billable.type).map (·.code) = ["first", "fourth", "sixth"] ∧
    r.lists.keys = [Catalogue.billable.type] ∧
    (∃ xs, r.lists.get? Catalogue.billable.type = some xs ∧
      xs.Pairwise (fun s s' => ¬s.same s')) ∧
    ∃ r', r.unregister Repeats.listener Repeats.left = .ok (r', 2) ∧ r'.count + 2 = r.count ∧
      r.count = 3 := by
  obtain ⟨_, filled, _, _, _, _, _, _, _, removed⟩ :=
    registry_census .empty .direct Repeats.failures Repeats.calls
  obtain ⟨r', done⟩ : ∃ r', (Registry.after .empty .direct Repeats.failures
      Repeats.calls).unregister Repeats.listener Repeats.left = .ok (r', 2) := ⟨_, rfl⟩
  obtain ⟨xs, found⟩ : ∃ xs, (Registry.after .empty .direct Repeats.failures
      Repeats.calls).lists.get? Catalogue.billable.type = some xs := ⟨_, rfl⟩
  exact ⟨by decide +kernel, by decide +kernel, ⟨xs, found, (filled _ xs found).2.2⟩, r', done,
    removed _ _ r' 2 done, by decide +kernel⟩

end EventBus
