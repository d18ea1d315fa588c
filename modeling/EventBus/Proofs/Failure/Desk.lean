import EventBus.Proofs.Machine.Turn
import EventBus.Proofs.Registry.Ledger
import EventBus.Proofs.Routing.Post

/-!
# Where errors are reported

Every subscriber that the machine is about to call, wherever it waits, was registered on one of the
buses and reports to the desk of that bus; and a handler that was called at once stands on the rest
of the deliveries of the same event. `Reachable.lodged` says so of every machine that comes about.
-/

namespace EventBus

variable {H σ ε : Type}

namespace Registry

/-- The subscribers of a registry report where the registry does. -/
def Manned (r : Registry H) : Prop := ∀ t, ∀ x ∈ r.subscribersFor t, x.desk = r.desk

namespace Manned

variable {r : Registry H}

/-- A subscriber that is added has the desk of the registry. -/
lemma add (h : r.Manned) (target : Target) (b : Binding H) : (r.add target b).Manned := by
  intro t x mem
  rw [subscribersFor_add] at mem
  obtain mem | mem := List.mem_append.1 mem
  · exact h t x mem
  · split at mem
    · rw [List.mem_singleton.1 mem]
      rfl
    · cases mem

/-- A registration keeps everybody at the desk. -/
lemma registerFrom (h : r.Manned) (target : Target) (declared : List (EventType × String))
    (bs : List (Binding H)) :
    (Registry.registerFrom target declared r bs).registry.Manned ∧
      (Registry.registerFrom target declared r bs).registry.desk = r.desk :=
  registerFrom_keeps (P := fun r' => r'.Manned ∧ r'.desk = r.desk)
    (fun _ b _ _ kept => ⟨kept.1.add target b, kept.2⟩) ⟨h, rfl⟩ declared

/-- So does an unregistration. -/
lemma unregister (h : r.Manned) {target : Target} {bs : List (Binding H)} {r' : Registry H}
    {n : Nat} (done : r.unregister target bs = .ok (r', n)) : r'.Manned ∧ r'.desk = r.desk := by
  unfold Registry.unregister at done
  split at done <;> cases done
  obtain ⟨lists, same⟩ := Books.foldl_removeNamed r target bs (declaredTypes bs)
  have kept := Books.subscribersFor_removeNamed r target bs (declaredTypes bs)
  rw [same] at kept ⊢
  refine ⟨?_, rfl⟩
  intro t x mem
  rw [kept] at mem
  split at mem
  · exact h t x (List.mem_filter.1 mem).1
  · exact h t x mem

/-- To remember a closure moves nobody. -/
lemma remember (h : r.Manned) (hierarchy : Hierarchy) (t : EventType) :
    (r.remember hierarchy t).Manned ∧ (r.remember hierarchy t).desk = r.desk := by
  unfold Registry.remember
  split
  · exact ⟨h, rfl⟩
  · exact ⟨h, rfl⟩

end Manned

end Registry

/-- The subscribers that a frame is about to call, or has called. -/
def Frame.subscribers : Frame H σ ε → List (Subscriber H)
  | deliveries _ _ _ xs => xs
  | handling _ x => [x]
  | _ => []

namespace State

/-- A subscriber reports to the desk of a bus. -/
def Houses (s : State H σ ε) (x : Subscriber H) : Prop :=
  ∃ k b, s.buses.get? k = some b ∧ b.handle = x.desk.bus ∧ b.registry.desk = x.desk

/-- A bus is known by its number, and its subscribers report to it. -/
structure Settled (s : State H σ ε) (k : Nat) (b : Bus H) : Prop where
  number : b.handle.id = k
  bound : k ≤ s.busCount
  desk : b.registry.desk.bus = b.handle
  manned : b.registry.Manned

/-- What waits in a state reports to the buses it was registered on, and what has been put off is
not to be called at once. -/
structure Lodging (s : State H σ ε) : Prop where
  settled : ∀ {k b}, s.buses.get? k = some b → s.Settled k b
  queues : ∀ {key q}, s.queues.get? key = some q →
    ∀ next ∈ q.waiting, ∀ x ∈ next.subscribers, s.Houses x
  backlog : ∀ w ∈ s.backlog, s.Houses w.subscriber ∧ w.subscriber.executor ≠ .direct
  pool : ∀ w ∈ s.pool, s.Houses w.subscriber ∧ w.subscriber.executor ≠ .direct

/-- From one state to another, what was lodged is lodged still. -/
structure Settles (s s' : State H σ ε) : Prop where
  lodging : s.Lodging → s'.Lodging
  houses : ∀ {x}, s.Lodging → s.Houses x → s'.Houses x

namespace Settles

variable {s s' s'' : State H σ ε}

/-- A state with the same buses, queues, backlog and pool settles. -/
lemma of_eq (buses : s'.buses = s.buses) (busCount : s'.busCount = s.busCount)
    (queues : s'.queues = s.queues) (backlog : s'.backlog = s.backlog) (pool : s'.pool = s.pool) :
    s.Settles s' := by
  have houses {x : Subscriber H} (h : s.Houses x) : s'.Houses x := by
    unfold Houses
    rw [buses]
    exact h
  constructor
  · intro h
    constructor
    · intro k b found
      rw [buses] at found
      obtain ⟨number, bound, desk, manned⟩ := h.settled found
      exact ⟨number, by rwa [busCount], desk, manned⟩
    · intro key q found next mem x mem'
      rw [queues] at found
      exact houses (h.queues found next mem x mem')
    · intro w mem
      rw [backlog] at mem
      exact (h.backlog w mem).imp_left houses
    · intro w mem
      rw [pool] at mem
      exact (h.pool w mem).imp_left houses
  · intro x _ h
    exact houses h

/-- Nothing settles better than no change. -/
lemma refl (s : State H σ ε) : s.Settles s := of_eq rfl rfl rfl rfl rfl

/-- Two steps that settle make one. -/
lemma trans (h : s.Settles s') (h' : s'.Settles s'') : s.Settles s'' :=
  ⟨fun lodging => h'.lodging (h.lodging lodging),
    fun lodging housed => h'.houses (h.lodging lodging) (h.houses lodging housed)⟩

/-- To tell of something settles. -/
lemma emit (h : s.Settles s') (o : Occurrence H ε) : s.Settles (s'.emit o) :=
  h.trans (of_eq rfl rfl rfl rfl rfl)

/-- So does to tell of several things. -/
lemma emitAll (h : s.Settles s') (os : List (Occurrence H ε)) : s.Settles (s'.emitAll os) := by
  induction os generalizing s' with
  | nil => exact h
  | cons o os ih => exact ih (h.emit o)

/-- A bus may be replaced by itself with another registry that is manned alike. -/
lemma setBus {k : Nat} {b : Bus H} (found : s.buses.get? k = some b) {r : Registry H}
    (manned : b.registry.Manned → r.Manned ∧ r.desk = b.registry.desk) :
    s.Settles (s.setBus { b with registry := r }) := by
  have get (k' : Nat) : (s.setBus { b with registry := r }).buses.get? k' =
      if b.handle.id = k' then some { b with registry := r } else s.buses.get? k' :=
    Table.get?_set ..
  have houses {x : Subscriber H} (h : s.Lodging) (housed : s.Houses x) :
      (s.setBus { b with registry := r }).Houses x := by
    obtain ⟨k', b', found', handle, desk⟩ := housed
    obtain ⟨number, _, _, manned'⟩ := h.settled found
    by_cases same : b.handle.id = k'
    · rw [← same, number, found] at found'
      cases found'
      refine ⟨b.handle.id, _, (get _).trans (if_pos rfl), handle, ?_⟩
      exact (manned manned').2.trans desk
    · exact ⟨k', b', (get _).trans ((if_neg same).trans found'), handle, desk⟩
  refine ⟨fun h => ⟨?_, ?_, ?_, ?_⟩, houses⟩
  · intro k' b' found'
    rw [get] at found'
    split at found'
    · rename_i same
      cases found'
      obtain ⟨number, bound, desk, manned'⟩ := h.settled found
      obtain ⟨manned', desk'⟩ := manned manned'
      refine ⟨same, ?_, by rw [desk', desk], manned'⟩
      rw [← same, number]
      exact bound
    · obtain ⟨number, bound, desk, manned⟩ := h.settled found'
      exact ⟨number, bound, desk, manned⟩
  · intro key q found' next mem x mem'
    exact houses h (h.queues found' next mem x mem')
  · intro w mem
    exact (h.backlog w mem).imp_left (houses h)
  · intro w mem
    exact (h.pool w mem).imp_left (houses h)

/-- Looking up subscribers settles. -/
lemma resolve {k : Nat} {b : Bus H} (found : s.buses.get? k = some b) (t : EventType) :
    s.Settles (s.resolve b t).1 := by
  unfold State.resolve
  apply emit
  cases b.registry.closures.get? t with
  | some _ => exact refl s
  | none => exact (setBus found fun manned => manned.remember _ _).emit _

/-- Queues may change if what waits in them is housed. -/
lemma queues {qs : Table (Nat × Nat) (DispatchQueue H)}
    (housed : s.Lodging → ∀ {key q}, qs.get? key = some q →
      ∀ next ∈ q.waiting, ∀ x ∈ next.subscribers, s.Houses x) :
    s.Settles { s with queues := qs } where
  lodging h := ⟨fun found => ⟨(h.settled found).number, (h.settled found).bound,
    (h.settled found).desk, (h.settled found).manned⟩, housed h, h.backlog, h.pool⟩
  houses _ h := h

/-- A queue may hold whoever has a house. -/
lemma enqueue (key : Nat × Nat) {next : Pending H}
    (housed : ∀ x ∈ next.subscribers, s.Houses x) : s.Settles (s.enqueue key next).1 := by
  have set {q : List (Pending H)} {draining : Bool}
      (waiting : s.Lodging → ∀ old ∈ q, ∀ x ∈ old.subscribers, s.Houses x) :
      s.Settles { s with queues := s.queues.set key ⟨q ++ [next], draining⟩ } := by
    apply queues
    intro h key' q' found
    rw [Table.get?_set] at found
    split at found
    · cases found
      intro old mem
      obtain mem | mem := List.mem_append.1 mem
      · exact waiting h old mem
      · rw [List.mem_singleton.1 mem]
        exact housed
    · exact h.queues found
  unfold State.enqueue
  split
  · rename_i q found
    have longer : s.Settles { s with queues := s.queues.set key ⟨q.waiting ++ [next], true⟩ } :=
      set fun h => h.queues found
    dsimp only
    split
    · exact longer.emit _
    · exact longer
  · have first : s.Settles { s with queues := s.queues.set key ⟨[] ++ [next], true⟩ } :=
      set fun _ => List.forall_mem_nil _
    exact first

/-- Whoever is taken from a queue has a house. -/
lemma dequeue {key : Nat × Nat} {next : Pending H} (dequeued : s.dequeue key = some (s', next)) :
    s.Settles s' ∧ (s.Lodging → ∀ x ∈ next.subscribers, s.Houses x) := by
  obtain ⟨q, draining, found, rfl⟩ := Machine.dequeue_eq_some dequeued
  constructor
  · apply queues
    intro h key' q' found'
    rw [Table.get?_set] at found'
    split at found'
    · cases found'
      intro old mem
      exact h.queues found old (List.mem_cons_of_mem _ mem)
    · exact h.queues found'
  · intro h
    exact h.queues found next List.mem_cons_self

/-- Closing a queue settles. -/
lemma closeQueue (s : State H σ ε) (key : Nat × Nat) : s.Settles (s.closeQueue key) := by
  have closed : s.Settles { s with queues := s.queues.erase key } := by
    apply queues
    intro h key' q found
    rw [Table.get?_erase] at found
    split at found
    · cases found
    · exact h.queues found
  unfold State.closeQueue
  dsimp only
  split
  · exact closed.emit _
  · exact closed

/-- To tell what is seen of a dispatch settles. -/
lemma sight (s : State H σ ε) (t : Nat) (d : Dispatcher) (e : Event) (xs : List (Subscriber H)) :
    s.Settles (s.sight t d e xs) := by
  unfold State.sight
  cases d.arrangement
  case plain => exact refl s
  all_goals exact (refl s).emit _

/-- Entering a handler settles. -/
lemma enter (s : State H σ ε) (t : Nat) (x : Subscriber H) : s.Settles (s.enter t x) := by
  obtain ⟨locks, same⟩ := s.enter_state t x
  rw [same]
  exact of_eq rfl rfl rfl rfl rfl

/-- Leaving it settles. -/
lemma leave (s : State H σ ε) (x : Subscriber H) : s.Settles (s.leave x) := by
  obtain ⟨locks, same⟩ := s.leave_state x
  rw [same]
  exact of_eq rfl rfl rfl rfl rfl

/-- The stores may change if what is put off in them was so before, or is housed. -/
lemma stores {backlog pool : List (Work H)}
    (old : ∀ w ∈ backlog ++ pool, w ∈ s.backlog ++ s.pool ∨
      s.Houses w.subscriber ∧ w.subscriber.executor ≠ .direct) :
    s.Settles { s with backlog := backlog, pool := pool } := by
  have housed (h : s.Lodging) {w : Work H} (mem : w ∈ backlog ++ pool) :
      s.Houses w.subscriber ∧ w.subscriber.executor ≠ .direct :=
    (old w mem).elim (fun mem => (List.mem_append.1 mem).elim (h.backlog w) (h.pool w)) id
  constructor
  · intro h
    refine ⟨?_, h.queues, fun w mem => housed h (List.mem_append_left _ mem),
      fun w mem => housed h (List.mem_append_right _ mem)⟩
    intro k b found
    obtain ⟨number, bound, desk, manned⟩ := h.settled found
    exact ⟨number, bound, desk, manned⟩
  · intro x _ h
    exact h

/-- Work may be deferred for whoever has a house and is not called at once. -/
lemma defer {x : Subscriber H} {e : Event} (housed : s.Houses x) (indirect : x.executor ≠ .direct) :
    s.Settles { s with backlog := s.backlog ++ [⟨x, e⟩] } := by
  apply stores
  intro w mem
  rw [List.append_assoc, List.mem_append, List.singleton_append, List.mem_cons] at mem
  obtain mem | rfl | mem := mem
  · exact .inl (List.mem_append_left _ mem)
  · exact .inr ⟨housed, indirect⟩
  · exact .inl (List.mem_append_right _ mem)

/-- It may be handed to the pool as well. -/
lemma handOff {x : Subscriber H} {e : Event} (housed : s.Houses x)
    (indirect : x.executor ≠ .direct) : s.Settles { s with pool := s.pool ++ [⟨x, e⟩] } := by
  apply stores
  intro w mem
  rw [← List.append_assoc, List.mem_append, List.mem_singleton] at mem
  obtain mem | rfl := mem
  · exact .inl mem
  · exact .inr ⟨housed, indirect⟩

/-- Work taken from the backlog is for one who has a house and is not called at once. -/
lemma takeBacklog {newestFirst : Bool} {w : Work H}
    (taken : s.takeBacklog newestFirst = some (s', w)) :
    s.Settles s' ∧ (s.Lodging → s.Houses w.subscriber ∧ w.subscriber.executor ≠ .direct) := by
  obtain ⟨due, fewer, sub, rfl⟩ := Machine.takeBacklog_eq_some taken
  constructor
  · apply stores
    intro w mem
    left
    rw [List.mem_append] at mem ⊢
    exact mem.imp_left (sub w)
  · intro h
    exact h.backlog w due

/-- So is work taken from the pool. -/
lemma takePool {w : Work H} (taken : s.takePool = some (s', w)) :
    s.Settles s' ∧ (s.Lodging → s.Houses w.subscriber ∧ w.subscriber.executor ≠ .direct) := by
  obtain ⟨fewer, pool, rfl⟩ := Machine.takePool_eq_some taken
  constructor
  · apply stores
    intro w mem
    left
    rw [pool]
    rw [List.mem_append] at mem ⊢
    exact mem.imp_right (List.mem_cons_of_mem _)
  · intro h
    exact h.pool w (by rw [pool]; exact List.mem_cons_self)

/-- A new bus gets a number that no other bus has. -/
lemma build (s : State H σ ε) (plan : BusPlan H) : s.Settles (Machine.build s plan).1 := by
  apply emit
  have get (k : Nat) (b : Bus H) : ({ s with busCount := s.busCount + 1 }.setBus b).buses.get? k =
      if b.handle.id = k then some b else s.buses.get? k := Table.get?_set ..
  generalize plan.dispatcher = d
  have houses {x : Subscriber H} (b : Bus H) (new : b.handle.id = s.busCount + 1) (h : s.Lodging)
      (housed : s.Houses x) : ({ s with busCount := s.busCount + 1 }.setBus b).Houses x := by
    obtain ⟨k, b', found, handle, desk⟩ := housed
    refine ⟨k, b', ?_, handle, desk⟩
    rw [get, if_neg, found]
    have bound := (h.settled found).bound
    omega
  constructor
  · intro h
    constructor
    · intro k b found
      rw [get] at found
      split at found
      · rename_i new
        cases found
        refine ⟨new, ?_, rfl, ?_⟩
        · rw [← new]
          exact Nat.le_refl _
        · intro t x mem
          exact absurd mem List.not_mem_nil
      · obtain ⟨number, bound, desk, manned⟩ := h.settled found
        exact ⟨number, Nat.le_succ_of_le bound, desk, manned⟩
    · intro key q found next mem x mem'
      exact houses _ rfl h (h.queues found next mem x mem')
    · intro w mem
      exact (h.backlog w mem).imp_left (houses _ rfl h)
    · intro w mem
      exact (h.pool w mem).imp_left (houses _ rfl h)
  · intro x h housed
    exact houses _ rfl h housed

/-- A call that comes back at once settles. -/
lemma acts {t : Nat} {script next : Script H σ ε} (acts : Machine.Acts t s script s' next) :
    s.Settles s' := by
  cases acts with
  | note => exact (refl s).emit _
  | inspect => exact refl s
  | update => exact of_eq rfl rfl rfl rfl rfl
  | declare => exact of_eq rfl rfl rfl rfl rfl
  | newDispatcher => exact of_eq rfl rfl rfl rfl rfl
  | build => exact build s _
  | @register bus target bs next =>
    unfold Machine.register
    split
    · exact refl s
    · rename_i b found
      exact ((setBus found fun manned => manned.registerFrom ..).emitAll _).emit _
  | @unregister bus target bs next =>
    unfold Machine.unregister
    split
    · exact refl s
    · rename_i b found
      split
      · exact refl s
      · rename_i done
        exact ((setBus found fun manned => manned.unregister done).emit _).emit _

end Settles

end State

namespace Machine

/-- A stack on which every handler that was called at once stands on the deliveries of its event. -/
inductive Seated : List (Frame H σ ε) → Prop where
  | nil : Seated []
  | called {order t e x xs fs} :
    Seated (.deliveries order t e xs :: fs) →
    Seated (.handling e x :: .deliveries order t e xs :: fs)
  | later {e x fs} :
    x.executor ≠ .direct →
    Seated fs →
    Seated (.handling e x :: fs)
  | other {f fs} :
    (∀ e x, f ≠ .handling e x) →
    Seated fs →
    Seated (f :: fs)

/-- Below a frame everybody has a seat. -/
lemma Seated.tail {f : Frame H σ ε} {fs : List (Frame H σ ε)} (h : Seated (f :: fs)) :
    Seated fs := by
  cases h with
  | called h => exact h
  | later _ h => exact h
  | other _ h => exact h

/-- Whoever the machine is about to call reports to a bus that it was registered on. -/
structure Lodged (m : Machine H σ ε) : Prop where
  lodging : m.state.Lodging
  frames : ∀ f ∈ m.stack, ∀ x ∈ f.subscribers, m.state.Houses x
  seated : Seated m.stack

variable {p : Program H σ ε} {m m' : Machine H σ ε}

namespace Lodged

/-- The machine goes on in another state, with other frames at the top of the stack. -/
lemma goOn (h : m.Lodged) {fs base : List (Frame H σ ε)} (settles : m.state.Settles m'.state)
    (stack' : m'.stack = fs ++ base) (sub : ∀ f ∈ base, f ∈ m.stack)
    (fresh : ∀ f ∈ fs, ∀ x ∈ f.subscribers, m.state.Houses x) (seated : Seated m'.stack) :
    m'.Lodged where
  lodging := settles.lodging h.lodging
  frames f mem x mem' := by
    apply settles.houses h.lodging
    rw [stack'] at mem
    obtain mem | mem := List.mem_append.1 mem
    · exact fresh f mem x mem'
    · exact h.frames f (sub f mem) x mem'
  seated := seated

/-- A machine that returns keeps everybody lodged. -/
lemma returning (h : m.Lodged) {s : State H σ ε} (settles : m.state.Settles s) :
    (m.returning s).Lodged :=
  h.goOn settles (List.nil_append _).symm (fun _ => id) (List.forall_mem_nil _) h.seated

/-- Something that is no handler may be put on the stack. -/
lemma push (h : m.Lodged) {f : Frame H σ ε} (settles : m.state.Settles m'.state)
    (stack' : m'.stack = f :: m.stack) (housed : ∀ x ∈ f.subscribers, m.state.Houses x)
    (other : ∀ e x, f ≠ .handling e x) : m'.Lodged := by
  refine h.goOn settles (stack'.trans List.singleton_append.symm) (fun _ => id)
    (List.forall_mem_singleton.2 housed) ?_
  rw [stack']
  exact .other other h.seated

/-- So does one that goes on under a frame whose subscribers have a house. -/
lemma entering (h : m.Lodged) {s : State H σ ε} (settles : m.state.Settles s) {f : Frame H σ ε}
    (housed : ∀ x ∈ f.subscribers, m.state.Houses x) (other : ∀ e x, f ≠ .handling e x) :
    (m.entering s f).Lodged :=
  h.push settles rfl housed other

/-- Driving an event keeps everybody lodged. -/
lemma drive (h : m.Lodged) {s : State H σ ε} (settles : m.state.Settles s) (order : DispatchOrder)
    (e : Event) {xs : List (Subscriber H)} (housed : ∀ x ∈ xs, m.state.Houses x) :
    (m.drive s order e xs).Lodged := by
  cases order with
  | immediate => exact h.entering settles housed (by rintro _ _ ⟨⟩)
  | queued id =>
    have still : ∀ x ∈ (Pending.mk e xs).subscribers, s.Houses x :=
      fun x mem => settles.houses h.lodging (housed x mem)
    have enqueued := settles.trans (.enqueue (id, m.thread) still)
    unfold Machine.drive
    dsimp only
    split
    · rename_i waits
      rw [waits] at enqueued
      exact h.returning enqueued
    · rename_i opens
      rw [opens] at enqueued
      exact h.entering enqueued (List.forall_mem_nil _) (by rintro _ _ ⟨⟩)

/-- So does a dispatch. -/
lemma dispatch (h : m.Lodged) {s : State H σ ε} (settles : m.state.Settles s) (d : Dispatcher)
    (e : Event) {xs : List (Subscriber H)} (housed : ∀ x ∈ xs, m.state.Houses x) :
    (m.dispatch s d e xs).Lodged := by
  have sighted := settles.trans (.sight s m.thread d e xs)
  unfold Machine.dispatch
  dsimp only
  split
  · exact h.returning sighted
  · rename_i arranged
    have housed x mem := housed x (Arrangement.mem_of_apply arranged mem)
    exact h.drive (sighted.emit _) d.order e housed

/-- And so does a post. -/
lemma post (h : m.Lodged) (bus : Nat) (e : Event) : (m.post bus e).Lodged := by
  cases found : m.state.buses.get? bus with
  | none =>
    rw [post_unknown found]
    exact h.returning (.refl _)
  | some b =>
    have course := post_course found e
    have resolved := State.Settles.resolve found e.type
    have mourned : m.state.Settles (m.state.mourned b bus e) := by
      obtain ⟨r, found', _⟩ := m.state.bus_resolve b e.type found
      have again := State.Settles.resolve
        (s := (m.state.resolve b e.type).1.emit (.died b.handle e)) found' .deadEvent
      unfold State.mourned
      dsimp only
      rw [show ((m.state.resolve b e.type).1.emit (.died b.handle e)).buses =
        (m.state.resolve b e.type).1.buses from rfl, found', Option.getD_some]
      exact (resolved.emit _).trans again
    have listed {t : EventType} {xs : List (Subscriber H)}
        (listed : b.registry.resolve m.state.hierarchy t = xs) :
        ∀ x ∈ xs, m.state.Houses x := by
      intro x mem
      rw [← listed, Registry.resolve, List.mem_flatMap] at mem
      obtain ⟨u, _, mem⟩ := mem
      obtain ⟨_, _, desk, manned⟩ := h.lodging.settled found
      have same := manned u x mem
      exact ⟨bus, b, found, by rw [same, desk], same.symm⟩
    generalize m.post bus e = m' at course
    cases course with
    | heard heard _ => exact h.dispatch (resolved.emit _) _ _ (listed heard)
    | dropped _ _ => exact h.returning (resolved.emit _)
    | mourned _ _ heard _ => exact h.dispatch (mourned.emit _) _ _ (listed heard)
    | forgotten _ _ _ => exact h.returning (mourned.emit _)

/-- The top of the stack may be taken off. -/
lemma pop (h : m.Lodged) {f : Frame H σ ε} {base : List (Frame H σ ε)} (stack : m.stack = f :: base)
    (settles : m.state.Settles m'.state) (stack' : m'.stack = base) : m'.Lodged := by
  refine h.goOn settles (stack'.trans (List.nil_append _).symm) ?_ (List.forall_mem_nil _) ?_
  · intro g mem
    rw [stack]
    exact List.mem_cons_of_mem _ mem
  · have seated := h.seated
    rw [stack] at seated
    rw [stack']
    exact seated.tail

/-- The top of the stack may be replaced by something else that is no handler. -/
lemma swap (h : m.Lodged) {f f' : Frame H σ ε} {base : List (Frame H σ ε)}
    (stack : m.stack = f :: base) (settles : m.state.Settles m'.state)
    (stack' : m'.stack = f' :: base) (housed : ∀ x ∈ f'.subscribers, m.state.Houses x)
    (other : ∀ e x, f' ≠ .handling e x) : m'.Lodged := by
  refine h.goOn settles (stack'.trans List.singleton_append.symm) ?_
    (List.forall_mem_singleton.2 housed) ?_
  · intro g mem
    rw [stack]
    exact List.mem_cons_of_mem _ mem
  · have seated := h.seated
    rw [stack] at seated
    rw [stack']
    exact .other other seated.tail

/-- A handler may be called that is put on its deliveries, or that has been put off. -/
lemma inside (h : m.Lodged) {s : State H σ ε} (settles : m.state.Settles s) {e : Event}
    {x : Subscriber H} (housed : m.state.Houses x)
    (seat : x.executor ≠ .direct ∨ ∃ order t xs fs, m.stack = .deliveries order t e xs :: fs) :
    (m.inside p s e x).Lodged := by
  have entered := (settles.trans (.enter s m.thread x)).emit (.invoked m.thread e x)
  refine h.goOn entered List.singleton_append.symm (fun _ => id) ?_ ?_
  · rw [List.forall_mem_singleton]
    exact List.forall_mem_singleton.2 housed
  · obtain indirect | ⟨order, t, xs, fs, stack⟩ := seat
    · exact .later indirect h.seated
    · have seated := h.seated
      rw [stack] at seated
      rw [Machine.inside, stack]
      exact .called seated

end Lodged

/-- A machine that keeps its stack and settles keeps everybody lodged. -/
lemma Lodged.stay (h : m.Lodged) (settles : m.state.Settles m'.state)
    (stack' : m'.stack = m.stack) : m'.Lodged :=
  h.goOn settles (stack'.trans (List.nil_append _).symm) (fun _ => id) (List.forall_mem_nil _)
    (by rw [stack']; exact h.seated)

/-- Of the deliveries on top, the first one may be taken. -/
lemma Lodged.deliveries (h : m.Lodged) {order : DispatchOrder} {t : Nat} {e : Event}
    {x : Subscriber H} {xs : List (Subscriber H)} {base : List (Frame H σ ε)}
    (stack : m.stack = .deliveries order t e (x :: xs) :: base) :
    m.state.Houses x ∧ ∀ y ∈ xs, m.state.Houses y := by
  have mem : .deliveries order t e (x :: xs) ∈ m.stack := by
    rw [stack]
    exact List.mem_cons_self
  exact List.forall_mem_cons.1 (h.frames _ mem)

/-- Every turn keeps whoever is about to be called housed. -/
lemma Turn.lodged (turn : Turn p m m') (h : m.Lodged) : m'.Lodged := by
  have same := State.Settles.refl m.state
  cases turn with
  | acts _ acts => exact h.stay (.acts acts) rfl
  | panics _ => exact h.stay same rfl
  | @posts bus e elsewhere next _ =>
    apply Lodged.post
    cases elsewhere with
    | false => exact h.push same rfl (List.forall_mem_nil _) (by rintro _ _ ⟨⟩)
    | true =>
      have aside : ({ m with stack := .resume next :: m.stack } : Machine H σ ε).Lodged :=
        h.push same rfl (List.forall_mem_nil _) (by rintro _ _ ⟨⟩)
      have counted : m.state.Settles { m.state with threadCount := m.state.threadCount + 1 } :=
        .of_eq rfl rfl rfl rfl rfl
      exact aside.push counted rfl (List.forall_mem_nil _) (by rintro _ _ ⟨⟩)
  | runsBacklog _ => exact h.push same rfl (List.forall_mem_nil _) (by rintro _ _ ⟨⟩)
  | delivered _ stack => exact h.pop stack ((State.Settles.leave ..).emit _) rfl
  | @fails failure e x rest fails =>
    have reported := (State.Settles.leave m.state x).emit (.reported failure (x.failureContext e))
    unfold report
    dsimp only
    cases x.desk.policy with
    | log => exact h.pop fails.stack (reported.emit _) rfl
    | custom code =>
      exact h.swap fails.stack reported rfl (List.forall_mem_nil _) (by rintro _ _ ⟨⟩)
  | @reported result _ _ _ _ stack =>
    cases result with
    | ok _ => exact h.pop stack same rfl
    | error _ => exact h.pop stack (same.emit _) rfl
  | idles _ _ => exact h.stay same rfl
  | resumes _ stack => exact h.pop stack same rfl
  | delivers _ stack => exact h.pop stack same rfl
  | @calls order t e x xs base _ stack _ =>
    obtain ⟨housed, rest⟩ := h.deliveries stack
    have below : ({ m with stack := .deliveries order t e xs :: base } : Machine H σ ε).Lodged :=
      h.swap stack same rfl rest (by rintro _ _ ⟨⟩)
    exact below.inside (same.emit _) housed (.inr ⟨order, t, xs, base, rfl⟩)
  | @defers order t e x xs base _ stack deferred =>
    obtain ⟨housed, rest⟩ := h.deliveries stack
    have submitted := same.emit (.submitted m.thread order e x)
    have put := submitted.trans
      (.defer (e := e) (submitted.houses h.lodging housed) (by simp [deferred]))
    exact h.swap stack put rfl rest (by rintro _ _ ⟨⟩)
  | @handsOff order t e x xs base _ stack pool =>
    obtain ⟨housed, rest⟩ := h.deliveries stack
    have submitted := (same.emit (.submitted m.thread order e x)).emit (.handedOff e x)
    have put := submitted.trans
      (.handOff (e := e) (submitted.houses h.lodging housed) (by simp [pool]))
    exact h.swap stack put rfl rest (by rintro _ _ ⟨⟩)
  | fetches _ stack dequeued =>
    obtain ⟨settles, housed⟩ := State.Settles.dequeue dequeued
    exact h.entering settles (housed h.lodging) (by rintro _ _ ⟨⟩)
  | closes _ stack _ => exact h.pop stack (.closeQueue ..) rfl
  | joins stack => exact h.pop stack same rfl
  | @takes limit newestFirst done next s w base _ stack taken =>
    obtain ⟨settles, housed⟩ := State.Settles.takeBacklog taken
    obtain ⟨housed, indirect⟩ := housed h.lodging
    have below : ({ m with stack := .backlog limit newestFirst (done + 1) next :: base } :
        Machine H σ ε).Lodged :=
      h.swap stack same rfl (List.forall_mem_nil _) (by rintro _ _ ⟨⟩)
    exact below.inside settles housed (.inl indirect)
  | ran _ stack => exact h.pop stack same rfl
  | pools _ stack taken =>
    obtain ⟨settles, housed⟩ := State.Settles.takePool taken
    obtain ⟨housed, indirect⟩ := housed h.lodging
    exact h.inside settles housed (.inl indirect)
  | rests _ stack => exact h.pop stack same rfl
  | breaks _ stack => exact h.pop stack (.closeQueue ..) rfl
  | leaves _ stack => exact h.pop stack (.leave ..) rfl
  | catches _ stack => exact h.pop stack (same.emit _) rfl
  | survives _ _ => exact h.stay (same.emit _) rfl
  | drops _ stack _ => exact h.pop stack same rfl

/-- In a new state everybody is lodged, as there is nobody. -/
lemma lodging_initial (hierarchy : Hierarchy) (user : σ) :
    (State.initial hierarchy user : State H σ ε).Lodging where
  settled found := by cases found
  queues found := by cases found
  backlog _ mem := by cases mem
  pool _ mem := by cases mem

/-- Whoever a machine that comes about is about to call reports to a bus that it was registered on.
-/
theorem Reachable.lodged (reach : Reachable p m) : m.Lodged := by
  induction reach with
  | first => exact ⟨lodging_initial .., List.forall_mem_nil _, .nil⟩
  | step _ st ih => exact (step_turn st).lodged ih
  | @next m₁ s ending user trace script _ st ih =>
    obtain ⟨_, rfl⟩ := stack_of_ended st
    have settles : m₁.state.Settles { m₁.state with user := user, trace := trace } :=
      .of_eq rfl rfl rfl rfl rfl
    exact ⟨settles.lodging ih.lodging, List.forall_mem_nil _, .nil⟩
  | pool _ st ih =>
    obtain ⟨_, rfl⟩ := stack_of_ended st
    refine ⟨ih.lodging, ?_, .other (by rintro _ _ ⟨⟩) .nil⟩
    exact List.forall_mem_singleton.2 (List.forall_mem_nil _)

end Machine

end EventBus
