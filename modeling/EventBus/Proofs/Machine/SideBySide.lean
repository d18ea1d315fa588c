import EventBus.Proofs.Routing.Post

/-!
# Runs side by side

Two groups of buses on which the same is done. A `Pairing` says in what the two sides may differ: in
what the handlers keep and return, in what the trace tells, and in the order in which the second
side drives events. Machines that are `InStep` make the next step together; `InStep.step` names the
two points where they may part.
-/

namespace EventBus

variable {H σ σ' ε : Type}

/-- In what two sides may differ. -/
structure Pairing (H σ σ' ε : Type) where
  /-- How what the handlers keep is related. -/
  user : σ → σ' → Prop
  /-- Whether a script may end well on the second side where it ends with an error on the first. -/
  lenient : Bool
  /-- Whether the second side drives every event at once. -/
  immediate : Bool
  /-- What both sides tell alike. -/
  told : Occurrence H ε → Bool
  untold_reportFailed : lenient → ∀ {s f c}, told (.reportFailed s f c) = false
  untold_built : immediate → ∀ {b x d}, told (.built b x d) = false
  untold_dispatched : immediate → ∀ {t o e xs}, told (.dispatched t o e xs) = false

namespace Pairing

variable (P : Pairing H σ σ' ε)

/-- What a script ends with on either side. -/
def Result (r r' : Except Failure Unit) : Prop := r' = r ∨ P.lenient ∧ r' = .ok ()

/-- The dispatcher that the second side has for one of the first. -/
def dispatcher (d : Dispatcher) : Dispatcher :=
  if P.immediate then { d with order := .immediate } else d

def bus (b : Bus H) : Bus H := { b with dispatcher := P.dispatcher b.dispatcher }

def plan (plan : BusPlan H) : BusPlan H :=
  { plan with dispatcher := P.dispatcher plan.dispatcher }

/-- States that differ in no more than they may. -/
structure Alike (s : State H σ ε) (s' : State H σ' ε) : Prop where
  hierarchy : s'.hierarchy = s.hierarchy
  buses : ∀ k, s'.buses.get? k = (s.buses.get? k).map P.bus
  queues : s'.queues = s.queues
  /-- A side that drives every event at once has no queues. -/
  idle : P.immediate → s.queues = .empty
  locks : s'.locks = s.locks
  backlog : s'.backlog = s.backlog
  pool : s'.pool = s.pool
  busCount : s'.busCount = s.busCount
  dispatcherCount : s'.dispatcherCount = s.dispatcherCount
  threadCount : s'.threadCount = s.threadCount
  user : P.user s.user s'.user
  trace : s'.trace.toList.filter P.told = s.trace.toList.filter P.told

/-- Scripts that do the same. What they see of a state must not tell the sides apart. -/
inductive Matches : Script H σ ε → Script H σ' ε → Prop where
  | finish {r r'} :
    P.Result r r' →
    Matches (.finish r) (.finish r')
  | panic {payload} : Matches (.panic payload) (.panic payload)
  | note {entry next next'} :
    Matches next next' →
    Matches (.note entry next) (.note entry next')
  | inspect {next next'} :
    (∀ s s' t, P.Alike s s' → Matches (next s t) (next' s' t)) →
    Matches (.inspect next) (.inspect next')
  | update {change change' next next'} :
    (∀ u u', P.user u u' → P.user (change u) (change' u')) →
    Matches next next' →
    Matches (.update change next) (.update change' next')
  | declare {types next next'} :
    Matches next next' →
    Matches (.declare types next) (.declare types next')
  | newDispatcher {next next'} :
    (∀ n, Matches (next n) (next' n)) →
    Matches (.newDispatcher next) (.newDispatcher next')
  | build {plan next next'} :
    (∀ b, Matches (next b) (next' b)) →
    Matches (.build plan next) (.build (P.plan plan) next')
  | register {bus target bs next next'} :
    (∀ n, Matches (next n) (next' n)) →
    Matches (.register bus target bs next) (.register bus target bs next')
  | unregister {bus target bs next next'} :
    (∀ r, Matches (next r) (next' r)) →
    Matches (.unregister bus target bs next) (.unregister bus target bs next')
  | post {bus e elsewhere next next'} :
    Matches next next' →
    Matches (.post bus e elsewhere next) (.post bus e elsewhere next')
  | runBacklog {limit newestFirst next next'} :
    (∀ n, Matches (next n) (next' n)) →
    Matches (.runBacklog limit newestFirst next) (.runBacklog limit newestFirst next')

/-- Programs that do the same. -/
structure Similar (p : Program H σ ε) (p' : Program H σ' ε) : Prop where
  handle : ∀ h e, P.Matches (p.handle h e) (p'.handle h e)
  report : ∀ h f c, P.Matches (p.report h f c) (p'.report h f c)

/-- Frames that go on in the same way. -/
inductive LikeFrame : Frame H σ ε → Frame H σ' ε → Prop where
  | resume {next next'} :
    P.Matches next next' →
    LikeFrame (.resume next) (.resume next')
  | deliveries {order t e xs} : LikeFrame (.deliveries order t e xs) (.deliveries order t e xs)
  | drain {d t} :
    P.immediate = false →
    LikeFrame (.drain d t) (.drain d t)
  | handling {e x} : LikeFrame (.handling e x) (.handling e x)
  | reporting {f c} : LikeFrame (.reporting f c) (.reporting f c)
  | join {waiting} : LikeFrame (.join waiting) (.join waiting)
  | backlog {limit newestFirst done next next'} :
    (∀ n, P.Matches (next n) (next' n)) →
    LikeFrame (.backlog limit newestFirst done next) (.backlog limit newestFirst done next')
  | pool : LikeFrame .pool .pool

inductive LikeControl : Control H σ ε → Control H σ' ε → Prop where
  | run {script script'} :
    P.Matches script script' →
    LikeControl (.run script) (.run script')
  | back : LikeControl .back .back
  | unwind {payload} : LikeControl (.unwind payload) (.unwind payload)

/-- Machines that do the same. -/
structure InStep (m : Machine H σ ε) (n : Machine H σ' ε) : Prop where
  state : P.Alike m.state n.state
  thread : n.thread = m.thread
  stack : List.Forall₂ P.LikeFrame m.stack n.stack
  control : P.LikeControl m.control n.control

end Pairing

/-- A subscriber that is registered on a bus. -/
def State.Lists (s : State H σ ε) (x : Subscriber H) : Prop :=
  ∃ k b t, s.buses.get? k = some b ∧ x ∈ b.registry.subscribersFor t

namespace Pairing

variable (P : Pairing H σ σ' ε)

/-- What becomes of two machines in step, the first of which comes from a state `s₀`. -/
inductive Paired (p : Program H σ ε) (s₀ : State H σ ε) :
    Progress H σ ε → Progress H σ' ε → Prop where
  | going {m n} :
    P.InStep m n →
    Paired p s₀ (.going m) (.going n)
  | ended {s s' ending ending'} :
    P.Alike s s' →
    Paired p s₀ (.ended s ending) (.ended s' ending')
  | stuck {s s'} : Paired p s₀ (.stuck s) (.stuck s')
  /-- An event is put into a queue on the first side and driven at once on the second one. -/
  | opens {m n id e xs} :
    P.immediate →
    P.InStep m n →
    m.control = .back →
    (∀ x ∈ xs, s₀.Lists x) →
    Paired p s₀ (.going (m.drive m.state (.queued id) e xs))
      (.going (n.drive n.state .immediate e xs))
  /-- A handler fails on the first side only. -/
  | fails {m n f e x} :
    P.lenient →
    P.InStep m n →
    m.control = .back →
    Paired p s₀ (.going (Machine.report p m m.state m.stack f e x))
      (.going { n with state := n.state.emit (.delivered e x) })

variable {P}

namespace Alike

variable {s : State H σ ε} {s' : State H σ' ε}

/-- States stay alike when both sides tell the same. -/
lemma emit (h : P.Alike s s') (o : Occurrence H ε) : P.Alike (s.emit o) (s'.emit o) where
  __ := h
  trace := by
    simp only [State.emit, Array.toList_push, List.filter_append, h.trace]

/-- What is not told alike may be told on the first side alone. -/
lemma emit_left (h : P.Alike s s') {o : Occurrence H ε} (untold : P.told o = false) :
    P.Alike (s.emit o) s' where
  __ := h
  trace := by
    simp [State.emit, h.trace, untold]

/-- It may be told on the second side alone as well. -/
lemma emit_right (h : P.Alike s s') {o : Occurrence H ε} (untold : P.told o = false) :
    P.Alike s (s'.emit o) where
  __ := h
  trace := by
    simp [State.emit, h.trace, untold]

/-- Both sides may also tell something different that is not told alike. -/
lemma emit_untold (h : P.Alike s s') {o o' : Occurrence H ε} (untold : P.told o = false)
    (untold' : P.told o' = false) : P.Alike (s.emit o) (s'.emit o') :=
  (h.emit_left untold).emit_right untold'

/-- States stay alike when both sides tell the same things, one after the other. -/
lemma emitAll (h : P.Alike s s') (os : List (Occurrence H ε)) :
    P.Alike (s.emitAll os) (s'.emitAll os) := by
  induction os generalizing s s' with
  | nil => exact h
  | cons o os ih => exact ih (h.emit o)

/-- A bus may be replaced on both sides. -/
lemma setBus (h : P.Alike s s') (b : Bus H) : P.Alike (s.setBus b) (s'.setBus (P.bus b)) where
  __ := h
  buses k := by
    show (s'.buses.set b.handle.id (P.bus b)).get? k =
      ((s.buses.set b.handle.id b).get? k).map P.bus
    rw [Table.get?_set, Table.get?_set, h.buses]
    split <;> rfl

/-- Both sides look up the same subscribers, and remember the same closure. -/
lemma resolve (h : P.Alike s s') (b : Bus H) (t : EventType) :
    P.Alike (s.resolve b t).1 (s'.resolve (P.bus b) t).1 := by
  unfold State.resolve
  rw [h.hierarchy]
  apply Alike.emit
  rw [show (P.bus b).registry = b.registry from rfl]
  cases b.registry.closures.get? t with
  | some _ => exact h
  | none => exact (h.setBus _).emit _

/-- Both sides tell of an event without subscribers in the same way. -/
lemma mourned (h : P.Alike s s') (b : Bus H) (bus : Nat) (e : Event) :
    P.Alike (s.mourned b bus e) (s'.mourned (P.bus b) bus e) := by
  have died := (h.resolve b e.type).emit (.died b.handle e)
  have same : (((s'.resolve (P.bus b) e.type).1.emit (.died b.handle e)).buses.get? bus).getD
      (P.bus b) =
        P.bus ((((s.resolve b e.type).1.emit (.died b.handle e)).buses.get? bus).getD b) := by
    rw [died.buses]
    exact Option.getD_map ..
  unfold State.mourned
  dsimp only
  rw [show (P.bus b).handle = b.handle from rfl, same]
  exact died.resolve _ _

/-- A handler is entered on both sides. -/
lemma enter (h : P.Alike s s') (t : Nat) (x : Subscriber H) :
    P.Alike (s.enter t x) (s'.enter t x) := by
  unfold State.enter
  rw [h.locks]
  split
  · exact h
  · split
    · exact { h with locks := rfl }
    · exact { h with locks := rfl }

/-- A handler is left on both sides. -/
lemma leave (h : P.Alike s s') (x : Subscriber H) : P.Alike (s.leave x) (s'.leave x) := by
  unfold State.leave
  rw [h.locks]
  split
  · exact h
  · split
    · exact { h with locks := rfl }
    · exact { h with locks := rfl }

/-- The same subscribers are locked out. -/
lemma lockedOut (h : P.Alike s s') (t : Nat) (lock : LockKey) :
    s'.lockedOut t lock = s.lockedOut t lock := by
  rw [State.lockedOut, State.lockedOut, h.locks]

/-- Both sides tell of a dispatch, each of its own dispatcher. -/
lemma sight (h : P.Alike s s') (t : Nat) (d : Dispatcher) (e : Event) (xs : List (Subscriber H)) :
    P.Alike (s.sight t d e xs) (s'.sight t (P.dispatcher d) e xs) := by
  have arrangement : (P.dispatcher d).arrangement = d.arrangement := by
    unfold Pairing.dispatcher
    split <;> rfl
  have detailed : (P.dispatcher d).detailed = d.detailed := by
    unfold Pairing.dispatcher
    split <;> rfl
  have detail (x : Subscriber H) : s'.subscriberDetail t x = s.subscriberDetail t x := by
    simp only [State.subscriberDetail, h.lockedOut]
  unfold State.sight
  rw [arrangement]
  simp only [detailed, detail]
  cases d.arrangement
  case plain => exact h
  all_goals exact h.emit _

/-- A queue is closed on both sides. -/
lemma closeQueue (h : P.Alike s s') (apart : P.immediate = false) (key : Nat × Nat) :
    P.Alike (s.closeQueue key) (s'.closeQueue key) := by
  have closed : P.Alike { s with queues := s.queues.erase key }
      { s' with queues := s'.queues.erase key } :=
    { h with
      queues := congrArg (·.erase key) h.queues
      idle := by simp [apart] }
  unfold State.closeQueue
  rw [h.queues] at closed ⊢
  dsimp only
  split
  · exact closed.emit _
  · exact closed

/-- Queues are empty on both sides, or the same event is taken from both. -/
lemma dequeue (h : P.Alike s s') (apart : P.immediate = false) (key : Nat × Nat) :
    s.dequeue key = none ∧ s'.dequeue key = none ∨
      ∃ t t' next, s.dequeue key = some (t, next) ∧ s'.dequeue key = some (t', next) ∧
        P.Alike t t' := by
  unfold State.dequeue
  rw [h.queues]
  split
  · exact .inr ⟨_, _, _, rfl, rfl, { h with queues := rfl, idle := by simp [apart] }⟩
  · exact .inl ⟨rfl, rfl⟩

/-- An event is put into a queue on both sides, and both sides find the queue draining or not. -/
lemma enqueue (h : P.Alike s s') (apart : P.immediate = false) (key : Nat × Nat)
    (next : Pending H) :
    P.Alike (s.enqueue key next).1 (s'.enqueue key next).1 ∧
      (s'.enqueue key next).2 = (s.enqueue key next).2 := by
  have set (q : DispatchQueue H) : P.Alike { s with queues := s.queues.set key q }
      { s' with queues := s.queues.set key q } :=
    { h with queues := rfl, idle := by simp [apart] }
  unfold State.enqueue
  rw [h.queues]
  split
  · dsimp only
    split
    · exact ⟨(set _).emit _, rfl⟩
    · exact ⟨set _, rfl⟩
  · exact ⟨set _, rfl⟩

/-- Backlogs are empty on both sides, or the same work is taken from both. -/
lemma takeBacklog (h : P.Alike s s') (newestFirst : Bool) :
    s.takeBacklog newestFirst = none ∧ s'.takeBacklog newestFirst = none ∨
      ∃ t t' w, s.takeBacklog newestFirst = some (t, w) ∧
        s'.takeBacklog newestFirst = some (t', w) ∧ P.Alike t t' := by
  unfold State.takeBacklog
  rw [h.backlog]
  split
  · split
    · exact .inr ⟨_, _, _, rfl, rfl, { h with backlog := rfl }⟩
    · exact .inl ⟨rfl, rfl⟩
  · split
    · exact .inr ⟨_, _, _, rfl, rfl, { h with backlog := rfl }⟩
    · exact .inl ⟨rfl, rfl⟩

/-- A work that is taken on the first side on a condition is taken on the second as well. -/
lemma takes (h : P.Alike s s') {takes : Prop} [Decidable takes] {newestFirst : Bool}
    {t : State H σ ε} {w : Work H}
    (taken : (if takes then s.takeBacklog newestFirst else none) = some (t, w)) :
    ∃ t', (if takes then s'.takeBacklog newestFirst else none) = some (t', w) ∧ P.Alike t t' := by
  split_ifs at taken ⊢ with here
  obtain ⟨none, _⟩ | ⟨_, t', _, left, right, alike⟩ := h.takeBacklog newestFirst
  · rw [none] at taken
    cases taken
  · rw [left] at taken
    cases taken
    exact ⟨t', right, alike⟩

/-- If none is taken on the first side, none is on the second. -/
lemma takes_none (h : P.Alike s s') {takes : Prop} [Decidable takes] {newestFirst : Bool}
    (taken : (if takes then s.takeBacklog newestFirst else none) = none) :
    (if takes then s'.takeBacklog newestFirst else none) = none := by
  split_ifs at taken ⊢ with here
  · obtain ⟨_, none⟩ | ⟨_, _, _, left, _, _⟩ := h.takeBacklog newestFirst
    · exact none
    · rw [left] at taken
      cases taken
  · rfl

/-- The pools have no work on either side, or the same work is taken from both. -/
lemma takePool (h : P.Alike s s') :
    s.takePool = none ∧ s'.takePool = none ∨
      ∃ t t' w, s.takePool = some (t, w) ∧ s'.takePool = some (t', w) ∧ P.Alike t t' := by
  unfold State.takePool
  rw [h.pool]
  split
  · exact .inr ⟨_, _, _, rfl, rfl, { h with pool := rfl }⟩
  · exact .inl ⟨rfl, rfl⟩

/-- Dispatchers describe themselves alike, as the second side has those of the first. -/
lemma dispatcherDetail (h : P.Alike s s') (apart : P.immediate = false) (d : Dispatcher) :
    s'.dispatcherDetail (P.dispatcher d) = s.dispatcherDetail d := by
  have same : P.dispatcher d = d := by rw [Pairing.dispatcher, apart, if_neg Bool.false_ne_true]
  simp only [same, State.dispatcherDetail, State.activeQueues, h.queues]

/-- A bus is built on both sides, under the same number. -/
lemma build (h : P.Alike s s') (plan : BusPlan H) :
    P.Alike (Machine.build s plan).1 (Machine.build s' (P.plan plan)).1 ∧
      (Machine.build s' (P.plan plan)).2 = (Machine.build s plan).2 := by
  have counted : P.Alike { s with busCount := s.busCount + 1 }
      { s' with busCount := s.busCount + 1 } := { h with busCount := rfl }
  unfold Machine.build
  rw [h.busCount]
  refine ⟨?_, rfl⟩
  cases apart : P.immediate with
  | true => exact (counted.setBus _).emit_untold (P.untold_built apart) (P.untold_built apart)
  | false =>
    have detail := h.dispatcherDetail apart plan.dispatcher
    show P.Alike _ (State.emit _ (.built _ _ (s'.dispatcherDetail (P.dispatcher plan.dispatcher))))
    rw [detail]
    exact (counted.setBus _).emit _

/-- A registration has the same result on both sides. -/
lemma register (h : P.Alike s s') (bus : Nat) (target : Target) (bs : List (Binding H)) :
    P.Alike (Machine.register s bus target bs).1 (Machine.register s' bus target bs).1 ∧
      (Machine.register s' bus target bs).2 = (Machine.register s bus target bs).2 := by
  unfold Machine.register
  rw [h.buses]
  cases s.buses.get? bus with
  | none => exact ⟨h, rfl⟩
  | some b => exact ⟨((h.setBus _).emitAll _).emit _, rfl⟩

/-- An unregistration has the same result on both sides. -/
lemma unregister (h : P.Alike s s') (bus : Nat) (target : Target) (bs : List (Binding H)) :
    P.Alike (Machine.unregister s bus target bs).1 (Machine.unregister s' bus target bs).1 ∧
      (Machine.unregister s' bus target bs).2 = (Machine.unregister s bus target bs).2 := by
  unfold Machine.unregister
  rw [h.buses]
  cases s.buses.get? bus with
  | none => exact ⟨h, rfl⟩
  | some b =>
    simp only [Option.map_some, Pairing.bus]
    cases b.registry.unregister target bs with
    | error missing => exact ⟨h, rfl⟩
    | ok removed => exact ⟨((h.setBus _).emit _).emit _, rfl⟩

/-- The registries of the two sides are the same. -/
lemma registries (h : P.Alike s s') (k : Nat) :
    (s'.buses.get? k).map (·.registry) = (s.buses.get? k).map (·.registry) := by
  rw [h.buses, Option.map_map]
  rfl

end Alike

/-- It makes no difference to driving an event what the machine would have returned to. -/
lemma drive_returning (m : Machine H σ ε) (s s' : State H σ ε) (order : DispatchOrder) (e : Event)
    (xs : List (Subscriber H)) : (m.returning s').drive s order e xs = m.drive s order e xs := by
  unfold Machine.drive
  cases order with
  | immediate => rfl
  | queued id =>
    dsimp only
    split
    · rename_i opened
      rw [show s.enqueue (id, m.thread) ⟨e, xs⟩ = _ from opened]
      rfl
    · rename_i opened
      rw [show s.enqueue (id, m.thread) ⟨e, xs⟩ = _ from opened]
      rfl

namespace InStep

variable {p : Program H σ ε} {p' : Program H σ' ε} {m : Machine H σ ε} {n : Machine H σ' ε}
  {s₀ : State H σ ε}

/-- Machines in step return together to states that are alike. -/
lemma returning (h : P.InStep m n) {s : State H σ ε} {s' : State H σ' ε} (state : P.Alike s s') :
    P.InStep (m.returning s) (n.returning s') :=
  ⟨state, h.thread, h.stack, .back⟩

/-- They go on together under frames that go on in the same way. -/
lemma entering (h : P.InStep m n) {s : State H σ ε} {s' : State H σ' ε} (state : P.Alike s s')
    {f : Frame H σ ε} {f' : Frame H σ' ε} (frame : P.LikeFrame f f') :
    P.InStep (m.entering s f) (n.entering s' f') :=
  ⟨state, h.thread, .cons frame h.stack, .back⟩

/-- They drive an event together, where the second side does not drive it at once. -/
lemma drive (h : P.InStep m n) {s : State H σ ε} {s' : State H σ' ε} (state : P.Alike s s')
    (apart : P.immediate = false) (order : DispatchOrder) (e : Event) (xs : List (Subscriber H)) :
    P.InStep (m.drive s order e xs) (n.drive s' order e xs) := by
  unfold Machine.drive
  rw [h.thread]
  cases order with
  | immediate => exact h.entering state .deliveries
  | queued id =>
    obtain ⟨enqueued, waits⟩ := state.enqueue apart (id, m.thread) ⟨e, xs⟩
    dsimp only
    cases left : s.enqueue (id, m.thread) ⟨e, xs⟩ with
    | mk t waiting =>
      cases right : s'.enqueue (id, m.thread) ⟨e, xs⟩ with
      | mk t' waiting' =>
        rw [left, right] at enqueued waits
        cases waits
        cases waiting with
        | true => exact h.returning enqueued
        | false => exact h.entering enqueued (.drain apart)

/-- A dispatch is the same for both, or the second side drives at once what the first drives later.
-/
lemma dispatch (h : P.InStep m n) {s : State H σ ε} {s' : State H σ' ε} (state : P.Alike s s')
    (d : Dispatcher) (e : Event) {xs : List (Subscriber H)} (listed : ∀ x ∈ xs, s₀.Lists x) :
    P.Paired p s₀ (.going (m.dispatch s d e xs))
      (.going (n.dispatch s' (P.dispatcher d) e xs)) := by
  have arrangement : (P.dispatcher d).arrangement = d.arrangement := by
    unfold Pairing.dispatcher
    split <;> rfl
  have state := state.sight m.thread d e xs
  unfold Machine.dispatch
  rw [arrangement, h.thread]
  dsimp only
  cases arranged : d.arrangement.apply xs with
  | none => exact .going (h.returning state)
  | some ys =>
    cases apart : P.immediate with
    | false =>
      have same : P.dispatcher d = d := by rw [Pairing.dispatcher, apart, if_neg Bool.false_ne_true]
      rw [same] at state ⊢
      exact .going (h.drive (state.emit _) apart d.order e ys)
    | true =>
      have order : (P.dispatcher d).order = .immediate := by rw [Pairing.dispatcher, if_pos apart]
      rw [order]
      have state : P.Alike (State.emit _ (.dispatched m.thread d.order e ys))
          (State.emit _ (.dispatched m.thread .immediate e ys)) :=
        state.emit_untold (P.untold_dispatched apart) (P.untold_dispatched apart)
      have back := h.returning state
      cases driven : d.order with
      | immediate =>
        rw [driven] at state
        refine .going ?_
        unfold Machine.drive
        rw [h.thread]
        exact h.entering state .deliveries
      | queued id =>
        rw [driven] at back
        have opens : P.Paired p s₀ (.going ((m.returning _).drive _ (.queued id) e ys))
            (.going ((n.returning _).drive _ .immediate e ys)) :=
          .opens apart back rfl fun y mem => listed y (Arrangement.mem_of_apply arranged mem)
        rw [drive_returning, drive_returning] at opens
        exact opens

/-- A post takes the same course on both sides. -/
lemma post (h : P.InStep m n) (buses : ∀ k, s₀.buses.get? k = m.state.buses.get? k) (bus : Nat)
    (e : Event) : P.Paired p s₀ (.going (m.post bus e)) (.going (n.post bus e)) := by
  cases found : m.state.buses.get? bus with
  | none =>
    have found' : n.state.buses.get? bus = none := by rw [h.state.buses, found]; rfl
    rw [Machine.post_unknown found, Machine.post_unknown found']
    exact .going (h.returning h.state)
  | some b =>
    have found' : n.state.buses.get? bus = some (P.bus b) := by rw [h.state.buses, found]; rfl
    have listed (t : EventType) {xs : List (Subscriber H)}
        (resolved : b.registry.resolve m.state.hierarchy t = xs) : ∀ x ∈ xs, s₀.Lists x := by
      rintro x mem
      rw [← resolved, Registry.resolve, List.mem_flatMap] at mem
      obtain ⟨u, _, mem⟩ := mem
      exact ⟨bus, b, u, by rw [buses, found], mem⟩
    have resolve (t : EventType) :
        (P.bus b).registry.resolve n.state.hierarchy t =
          b.registry.resolve m.state.hierarchy t := by
      rw [h.state.hierarchy]
      rfl
    rw [Machine.post_eq found, Machine.post_eq found', resolve, resolve]
    cases heard : b.registry.resolve m.state.hierarchy e.type with
    | cons x xs => exact h.dispatch ((h.state.resolve b e.type).emit _) _ e (listed _ heard)
    | nil =>
      dsimp only
      split
      · exact .going (h.returning ((h.state.resolve b e.type).emit _))
      · have mourned := h.state.mourned b bus e
        cases heard' : b.registry.resolve m.state.hierarchy .deadEvent with
        | cons x xs => exact h.dispatch (mourned.emit _) _ _ (listed _ heard')
        | nil => exact .going (h.returning (mourned.emit _))

/-- A handler is invoked on both sides. -/
lemma invoke (h : P.InStep m n) (similar : P.Similar p p') (e : Event) (x : Subscriber H) :
    P.Paired p s₀ (Machine.invoke p m e x) (Machine.invoke p' n e x) := by
  unfold Machine.invoke
  rw [h.thread, h.state.lockedOut]
  split
  · exact .stuck
  · refine .going ⟨(h.state.enter _ _).emit _, rfl, .cons .handling h.stack, ?_⟩
    dsimp only
    cases x.given e with
    | some v => exact .run (similar.handle x.code v)
    | none => exact .unwind

/-- A delivery is made, put off or handed over on both sides. -/
lemma deliver (h : P.InStep m n) (similar : P.Similar p p') (order : DispatchOrder) (e : Event)
    (x : Subscriber H) :
    P.Paired p s₀ (Machine.deliver p m order e x) (Machine.deliver p' n order e x) := by
  have submitted := h.state.emit (.submitted m.thread order e x)
  unfold Machine.deliver
  rw [h.thread]
  cases x.executor with
  | direct =>
    have inStep : P.InStep
        { m with state := m.state.emit (.submitted m.thread order e x) }
        { n with state := n.state.emit (.submitted m.thread order e x), thread := m.thread } :=
      ⟨submitted, rfl, h.stack, h.control⟩
    exact inStep.invoke similar e x
  | deferred =>
    refine .going (h.returning ?_)
    exact { submitted with backlog := congrArg (· ++ [⟨x, e⟩]) submitted.backlog }
  | pool =>
    refine .going (h.returning ?_)
    have handed := submitted.emit (.handedOff e x)
    exact { handed with pool := congrArg (· ++ [⟨x, e⟩]) handed.pool }

/-- A failure is reported on both sides. -/
lemma report (h : P.InStep m n) (similar : P.Similar p p') (failure : Failure) (e : Event)
    (x : Subscriber H) :
    P.InStep (Machine.report p m m.state m.stack failure e x)
      (Machine.report p' n n.state n.stack failure e x) := by
  have reported := h.state.emit (.reported failure (x.failureContext e))
  unfold Machine.report
  dsimp only
  cases x.desk.policy with
  | log => exact ⟨reported.emit _, h.thread, h.stack, .back⟩
  | custom code =>
    exact ⟨reported, h.thread, .cons .reporting h.stack, .run (similar.report ..)⟩

/-- Where a script has ended, both sides go on, or come to an end. -/
lemma finish (h : P.InStep m n) (similar : P.Similar p p') {r r' : Except Failure Unit}
    (result : P.Result r r') :
    P.Paired p s₀ (Machine.finish p m r) (Machine.finish p' n r') := by
  obtain ⟨s, t, stack, control⟩ := m
  obtain ⟨s', t', stack', control'⟩ := n
  obtain ⟨state, thread, frames, _⟩ := h
  dsimp only at state thread frames
  subst thread
  unfold Machine.finish
  cases frames with
  | nil => exact .ended state
  | cons frame frames =>
    cases frame with
    | @handling e x =>
      have left := state.leave x
      have below : P.InStep ⟨s.leave x, t', _, .back⟩ ⟨s'.leave x, t', _, .back⟩ :=
        ⟨left, rfl, frames, .back⟩
      obtain rfl | ⟨lenient, rfl⟩ := result
      · cases r' with
        | ok _ => exact .going ⟨left.emit _, rfl, frames, .back⟩
        | error failure => exact .going (below.report similar failure e x)
      · cases r with
        | ok _ => exact .going ⟨left.emit _, rfl, frames, .back⟩
        | error failure => exact .fails lenient below rfl
    | reporting =>
      obtain rfl | ⟨lenient, rfl⟩ := result
      · cases r' with
        | ok _ => exact .going ⟨state, rfl, frames, .back⟩
        | error _ => exact .going ⟨state.emit _, rfl, frames, .back⟩
      · cases r with
        | ok _ => exact .going ⟨state, rfl, frames, .back⟩
        | error _ =>
          exact .going ⟨state.emit_left (P.untold_reportFailed lenient), rfl, frames, .back⟩
    | resume h => exact .going ⟨state, rfl, .cons (.resume h) frames, .back⟩
    | deliveries => exact .going ⟨state, rfl, .cons .deliveries frames, .back⟩
    | drain h => exact .going ⟨state, rfl, .cons (.drain h) frames, .back⟩
    | join => exact .going ⟨state, rfl, .cons .join frames, .back⟩
    | backlog h => exact .going ⟨state, rfl, .cons (.backlog h) frames, .back⟩
    | pool => exact .going ⟨state, rfl, .cons .pool frames, .back⟩

/-- A script takes the same step on both sides. -/
lemma run (h : P.InStep m n) (similar : P.Similar p p') {script : Script H σ ε}
    {script' : Script H σ' ε} (same : P.Matches script script') :
    P.Paired p m.state (Machine.runScript p m script) (Machine.runScript p' n script') := by
  cases same with
  | finish result => exact h.finish similar result
  | panic => exact .going ⟨h.state, h.thread, h.stack, .unwind⟩
  | note next => exact .going ⟨h.state.emit _, h.thread, h.stack, .run next⟩
  | inspect next =>
    have next := next _ _ n.thread h.state
    refine .going ⟨h.state, h.thread, h.stack, .run ?_⟩
    rw [← h.thread]
    exact next
  | update change next =>
    refine .going ⟨?_, h.thread, h.stack, .run next⟩
    exact { h.state with user := change _ _ h.state.user }
  | @declare types _ _ next =>
    refine .going ⟨?_, h.thread, h.stack, .run next⟩
    exact { h.state with
      hierarchy := congrArg (types.foldl fun h d => h.declare d.1 d.2) h.state.hierarchy }
  | newDispatcher next =>
    refine .going ⟨?_, h.thread, h.stack, .run ?_⟩
    · exact { h.state with dispatcherCount := congrArg (· + 1) h.state.dispatcherCount }
    · rw [h.state.dispatcherCount]
      exact next _
  | @build plan _ _ next =>
    obtain ⟨state, handle⟩ := h.state.build plan
    refine .going ⟨state, h.thread, h.stack, .run ?_⟩
    rw [handle]
    exact next _
  | @register bus target bs _ _ next =>
    obtain ⟨state, added⟩ := h.state.register bus target bs
    refine .going ⟨state, h.thread, h.stack, .run ?_⟩
    rw [added]
    exact next _
  | @unregister bus target bs _ _ next =>
    obtain ⟨state, removed⟩ := h.state.unregister bus target bs
    refine .going ⟨state, h.thread, h.stack, .run ?_⟩
    rw [removed]
    exact next _
  | @post bus e elsewhere rest rest' next =>
    cases elsewhere with
    | false =>
      have aside : P.InStep { m with stack := .resume rest :: m.stack }
          { n with stack := .resume rest' :: n.stack } :=
        ⟨h.state, h.thread, .cons (.resume next) h.stack, h.control⟩
      exact aside.post (fun _ => rfl) bus e
    | true =>
      have aside : P.InStep
          { m with state := { m.state with threadCount := m.state.threadCount + 1 }
                   thread := m.state.threadCount
                   stack := .join m.thread :: .resume rest :: m.stack }
          { n with state := { n.state with threadCount := n.state.threadCount + 1 }
                   thread := n.state.threadCount
                   stack := .join n.thread :: .resume rest' :: n.stack } := by
        refine ⟨?_, h.state.threadCount, ?_, h.control⟩
        · exact { h.state with threadCount := congrArg (· + 1) h.state.threadCount }
        · rw [h.thread]
          exact .cons .join (.cons (.resume next) h.stack)
      refine aside.post ?_ bus e
      intro k
      rfl
  | runBacklog next => exact .going ⟨h.state, h.thread, .cons (.backlog next) h.stack, .back⟩

/-- Both sides go back to the frame on top. -/
lemma goBack (h : P.InStep m n) (similar : P.Similar p p') (back : m.control = .back) :
    P.Paired p m.state (Machine.goBack p m) (Machine.goBack p' n) := by
  have whole := h
  obtain ⟨s, t, stack, control⟩ := m
  obtain ⟨s', t', stack', control'⟩ := n
  obtain ⟨state, thread, frames, like⟩ := h
  dsimp only at state thread frames like back
  subst thread back
  cases like
  unfold Machine.goBack
  cases frames with
  | nil => exact .ended state
  | @cons _ _ fs fs' frame frames =>
    have below : P.InStep ⟨s, t', fs, .back⟩ ⟨s', t', fs', .back⟩ := ⟨state, rfl, frames, .back⟩
    cases frame with
    | resume next => exact .going ⟨state, rfl, frames, .run next⟩
    | @deliveries order u e xs =>
      cases xs with
      | nil => exact .going below
      | cons x xs =>
        have rest : P.InStep ⟨s, t', .deliveries order u e xs :: _, .back⟩
            ⟨s', t', .deliveries order u e xs :: _, .back⟩ :=
          ⟨state, rfl, .cons .deliveries frames, .back⟩
        exact rest.deliver similar order e x
    | @drain d u apart =>
      dsimp only
      obtain ⟨left, right⟩ | ⟨_, _, next, left, right, dequeued⟩ := state.dequeue apart (d, u)
      · rw [left, right]
        exact .going ⟨state.closeQueue apart _, rfl, frames, .back⟩
      · rw [left, right]
        exact .going (whole.entering dequeued .deliveries)
    | handling => exact whole.finish similar (.inl rfl)
    | reporting => exact whole.finish similar (.inl rfl)
    | join => exact .going ⟨state, rfl, frames, .back⟩
    | @backlog limit newestFirst done rest rest' next =>
      have ends : P.Paired p s (.going ⟨s, t', fs, .run (rest done)⟩)
          (.going ⟨s', t', fs', .run (rest' done)⟩) :=
        .going ⟨state, rfl, frames, .run (next done)⟩
      dsimp only
      split
      · rename_i w left
        obtain ⟨_, right, taken⟩ := state.takes left
        rw [right]
        have ready : P.InStep ⟨_, t', .backlog limit newestFirst (done + 1) rest :: fs, .back⟩
            ⟨_, t', .backlog limit newestFirst (done + 1) rest' :: fs', .back⟩ :=
          ⟨taken, rfl, .cons (.backlog next) frames, .back⟩
        exact ready.invoke similar w.event w.subscriber
      · rename_i left
        rw [state.takes_none left]
        exact ends
    | pool =>
      dsimp only
      obtain ⟨left, right⟩ | ⟨_, _, w, left, right, taken⟩ := state.takePool
      · rw [left, right]
        exact .going below
      · rw [left, right]
        have ready : P.InStep ⟨_, t', .pool :: _, .back⟩ ⟨_, t', .pool :: _, .back⟩ :=
          ⟨taken, rfl, .cons .pool frames, .back⟩
        exact ready.invoke similar w.event w.subscriber

/-- A panic gives up the same frame on both sides. -/
lemma unwind (h : P.InStep m n) (payload : Payload) (unwind : m.control = .unwind payload) :
    P.Paired p m.state (Machine.unwind m payload) (Machine.unwind n payload) := by
  obtain ⟨s, t, stack, control⟩ := m
  obtain ⟨s', t', stack', control'⟩ := n
  obtain ⟨state, thread, frames, like⟩ := h
  dsimp only at state thread frames like unwind
  subst thread unwind
  cases like
  unfold Machine.unwind
  cases frames with
  | nil => exact .ended state
  | cons frame frames =>
    cases frame with
    | resume next => exact .going ⟨state, rfl, frames, .unwind⟩
    | deliveries => exact .going ⟨state, rfl, frames, .unwind⟩
    | drain apart => exact .going ⟨state.closeQueue apart _, rfl, frames, .unwind⟩
    | handling => exact .going ⟨state.leave _, rfl, frames, .unwind⟩
    | reporting => exact .going ⟨state.emit _, rfl, frames, .back⟩
    | join => exact .going ⟨state, rfl, frames, .unwind⟩
    | backlog next => exact .going ⟨state, rfl, frames, .unwind⟩
    | pool => exact .going ⟨state.emit _, rfl, .cons .pool frames, .back⟩

end InStep

/-- Machines in step make the next step together. -/
theorem InStep.step {p : Program H σ ε} {p' : Program H σ' ε} {m : Machine H σ ε}
    {n : Machine H σ' ε} (h : P.InStep m n) (similar : P.Similar p p') :
    P.Paired p m.state (Machine.step p m) (Machine.step p' n) := by
  have control := h.control
  unfold Machine.step
  generalize left : m.control = c at control ⊢
  generalize n.control = c' at control ⊢
  cases control with
  | run same => exact h.run similar same
  | back => exact h.goBack similar left
  | unwind => exact h.unwind _ left

end Pairing

end EventBus
