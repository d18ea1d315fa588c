import EventBus.Proofs.Queue.Dues
import EventBus.Proofs.Queue.Pending

/-!
# What a machine owes

The frames on the stack of a machine, and the queues that are drained below them, read as work that
remains to be done: posts to be made by scripts and reports, and deliveries of events. A post adds
to it what the bus calls for, in whatever order its dispatcher drives events (`Course.owes`); what
the buses offer stays as it is, and nothing happens but what the bus decides (`Course.keeps`).
-/

namespace EventBus

variable {H σ ε : Type}

/-- Between two states the trace grew, and this is what happened meanwhile. -/
def State.Shows (s s' : State H σ ε) (hs : List (Happening H)) : Prop :=
  ∃ added, s'.trace.toList = s.trace.toList ++ added ∧ added.filterMap (·.happening?) = hs

namespace State.Shows

variable {s s' s'' : State H σ ε} {hs hs' : List (Happening H)}

/-- Where the trace stays, nothing is shown. -/
lemma of_eq (same : s'.trace = s.trace) : s.Shows s' [] :=
  ⟨[], by rw [same, List.append_nil], rfl⟩

/-- What two stretches show is what the first shows and then the second. -/
lemma trans (h : s.Shows s' hs) (h' : s'.Shows s'' hs') : s.Shows s'' (hs ++ hs') := by
  obtain ⟨added, grown, rfl⟩ := h
  obtain ⟨added', grown', rfl⟩ := h'
  refine ⟨added ++ added', ?_, List.filterMap_append⟩
  rw [grown', grown, List.append_assoc]

/-- One more occurrence shows what happened, if it is a happening. -/
lemma emit (h : s.Shows s' hs) (o : Occurrence H ε) :
    s.Shows (s'.emit o) (hs ++ o.happening?.toList) := by
  apply h.trans
  refine ⟨[o], by simp [State.emit], ?_⟩
  cases o <;> rfl

/-- An occurrence that is no happening shows nothing. -/
lemma skip (h : s.Shows s' hs) {o : Occurrence H ε} (other : o.happening? = none) :
    s.Shows (s'.emit o) hs := by
  have grown := h.emit o
  rwa [other, Option.toList_none, List.append_nil] at grown

/-- What is shown can be read off the occurrences since a state. -/
lemma since_eq (h : s.Shows s' hs) : (s'.since s).filterMap (·.happening?) = hs := by
  obtain ⟨added, grown, rfl⟩ := h
  rw [since, grown, List.drop_left]

end State.Shows

namespace State

/-- Between two states the buses went on to offer the same, no thread but `t` took a lock, and this
is what happened. -/
structure Keeps (t : Nat) (s s' : State H σ ε) (hs : List (Happening H)) : Prop where
  offers : s'.offers = s.offers
  free : (∀ lock, s.lockedOut t lock = false) → ∀ lock, s'.lockedOut t lock = false
  shows : s.Shows s' hs

/-- The offers depend on the hierarchy and the buses only. -/
lemma offers_congr {s s' : State H σ ε} (hierarchy : s'.hierarchy = s.hierarchy)
    (buses : s'.buses = s.buses) : s'.offers = s.offers := by
  unfold offers
  rw [hierarchy, buses]

namespace Keeps

variable {t : Nat} {s s' s'' : State H σ ε} {hs hs' : List (Happening H)}

/-- Where hierarchy, buses, locks and trace stay, nothing happens. -/
lemma of_eq (hierarchy : s'.hierarchy = s.hierarchy) (buses : s'.buses = s.buses)
    (locks : s'.locks = s.locks) (trace : s'.trace = s.trace) : s.Keeps t s' [] where
  offers := offers_congr hierarchy buses
  free free lock := by
    rw [lockedOut, locks]
    exact free lock
  shows := .of_eq trace

/-- Nothing happens in a state that stays. -/
lemma refl (t : Nat) (s : State H σ ε) : s.Keeps t s [] := .of_eq rfl rfl rfl rfl

/-- One more occurrence keeps all else. -/
lemma emit (h : s.Keeps t s' hs) (o : Occurrence H ε) :
    s.Keeps t (s'.emit o) (hs ++ o.happening?.toList) :=
  ⟨h.offers, h.free, h.shows.emit o⟩

/-- An occurrence that is no happening keeps everything. -/
lemma skip (h : s.Keeps t s' hs) {o : Occurrence H ε} (other : o.happening? = none) :
    s.Keeps t (s'.emit o) hs :=
  ⟨h.offers, h.free, h.shows.skip other⟩

/-- A thread that is locked out nowhere stays so if one lock changes and admits it afterwards. -/
lemma relock (h : s.Keeps t s' hs) (lock : LockKey) {locks : Table LockKey Holding}
    (others : ∀ k, lock ≠ k → locks.get? k = s'.locks.get? k)
    (admits : s'.lockedOut t lock = false →
      { s' with locks := locks : State H σ ε }.lockedOut t lock = false) :
    s.Keeps t { s' with locks := locks } hs where
  offers := h.offers
  free free k := by
    by_cases here : lock = k
    · subst here
      exact admits (h.free free lock)
    · rw [lockedOut, others k here]
      exact h.free free k
  shows := h.shows

/-- A handler that is entered is locked for its own thread only. -/
lemma enter (h : s.Keeps t s' hs) (x : Subscriber H) : s.Keeps t (s'.enter t x) hs := by
  unfold State.enter
  split
  · exact h
  · split
    · rename_i held found
      refine h.relock x.lock (fun k other => by rw [Table.get?_set, if_neg other]) ?_
      intro admits
      rw [lockedOut, found] at admits
      rw [lockedOut, Table.get?_set, if_pos rfl]
      exact admits
    · refine h.relock x.lock (fun k other => by rw [Table.get?_set, if_neg other]) ?_
      intro _
      rw [lockedOut, Table.get?_set, if_pos rfl]
      exact bne_self_eq_false t

/-- A handler that is left is free again. -/
lemma leave (h : s.Keeps t s' hs) (x : Subscriber H) : s.Keeps t (s'.leave x) hs := by
  unfold State.leave
  split
  · exact h
  · split
    · rename_i thread depth found
      refine h.relock x.lock (fun k other => by rw [Table.get?_set, if_neg other]) ?_
      intro admits
      rw [lockedOut, found] at admits
      rw [lockedOut, Table.get?_set, if_pos rfl]
      exact admits
    · refine h.relock x.lock (fun k other => by rw [Table.get?_erase, if_neg other]) ?_
      intro _
      rw [lockedOut, Table.get?_erase, if_pos rfl]

end Keeps

variable (s : State H σ ε)

/-- A look-up changes nothing that a bus offers. -/
lemma offers_resolve {b : Bus H} {bus : Nat} (found : s.buses.get? bus = some b)
    (number : b.handle.id = bus) (t : EventType) : (s.resolve b t).1.offers = s.offers := by
  funext k
  by_cases here : bus = k
  · subst here
    obtain ⟨r, same, listed⟩ := s.bus_resolve b t found
    rw [offers, offers, same, found, s.hierarchy_resolve]
    exact congrArg (fun l => some (Offer.mk b.handle l b.dispatcher.arrangement)) (funext listed)
  · unfold resolve offers
    cases b.registry.closures.get? t with
    | some _ => rfl
    | none =>
      show ((s.buses.set b.handle.id _).get? k).map _ = _
      rw [Table.get?_set, number, if_neg here]
      rfl

/-- An event without subscribers leaves the offers alone. -/
lemma offers_mourned {b : Bus H} {bus : Nat} (found : s.buses.get? bus = some b)
    (number : b.handle.id = bus) (e : Event) : (s.mourned b bus e).offers = s.offers := by
  obtain ⟨r, same, _⟩ := s.bus_resolve b e.type found
  unfold mourned
  have again :=
    ((s.resolve b e.type).1.emit (.died b.handle e)).offers_resolve same number .deadEvent
  dsimp only
  rw [show ((s.resolve b e.type).1.emit (.died b.handle e)).buses =
    (s.resolve b e.type).1.buses from rfl, same, Option.getD_some, again]
  exact s.offers_resolve found number e.type

/-- Looking up subscribers leaves the locks alone. -/
lemma locks_resolve (b : Bus H) (t : EventType) : (s.resolve b t).1.locks = s.locks := by
  unfold resolve
  cases b.registry.closures.get? t <;> rfl

/-- So does an event without subscribers. -/
lemma locks_mourned (b : Bus H) (bus : Nat) (e : Event) : (s.mourned b bus e).locks = s.locks := by
  unfold mourned
  dsimp only
  rw [locks_resolve]
  exact s.locks_resolve b e.type

end State

/-- Posts that remain to be made. -/
def duePosts (posts : List (Nat × Event)) : Multiset (Due H) :=
  (posts.map fun q => Due.post q.1 q.2 : List (Due H))

section DuePosts

variable (q : Nat × Event) (posts posts' : List (Nat × Event))

@[simp] lemma duePosts_nil : (duePosts [] : Multiset (Due H)) = 0 := rfl

@[simp] lemma duePosts_cons :
    (duePosts (q :: posts) : Multiset (Due H)) = .post q.1 q.2 ::ₘ duePosts posts := rfl

@[simp] lemma duePosts_append :
    (duePosts (posts ++ posts') : Multiset (Due H)) = duePosts posts + duePosts posts' := by
  rw [duePosts, List.map_append]
  rfl

end DuePosts

namespace Machine

/-- What a stack still has to do once it is given a result, where `waiting` tells what is in the
queues. The number goes down whenever nothing of it is done. -/
inductive Owes (c : Conduct H) (waiting : Nat × Nat → List (Pending H)) :
    List (Frame H σ ε) → Except Failure Unit → Multiset (Due H) → Nat → Prop where
  | nil {r} : Owes c waiting [] r 0 0
  | resume {next posts r r' fs owed w} :
    next.Posts posts r →
    Owes c waiting fs r owed w →
    Owes c waiting (.resume next :: fs) r' (duePosts posts + owed) (w + 2)
  | deliveries {order t e xs r fs owed w} :
    Owes c waiting fs (.ok ()) owed w →
    Owes c waiting (.deliveries order t e xs :: fs) r (.delivery ⟨e, xs⟩ ::ₘ owed) w
  | drain {d t r fs owed w} :
    Owes c waiting fs (.ok ()) owed w →
    Owes c waiting (.drain d t :: fs) r (↑((waiting (d, t)).map Due.delivery) + owed)
      (w + (waiting (d, t)).length + 1)
  | handling {e x r fs owed w} :
    Owes c waiting fs (.ok ()) owed w →
    Owes c waiting (.handling e x :: fs) r (duePosts (c.aftermath e x r) + owed) (w + 3)
  | reporting {failure context r fs owed w} :
    Owes c waiting fs (.ok ()) owed w →
    Owes c waiting (.reporting failure context :: fs) r owed (w + 1)

namespace Owes

variable {c : Conduct H} {waiting waiting' : Nat × Nat → List (Pending H)}
  {fs : List (Frame H σ ε)} {r : Except Failure Unit} {owed : Multiset (Due H)} {w d t u : Nat}

/-- Only the queues that are being drained matter. -/
lemma congr (h : Owes c waiting fs r owed w)
    (same : ∀ d t, .drain d t ∈ fs → waiting' (d, t) = waiting (d, t)) :
    Owes c waiting' fs r owed w := by
  induction h with
  | nil => exact .nil
  | resume posts _ ih => exact .resume posts (ih fun d t mem => same d t (.tail _ mem))
  | deliveries _ ih => exact .deliveries (ih fun d t mem => same d t (.tail _ mem))
  | @drain d t _ _ _ _ _ ih =>
    rw [← same d t List.mem_cons_self]
    exact .drain (ih fun d t mem => same d t (.tail _ mem))
  | handling _ ih => exact .handling (ih fun d t mem => same d t (.tail _ mem))
  | reporting _ ih => exact .reporting (ih fun d t mem => same d t (.tail _ mem))

/-- An event that is put into a queue adds itself to what is owed. -/
lemma enqueue (h : Owes c waiting fs r owed w) (coherent : Coherent u fs)
    (mem : .drain d t ∈ fs) {next : Pending H} (longer : waiting' (d, t) = waiting (d, t) ++ [next])
    (same : ∀ key, key ≠ (d, t) → waiting' key = waiting key) :
    ∃ w', Owes c waiting' fs r (.delivery next ::ₘ owed) w' := by
  induction h generalizing u with
  | nil => cases mem
  | resume runs _ ih =>
    obtain ⟨_, ih⟩ := ih (coherent.of_plain trivial) (List.mem_of_ne_of_mem (by rintro ⟨⟩) mem)
    rw [← Multiset.add_cons]
    exact ⟨_, .resume runs ih⟩
  | deliveries _ ih =>
    obtain ⟨_, below, _, _⟩ := coherent.of_deliveries
    obtain ⟨_, ih⟩ := ih below (List.mem_of_ne_of_mem (by rintro ⟨⟩) mem)
    rw [Multiset.cons_swap]
    exact ⟨_, .deliveries ih⟩
  | @drain d' t' r fs owed w h ih =>
    obtain ⟨rfl, once, below⟩ := coherent.of_drain
    by_cases here : (d', t') = (d, t)
    · cases here
      have more : ((waiting' (d, t)).map Due.delivery : Multiset (Due H)) =
          .delivery next ::ₘ ((waiting (d, t)).map Due.delivery : Multiset (Due H)) := by
        rw [longer, List.map_append]
        exact Multiset.coe_eq_coe.2 List.perm_append_comm
      rw [← Multiset.cons_add, ← more]
      -- Further down the queue is not drained again.
      refine ⟨_, .drain (h.congr ?_)⟩
      intro d' t' mem
      apply same
      rintro ⟨⟩
      exact once mem
    · obtain ⟨_, ih⟩ := ih below (List.mem_of_ne_of_mem (by rintro ⟨⟩; exact here rfl) mem)
      rw [← Multiset.add_cons, ← same _ here]
      exact ⟨_, .drain ih⟩
  | handling _ ih =>
    obtain ⟨_, ih⟩ := ih (coherent.of_plain trivial) (List.mem_of_ne_of_mem (by rintro ⟨⟩) mem)
    rw [← Multiset.add_cons]
    exact ⟨_, .handling ih⟩
  | reporting _ ih =>
    obtain ⟨_, ih⟩ := ih (coherent.of_plain trivial) (List.mem_of_ne_of_mem (by rintro ⟨⟩) mem)
    exact ⟨_, .reporting ih⟩

end Owes

variable {m m' : Machine H σ ε} {c : Conduct H} {owed : Multiset (Due H)} {w : Nat}

/-- What is seen of a dispatch changes the trace only. -/
lemma sight_state (s : State H σ ε) (t : Nat) (d : Dispatcher) (e : Event)
    (xs : List (Subscriber H)) : ∃ trace, s.sight t d e xs = { s with trace := trace } := by
  unfold State.sight
  cases d.arrangement
  case plain => exact ⟨s.trace, rfl⟩
  all_goals exact ⟨_, rfl⟩

/-- Driving an event changes queues and trace only. -/
lemma drive_state (m : Machine H σ ε) (s : State H σ ε) (order : DispatchOrder) (e : Event)
    (xs : List (Subscriber H)) :
    ∃ queues trace, (m.drive s order e xs).state = { s with queues := queues, trace := trace } := by
  cases order with
  | immediate => exact ⟨s.queues, s.trace, rfl⟩
  | queued id =>
    have enqueued : ∃ queues trace, (s.enqueue (id, m.thread) ⟨e, xs⟩).1 =
        { s with queues := queues, trace := trace } := by
      unfold State.enqueue
      split
      · dsimp only
        split
        · exact ⟨_, _, rfl⟩
        · exact ⟨_, s.trace, rfl⟩
      · exact ⟨_, s.trace, rfl⟩
    obtain ⟨queues, trace, same⟩ := enqueued
    refine ⟨queues, trace, ?_⟩
    unfold drive
    dsimp only
    split
    · rename_i waits
      rw [waits] at same
      exact same
    · rename_i opens
      rw [opens] at same
      exact same

/-- A dispatch concerns the queues and the trace only. -/
lemma dispatch_state (m : Machine H σ ε) (s : State H σ ε) (d : Dispatcher) (e : Event)
    (xs : List (Subscriber H)) :
    ∃ queues trace,
      (m.dispatch s d e xs).state = { s with queues := queues, trace := trace } := by
  obtain ⟨trace, sighted⟩ := sight_state s m.thread d e xs
  unfold dispatch
  dsimp only
  rw [sighted]
  split
  · exact ⟨s.queues, trace, rfl⟩
  · rename_i arranged _
    obtain ⟨queues, trace', driven⟩ := drive_state m
      (State.emit { s with trace := trace } (.dispatched m.thread d.order e arranged)) d.order e
      arranged
    exact ⟨queues, trace', driven⟩

/-- Whether an event is driven at once, has to wait or opens a queue, its deliveries are owed. -/
lemma drive_owes (wf : WellFormed m) (h : Owes c m.state.waiting m.stack (.ok ()) owed w)
    {s : State H σ ε} (queues : s.queues = m.state.queues) (order : DispatchOrder) (e : Event)
    (xs : List (Subscriber H)) :
    ∃ w', Owes c (m.drive s order e xs).state.waiting (m.drive s order e xs).stack (.ok ())
      (.delivery ⟨e, xs⟩ ::ₘ owed) w' := by
  cases order with
  | immediate =>
    have h : Owes c s.waiting m.stack (.ok ()) owed w :=
      h.congr fun d t _ => waiting_congr queues (d, t)
    exact ⟨w, h.deliveries⟩
  | queued id =>
    by_cases mem : .drain id m.thread ∈ m.stack
    · obtain ⟨q, found⟩ := wf.open_of_mem mem
      have waited := waiting_of_get? found
      rw [← queues] at found
      simp only [drive, s.enqueue_of_draining found]
      apply h.enqueue wf.coherent mem
      · rw [waiting_set rfl, if_pos rfl, waited]
      · intro key other
        rw [waiting_set rfl, if_neg other.symm]
        exact waiting_congr queues key
    · have none := wf.none_of_not_mem mem
      rw [← queues] at none
      have opens : s.enqueue (id, m.thread) ⟨e, xs⟩ =
          ({ s with queues := s.queues.set (id, m.thread) ⟨[] ++ [⟨e, xs⟩], true⟩ }, false) :=
        s.enqueue_of_idle (.inl ⟨none, rfl⟩) _
      simp only [drive, opens]
      have below : Owes c (State.waiting
          { s with queues := s.queues.set (id, m.thread) ⟨[] ++ [⟨e, xs⟩], true⟩ }) m.stack
          (.ok ()) owed w := by
        apply h.congr
        intro d t mem'
        rw [waiting_set rfl, if_neg]
        · exact waiting_congr queues (d, t)
        · rintro ⟨⟩
          exact mem mem'
      have whole := below.drain (d := id) (t := m.thread) (r := .ok ())
      rw [waiting_set rfl, if_pos rfl] at whole
      exact ⟨_, whole⟩

/-- What a dispatch owes are the deliveries of the event, in the order of the dispatcher. -/
lemma dispatch_owes (wf : WellFormed m) (h : Owes c m.state.waiting m.stack (.ok ()) owed w)
    {s : State H σ ε} (queues : s.queues = m.state.queues) (o : Occurrence H ε) (b : Bus H)
    (hierarchy : Hierarchy) (e : Event) (xs : List (Subscriber H)) :
    ∃ w', Owes c (m.dispatch (s.emit o) b.dispatcher e xs).state.waiting
      (m.dispatch (s.emit o) b.dispatcher e xs).stack (.ok ())
      (((b.offer hierarchy).arranged e xs).map Due.delivery + owed) w' := by
  have sighted := ((s.emit o).calm_sight m.thread b.dispatcher e xs).queues.trans queues
  unfold dispatch Offer.arranged
  dsimp only
  rw [show (b.offer hierarchy).arrangement = b.dispatcher.arrangement from rfl]
  cases b.dispatcher.arrangement.apply xs with
  | none =>
    rw [Option.map_none, Option.toList_none, List.map_nil, Multiset.coe_nil, zero_add]
    exact ⟨w, h.congr fun d t _ => waiting_congr sighted (d, t)⟩
  | some arranged =>
    rw [Option.map_some, Option.toList_some, List.map_singleton, Multiset.coe_singleton,
      Multiset.singleton_add]
    generalize (s.emit o).sight m.thread b.dispatcher e xs = s at sighted
    have emitted : (s.emit (.dispatched m.thread b.dispatcher.order e arranged)).queues =
      m.state.queues := sighted
    exact drive_owes wf h emitted b.dispatcher.order e arranged

/-- An event without subscribers leaves the queues alone. -/
lemma mourned_queues (s : State H σ ε) (b : Bus H) (bus : Nat) (e : Event) :
    (s.mourned b bus e).queues = s.queues := by
  unfold State.mourned
  dsimp only
  rw [(State.calm_resolve _ _ _).queues]
  exact (s.calm_resolve b e.type).queues

variable {bus : Nat} {b : Bus H} {e : Event}

/-- A post turns into the deliveries that the bus calls for. -/
lemma Course.owes (course : Course m bus b e m') (wf : WellFormed m)
    (h : Owes c m.state.waiting m.stack (.ok ()) owed w) :
    ∃ w', Owes c m'.state.waiting m'.stack (.ok ())
      (((b.offer m.state.hierarchy).passes e).map Due.delivery + owed) w' := by
  have still {s : State H σ ε} (queues : s.queues = m.state.queues) (o : Occurrence H ε) :
      ∃ w', Owes c (s.emit o).waiting m.stack (.ok ()) (([] : List (Due H)) + owed) w' := by
    rw [Multiset.coe_nil, zero_add]
    exact ⟨w, h.congr fun d t _ => waiting_congr queues (d, t)⟩
  have looked := (m.state.calm_resolve b e.type).queues
  have mourned := mourned_queues m.state b bus e
  unfold Offer.passes
  cases course with
  | @heard xs listed some =>
    rw [show (b.offer m.state.hierarchy).listed e.type = xs from listed]
    obtain ⟨x, xs, rfl⟩ := List.exists_cons_of_ne_nil some
    exact dispatch_owes wf h looked _ b m.state.hierarchy e (x :: xs)
  | dropped none dead =>
    rw [show (b.offer m.state.hierarchy).listed e.type = [] from none]
    dsimp only
    rw [if_pos dead]
    exact still looked _
  | @mourned xs none alive listed some =>
    rw [show (b.offer m.state.hierarchy).listed e.type = [] from none,
      show (b.offer m.state.hierarchy).listed .deadEvent = xs from listed]
    obtain ⟨x, xs, rfl⟩ := List.exists_cons_of_ne_nil some
    dsimp only
    rw [if_neg alive]
    exact dispatch_owes wf h mourned _ b m.state.hierarchy _ (x :: xs)
  | forgotten none alive none' =>
    rw [show (b.offer m.state.hierarchy).listed e.type = [] from none,
      show (b.offer m.state.hierarchy).listed .deadEvent = [] from none']
    dsimp only
    rw [if_neg alive]
    exact still mourned _

/-- What a bus decides about an event, told without threads and dispatchers. -/
lemma Fate.happenings {h : Hierarchy} {t : Nat} {os : List (Occurrence H ε)}
    (fate : Fate h b t e os) :
    os.filterMap (·.happening?) =
      ((b.offer h).deaths e).map (.died b.handle) ++ ((b.offer h).passes e).map .driven := by
  have passed (e : Event) (xs : List (Subscriber H)) :
      (b.dispatcher.passesOn t e xs : List (Occurrence H ε)).filterMap (·.happening?) =
        ((b.offer h).arranged e xs).map .driven := by
    unfold Dispatcher.passesOn Offer.arranged
    rw [show (b.offer h).arrangement = b.dispatcher.arrangement from rfl]
    cases b.dispatcher.arrangement.apply xs <;> rfl
  unfold Offer.deaths Offer.passes
  cases fate with
  | @heard xs listed some =>
    rw [show (b.offer h).listed e.type = xs from listed]
    obtain ⟨x, xs, rfl⟩ := List.exists_cons_of_ne_nil some
    exact passed e (x :: xs)
  | dropped none dead =>
    rw [show (b.offer h).listed e.type = [] from none]
    dsimp only
    rw [if_pos dead, if_pos dead]
    rfl
  | @mourned xs none alive listed some =>
    rw [show (b.offer h).listed e.type = [] from none,
      show (b.offer h).listed .deadEvent = xs from listed]
    obtain ⟨x, xs, rfl⟩ := List.exists_cons_of_ne_nil some
    dsimp only
    rw [if_neg alive, if_neg alive]
    exact congrArg (Happening.died b.handle e :: ·) (passed _ (x :: xs))
  | forgotten none alive none' =>
    rw [show (b.offer h).listed e.type = [] from none,
      show (b.offer h).listed .deadEvent = [] from none']
    dsimp only
    rw [if_neg alive, if_neg alive]
    rfl

/-- No handler is invoked in the course of a post. -/
lemma Routed.quiet (routed : Routed m m') :
    ∃ os, m.state.Traffic m'.state os ∧ invocationsOf os = [] := by
  cases routed with
  | silent _ calm => exact ⟨_, calm.traffic, rfl⟩
  | immediate _ _ _ traffic => exact ⟨_, traffic, rfl⟩
  | waits _ _ _ _ traffic => exact ⟨_, traffic, rfl⟩
  | opens _ _ _ _ traffic => exact ⟨_, traffic, rfl⟩

/-- The happenings of a step that invokes nothing are its decisions. -/
lemma shows_of_decides {s s' : State H σ ε} {os os' : List (Occurrence H ε)}
    (decides : s.Decides s' os) (traffic : s.Traffic s' os') (quiet : invocationsOf os' = []) :
    s.Shows s' (os.filterMap (·.happening?)) := by
  obtain ⟨added, grown, rfl⟩ := decides
  obtain ⟨added', grown', rfl⟩ := traffic
  obtain rfl : added = added' := List.append_cancel_left (grown.symm.trans grown')
  refine ⟨added, grown, ?_⟩
  rw [invocationsOf, filterMap_kept (fun _ => Occurrence.invocation?_of_not_isTraffic),
    List.filterMap_eq_nil_iff] at quiet
  rw [List.filterMap_filter]
  apply List.filterMap_congr
  intro o mem
  have quiet := quiet o mem
  cases o <;> first | rfl | cases quiet

/-- The course of a post shows the deaths and the events that are driven. -/
lemma Course.keeps (found : m.state.buses.get? bus = some b) (number : b.handle.id = bus)
    (course : Course m bus b e m') (routed : Routed m m') :
    m.state.Keeps m.thread m'.state
      (((b.offer m.state.hierarchy).deaths e).map (.died b.handle) ++
        ((b.offer m.state.hierarchy).passes e).map .driven) := by
  obtain ⟨os, decides, fate⟩ := course.fate found
  obtain ⟨_, traffic, quiet⟩ := routed.quiet
  have shows := shows_of_decides decides traffic quiet
  rw [fate.happenings] at shows
  have looked := And.intro (m.state.offers_resolve found number e.type)
    (m.state.locks_resolve b e.type)
  have mourned := And.intro (m.state.offers_mourned found number e) (m.state.locks_mourned b bus e)
  have ground : m'.state.offers = m.state.offers ∧ m'.state.locks = m.state.locks := by
    have dispatched {s : State H σ ε}
        (ground : s.offers = m.state.offers ∧ s.locks = m.state.locks) (o : Occurrence H ε)
        (e : Event) (xs : List (Subscriber H)) :
        (m.dispatch (s.emit o) b.dispatcher e xs).state.offers = m.state.offers ∧
          (m.dispatch (s.emit o) b.dispatcher e xs).state.locks = m.state.locks := by
      obtain ⟨_, _, same⟩ := dispatch_state m (s.emit o) b.dispatcher e xs
      rw [same]
      exact ground
    cases course with
    | heard => exact dispatched looked _ _ _
    | dropped => exact looked
    | mourned => exact dispatched mourned _ _ _
    | forgotten => exact mourned
  refine ⟨ground.1, ?_, shows⟩
  intro free lock
  rw [State.lockedOut, ground.2]
  exact free lock

end Machine

end EventBus
