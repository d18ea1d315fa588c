import EventBus.Proofs.Machine.Traffic

/-!
# Moves

What one step of the machine does to its stack, its thread, the queues and the traffic. There are
nine kinds of `Move`, and `step_move` says that every step is one of them; everything about whole
runs is proved from the moves and not from the step function.
-/

namespace EventBus

variable {H σ ε : Type}

namespace Frame

/-- A frame that neither drives events nor waits for a thread. -/
def IsPlain : Frame H σ ε → Prop
  | deliveries _ _ _ _ | drain _ _ | join _ => False
  | _ => True

/-- A frame of a script or a report, under which no handler is running. -/
def IsIdle : Frame H σ ε → Prop
  | resume _ | reporting _ _ | backlog _ _ _ _ => True
  | _ => False

/-- No frame of a script or a report drives events. -/
lemma IsIdle.isPlain {f : Frame H σ ε} (idle : f.IsIdle) : f.IsPlain := by
  cases f <;> first | exact idle | trivial

end Frame

namespace Machine

variable {p : Program H σ ε}

/-- What becomes of a post, once the machine has put aside what it goes on with afterwards. -/
inductive Routed (m m' : Machine H σ ε) : Prop where
  | silent (stack : m'.stack = m.stack) (calm : m.state.Calm m'.state)
  | immediate {e : Event} {xs : List (Subscriber H)}
      (stack : m'.stack = .deliveries .immediate m.thread e xs :: m.stack)
      (queues : m'.state.queues = m.state.queues)
      (backlog : m'.state.backlog = m.state.backlog)
      (traffic : m.state.Traffic m'.state [.dispatched m.thread .immediate e xs])
  | waits {id : Nat} {e : Event} {xs : List (Subscriber H)} {q : List (Pending H)}
      (stack : m'.stack = m.stack)
      (drained : m.state.queues.get? (id, m.thread) = some ⟨q, true⟩)
      (queues : m'.state.queues =
        m.state.queues.set (id, m.thread) ⟨q ++ [⟨e, xs⟩], true⟩)
      (backlog : m'.state.backlog = m.state.backlog)
      (traffic : m.state.Traffic m'.state [.dispatched m.thread (.queued id) e xs])
  | opens {id : Nat} {e : Event} {xs : List (Subscriber H)} {q : List (Pending H)}
      (stack : m'.stack = .drain id m.thread :: m.stack)
      (idle : m.state.queues.get? (id, m.thread) = none ∧ q = [] ∨
        m.state.queues.get? (id, m.thread) = some ⟨q, false⟩)
      (queues : m'.state.queues =
        m.state.queues.set (id, m.thread) ⟨q ++ [⟨e, xs⟩], true⟩)
      (backlog : m'.state.backlog = m.state.backlog)
      (traffic : m.state.Traffic m'.state [.dispatched m.thread (.queued id) e xs])

/-- The machine about to post an event, on its own thread or on a fresh one, with what it goes on
with afterwards put aside. -/
inductive Posting (m m₀ : Machine H σ ε) : Prop where
  | here {next : Script H σ ε} (stack : m₀.stack = .resume next :: m.stack)
      (thread : m₀.thread = m.thread) (calm : m.state.Calm m₀.state)
  | elsewhere {next : Script H σ ε} (stack : m₀.stack = .join m.thread :: .resume next :: m.stack)
      (calm : m.state.Calm m₀.state)

/-- What one step does. -/
inductive Move (m m' : Machine H σ ε) : Prop where
  /-- A script, a handler or a report goes on or ends. -/
  | plain {gs gs' base : List (Frame H σ ε)} (stack : m.stack = gs ++ base)
      (stack' : m'.stack = gs' ++ base) (popped : ∀ f ∈ gs, f.IsPlain)
      (pushed : ∀ f ∈ gs', f.IsIdle) (thread : m'.thread = m.thread)
      (calm : m.state.Calm m'.state)
  /-- An event is posted. -/
  | posted {m₀ : Machine H σ ε} (posting : Posting m m₀) (routed : Routed m₀ m')
      (thread : m'.thread = m₀.thread) (control : m'.control = .back)
  /-- A delivery is submitted and its handler called at once. -/
  | called {order : DispatchOrder} {t : Nat} {e : Event} {x : Subscriber H}
      {xs : List (Subscriber H)} {base : List (Frame H σ ε)}
      (stack : m.stack = .deliveries order t e (x :: xs) :: base)
      (stack' : m'.stack = .handling e x :: .deliveries order t e xs :: base)
      (direct : x.executor = .direct) (thread : m'.thread = m.thread)
      (queues : m'.state.queues = m.state.queues) (backlog : m'.state.backlog = m.state.backlog)
      (traffic : m.state.Traffic m'.state [.submitted m.thread order e x, .invoked m.thread e x])
  /-- A delivery is submitted and put off. -/
  | putOff {order : DispatchOrder} {t : Nat} {e : Event} {x : Subscriber H}
      {xs : List (Subscriber H)} {base : List (Frame H σ ε)}
      (stack : m.stack = .deliveries order t e (x :: xs) :: base)
      (stack' : m'.stack = .deliveries order t e xs :: base)
      (indirect : x.executor ≠ .direct) (thread : m'.thread = m.thread)
      (queues : m'.state.queues = m.state.queues)
      (traffic : m.state.Traffic m'.state [.submitted m.thread order e x])
  /-- A delivery that was put off is made. -/
  | ran {f f' : Frame H σ ε} {e : Event} {x : Subscriber H} {base : List (Frame H σ ε)}
      (stack : m.stack = f :: base) (stack' : m'.stack = .handling e x :: f' :: base)
      (plain : f.IsPlain) (plain' : f'.IsPlain) (due : f = .pool ∨ m.state.backlog ≠ [])
      (thread : m'.thread = m.thread) (queues : m'.state.queues = m.state.queues)
      (traffic : m.state.Traffic m'.state [.invoked m.thread e x])
  /-- The deliveries of an event are over, or given up. -/
  | left {order : DispatchOrder} {t : Nat} {e : Event} {xs : List (Subscriber H)}
      {base : List (Frame H σ ε)} (stack : m.stack = .deliveries order t e xs :: base)
      (stack' : m'.stack = base) (thread : m'.thread = m.thread) (state : m'.state = m.state)
      (control : m'.control = m.control) (why : xs = [] ∨ ∃ payload, m.control = .unwind payload)
  /-- The next event is taken from a queue. -/
  | fetched {d t : Nat} {next : Pending H} {q : List (Pending H)} {draining : Bool}
      {base : List (Frame H σ ε)} (stack : m.stack = .drain d t :: base)
      (stack' : m'.stack =
        .deliveries (.queued d) t next.event next.subscribers :: .drain d t :: base)
      (waiting : m.state.queues.get? (d, t) = some ⟨next :: q, draining⟩)
      (thread : m'.thread = m.thread)
      (queues : m'.state.queues = m.state.queues.set (d, t) ⟨q, draining⟩)
      (backlog : m'.state.backlog = m.state.backlog) (traffic : m.state.Traffic m'.state [])
  /-- A drain is over, or given up. -/
  | closed {d t : Nat} {base : List (Frame H σ ε)} (stack : m.stack = .drain d t :: base)
      (stack' : m'.stack = base) (thread : m'.thread = m.thread)
      (queues : m'.state.queues = m.state.queues.erase (d, t))
      (backlog : m'.state.backlog = m.state.backlog) (traffic : m.state.Traffic m'.state [])
      (control : m'.control = m.control)
      (why : (∀ q, m.state.queues.get? (d, t) = some q → q.waiting = []) ∨
        ∃ payload, m.control = .unwind payload)
  /-- A thread is done, and the one that waits for it goes on. -/
  | joined {waiting : Nat} {base : List (Frame H σ ε)} (stack : m.stack = .join waiting :: base)
      (stack' : m'.stack = base) (thread : m'.thread = waiting) (state : m'.state = m.state)
      (control : m'.control = m.control)

end Machine

namespace State

variable (s : State H σ ε)

/-- Replacing a bus is calm. -/
lemma calm_setBus (b : Bus H) : s.Calm (s.setBus b) := .of_eq rfl rfl rfl

/-- Looking up subscribers is calm. -/
lemma calm_resolve (b : Bus H) (t : EventType) : s.Calm (s.resolve b t).1 := by
  unfold resolve
  apply Calm.emit _ rfl
  cases b.registry.closures.get? t with
  | some _ => exact .refl s
  | none => exact (s.calm_setBus _).emit rfl

/-- What is seen of a dispatch is no traffic. -/
lemma calm_sight (t : Nat) (d : Dispatcher) (e : Event) (xs : List (Subscriber H)) :
    s.Calm (s.sight t d e xs) := by
  unfold sight
  cases d.arrangement
  case plain => exact .refl s
  all_goals exact (Calm.refl s).emit rfl

/-- Entering a handler concerns the locks only. -/
lemma enter_state (t : Nat) (x : Subscriber H) :
    ∃ locks, s.enter t x = { s with locks := locks } := by
  unfold enter
  split
  · exact ⟨s.locks, rfl⟩
  · split <;> exact ⟨_, rfl⟩

/-- So does leaving it. -/
lemma leave_state (x : Subscriber H) : ∃ locks, s.leave x = { s with locks := locks } := by
  unfold leave
  split
  · exact ⟨s.locks, rfl⟩
  · split <;> exact ⟨_, rfl⟩

/-- Entering a handler is calm. -/
lemma calm_enter (t : Nat) (x : Subscriber H) : s.Calm (s.enter t x) := by
  obtain ⟨locks, same⟩ := s.enter_state t x
  rw [same]
  exact .of_eq rfl rfl rfl

/-- Leaving a handler is calm. -/
lemma calm_leave (x : Subscriber H) : s.Calm (s.leave x) := by
  obtain ⟨locks, same⟩ := s.leave_state x
  rw [same]
  exact .of_eq rfl rfl rfl

/-- It is calm to tell of several things that are no traffic. -/
lemma calm_emitAll {s s' : State H σ ε} (calm : s.Calm s') {os : List (Occurrence H ε)}
    (quiet : ∀ o ∈ os, o.isTraffic = false) : s.Calm (s'.emitAll os) := by
  induction os generalizing s' with
  | nil => exact calm
  | cons o os ih =>
    obtain ⟨quiet_o, quiet⟩ := List.forall_mem_cons.1 quiet
    exact ih (calm.emit quiet_o) quiet

/-- An event joins a queue that is being drained. -/
lemma enqueue_of_draining {key : Nat × Nat} {q : List (Pending H)}
    (found : s.queues.get? key = some ⟨q, true⟩) (next : Pending H) :
    s.enqueue key next =
      (({ s with queues := s.queues.set key ⟨q ++ [next], true⟩ }).emit
        (.queued (q ++ [next]).length), true) := by
  simp only [enqueue, found, if_true]

/-- An event opens a queue that nobody drains. -/
lemma enqueue_of_idle {key : Nat × Nat} {q : List (Pending H)}
    (idle : s.queues.get? key = none ∧ q = [] ∨ s.queues.get? key = some ⟨q, false⟩)
    (next : Pending H) :
    s.enqueue key next = ({ s with queues := s.queues.set key ⟨q ++ [next], true⟩ }, false) := by
  obtain ⟨found, rfl⟩ | found := idle
  · simp only [enqueue, found, List.nil_append]
  · simp [enqueue, found]

end State

namespace Machine

variable {p : Program H σ ε} {m m' : Machine H σ ε}

/-- Building a bus is calm. -/
lemma calm_build (s : State H σ ε) (plan : BusPlan H) : s.Calm (build s plan).1 := by
  apply State.Calm.emit
  · exact .of_eq rfl rfl rfl
  · rfl

/-- A registration is calm. -/
lemma calm_register (s : State H σ ε) (bus : Nat) (target : Target) (bs : List (Binding H)) :
    s.Calm (register s bus target bs).1 := by
  unfold register
  split
  · exact .refl s
  · apply State.Calm.emit _ rfl
    apply State.calm_emitAll (s.calm_setBus _)
    intro o mem
    obtain ⟨a, _, rfl⟩ := List.mem_map.1 mem
    rfl

/-- An unregistration is calm. -/
lemma calm_unregister (s : State H σ ε) (bus : Nat) (target : Target) (bs : List (Binding H)) :
    s.Calm (unregister s bus target bs).1 := by
  unfold unregister
  split
  · exact .refl s
  · split
    · exact .refl s
    · apply State.Calm.emit _ rfl
      apply State.Calm.emit _ rfl
      exact s.calm_setBus _

/-- An event is delivered at once, waits in a queue, or opens one. -/
lemma routed_drive {s : State H σ ε} {order : DispatchOrder} {e : Event} {xs : List (Subscriber H)}
    (queues : s.queues = m.state.queues) (backlog : s.backlog = m.state.backlog)
    (traffic : m.state.Traffic s [.dispatched m.thread order e xs]) :
    Routed m (m.drive s order e xs) := by
  cases order with
  | immediate => exact .immediate rfl queues backlog traffic
  | queued id =>
    have opens {q : List (Pending H)}
        (idle : s.queues.get? (id, m.thread) = none ∧ q = [] ∨
          s.queues.get? (id, m.thread) = some ⟨q, false⟩) :
        Routed m (m.drive s (.queued id) e xs) := by
      simp only [drive, s.enqueue_of_idle idle]
      rw [queues] at idle
      exact .opens rfl idle (by rw [← queues]; rfl) backlog traffic
    match found : s.queues.get? (id, m.thread) with
    | none => exact opens (.inl ⟨found, rfl⟩)
    | some ⟨q, false⟩ => exact opens (.inr found)
    | some ⟨q, true⟩ =>
      simp only [drive, s.enqueue_of_draining found]
      rw [queues] at found
      exact .waits rfl found (by rw [← queues]; rfl) backlog (traffic.emit (.queued _))

/-- A dispatch routes its event, whatever calm changes came before. -/
lemma routed_dispatch {s : State H σ ε} (calm : m.state.Calm s) (d : Dispatcher) (e : Event)
    (xs : List (Subscriber H)) : Routed m (m.dispatch s d e xs) := by
  have calm := calm.trans (s.calm_sight m.thread d e xs)
  unfold dispatch
  cases d.arrangement.apply xs with
  | none => exact .silent rfl calm
  | some arranged =>
    exact routed_drive calm.queues calm.backlog (calm.traffic.emit (.dispatched ..))

/-- A post ends with a dispatch, or the event is dropped. -/
lemma routed_post (m : Machine H σ ε) (bus : Nat) (e : Event) : Routed m (m.post bus e) := by
  unfold post
  split
  · exact .silent rfl (.refl _)
  · rename_i b _
    have calm := m.state.calm_resolve b e.type
    split
    · rename_i s x xs resolved
      rw [resolved] at calm
      exact routed_dispatch (calm.emit rfl) b.dispatcher e (x :: xs)
    · rename_i s resolved
      rw [resolved] at calm
      split
      · exact .silent rfl (calm.emit (o := .dropped b.handle e) rfl)
      · -- Nobody listens: a dead event takes the place of the event, and is resolved anew.
        have calm := calm.emit (o := .died b.handle e) rfl
        generalize s.emit (.died b.handle e) = s at calm
        have calm := calm.trans (s.calm_resolve ((s.buses.get? bus).getD b) .deadEvent)
        dsimp only
        split
        · rename_i again
          rw [again] at calm
          exact routed_dispatch (calm.emit rfl) b.dispatcher _ _
        · rename_i again
          rw [again] at calm
          exact .silent rfl (calm.emit (o := .dropped b.handle _) rfl)

/-- Driving an event leaves the thread alone, and the machine goes back. -/
lemma drive_back (m : Machine H σ ε) (s : State H σ ε) (order : DispatchOrder) (e : Event)
    (xs : List (Subscriber H)) :
    (m.drive s order e xs).thread = m.thread ∧ (m.drive s order e xs).control = .back := by
  unfold drive
  cases order with
  | immediate => exact ⟨rfl, rfl⟩
  | queued id => dsimp only; split <;> exact ⟨rfl, rfl⟩

/-- So does a dispatch. -/
lemma dispatch_back (m : Machine H σ ε) (s : State H σ ε) (d : Dispatcher) (e : Event)
    (xs : List (Subscriber H)) :
    (m.dispatch s d e xs).thread = m.thread ∧ (m.dispatch s d e xs).control = .back := by
  unfold dispatch
  dsimp only
  split
  · exact ⟨rfl, rfl⟩
  · exact drive_back ..

/-- And so does a post. -/
lemma post_back (m : Machine H σ ε) (bus : Nat) (e : Event) :
    (m.post bus e).thread = m.thread ∧ (m.post bus e).control = .back := by
  unfold post
  split
  · exact ⟨rfl, rfl⟩
  · split
    · exact dispatch_back ..
    · split
      · exact ⟨rfl, rfl⟩
      · dsimp only
        split
        · exact dispatch_back ..
        · exact ⟨rfl, rfl⟩

/-- To invoke a handler is to enter it, which is the only traffic of the step. -/
lemma invoke_going {e : Event} {x : Subscriber H} (st : invoke p m e x = .going m') :
    m'.stack = .handling e x :: m.stack ∧ m'.thread = m.thread ∧
      m'.state.queues = m.state.queues ∧ m'.state.backlog = m.state.backlog ∧
      m.state.Traffic m'.state [.invoked m.thread e x] := by
  unfold invoke at st
  split at st
  · cases st
  · cases st
    have calm := m.state.calm_enter m.thread x
    exact ⟨rfl, rfl, calm.queues, calm.backlog, calm.traffic.emit (.invoked m.thread e x)⟩

/-- A machine that keeps its stack and is calm makes a move. -/
lemma Move.still (stack : m'.stack = m.stack) (thread : m'.thread = m.thread)
    (calm : m.state.Calm m'.state) : Move m m' := by
  apply Move.plain (List.nil_append _).symm (stack.trans (List.nil_append _).symm) _ _ thread calm
  · exact List.forall_mem_nil _
  · exact List.forall_mem_nil _

/-- A frame is put on the stack without any traffic. -/
lemma Move.push {f : Frame H σ ε} (stack : m'.stack = f :: m.stack) (idle : f.IsIdle)
    (thread : m'.thread = m.thread) (calm : m.state.Calm m'.state) : Move m m' := by
  apply Move.plain (List.nil_append _).symm (stack.trans (List.singleton_append).symm) _ _ thread
    calm
  · exact List.forall_mem_nil _
  · exact List.forall_mem_singleton.2 idle

/-- A frame is taken off the stack without any traffic. -/
lemma Move.pop {f : Frame H σ ε} {base : List (Frame H σ ε)} (stack : m.stack = f :: base)
    (stack' : m'.stack = base) (plain : f.IsPlain) (thread : m'.thread = m.thread)
    (calm : m.state.Calm m'.state) : Move m m' := by
  apply Move.plain (stack.trans (List.singleton_append).symm)
    (stack'.trans (List.nil_append _).symm) _ _ thread calm
  · exact List.forall_mem_singleton.2 plain
  · exact List.forall_mem_nil _

/-- A frame gives way to another one without any traffic. -/
lemma Move.swap {f f' : Frame H σ ε} {base : List (Frame H σ ε)} (stack : m.stack = f :: base)
    (stack' : m'.stack = f' :: base) (plain : f.IsPlain) (idle : f'.IsIdle)
    (thread : m'.thread = m.thread) (calm : m.state.Calm m'.state) : Move m m' := by
  apply Move.plain (stack.trans (List.singleton_append).symm)
    (stack'.trans (List.singleton_append).symm) _ _ thread calm
  · exact List.forall_mem_singleton.2 plain
  · exact List.forall_mem_singleton.2 idle

/-- The end of a script is a move. -/
lemma finish_move {result : Except Failure Unit} (st : finish p m result = .going m') :
    Move m m' := by
  unfold finish at st
  split at st
  · cases st
  · rename_i e x rest stack
    have calm := m.state.calm_leave x
    cases result with
    | ok _ =>
      cases st
      exact .pop stack rfl trivial rfl (calm.emit rfl)
    | error failure =>
      cases st
      unfold report
      have calm := calm.emit (o := .reported failure (x.failureContext e)) rfl
      cases x.desk.policy with
      | log =>
        exact .pop stack rfl trivial rfl (calm.emit rfl)
      | custom code => exact .swap stack rfl trivial trivial rfl calm
  · rename_i failure context rest stack
    cases st
    refine .pop stack rfl trivial rfl ?_
    cases result with
    | ok _ => exact .refl _
    | error _ => exact (State.Calm.refl _).emit rfl
  · cases st
    exact .still rfl rfl (.refl _)

/-- A step of a script is a move. -/
lemma runScript_move {script : Script H σ ε} (st : runScript p m script = .going m') :
    Move m m' := by
  cases script with
  | finish result => exact finish_move st
  | panic payload =>
    cases st
    exact .still rfl rfl (.refl _)
  | note entry next =>
    cases st
    exact .still rfl rfl ((State.Calm.refl _).emit rfl)
  | inspect next =>
    cases st
    exact .still rfl rfl (.refl _)
  | update change next =>
    cases st
    exact .still rfl rfl (.of_eq rfl rfl rfl)
  | declare types next =>
    cases st
    exact .still rfl rfl (.of_eq rfl rfl rfl)
  | newDispatcher next =>
    cases st
    exact .still rfl rfl (.of_eq rfl rfl rfl)
  | build plan next =>
    cases st
    exact .still rfl rfl (calm_build _ plan)
  | register bus target bs next =>
    cases st
    exact .still rfl rfl (calm_register _ bus target bs)
  | unregister bus target bs next =>
    cases st
    exact .still rfl rfl (calm_unregister _ bus target bs)
  | post bus e elsewhere next =>
    cases elsewhere with
    | false =>
      cases st
      have posting : Posting m { m with stack := .resume next :: m.stack } :=
        .here rfl rfl (.refl _)
      exact .posted posting (routed_post _ bus e) (post_back _ bus e).1 (post_back _ bus e).2
    | true =>
      cases st
      have posting : Posting m
          { m with state := { m.state with threadCount := m.state.threadCount + 1 }
                   thread := m.state.threadCount
                   stack := .join m.thread :: .resume next :: m.stack } :=
        .elsewhere rfl (.of_eq rfl rfl rfl)
      exact .posted posting (routed_post _ bus e) (post_back _ bus e).1 (post_back _ bus e).2
  | runBacklog limit newestFirst next =>
    cases st
    exact .push rfl trivial rfl (.refl _)

/-- Making a delivery is a move. -/
lemma deliver_move {order : DispatchOrder} {t : Nat} {e : Event} {x : Subscriber H}
    {xs : List (Subscriber H)} {base : List (Frame H σ ε)}
    (stack : m.stack = .deliveries order t e (x :: xs) :: base)
    (st : deliver p { m with stack := .deliveries order t e xs :: base } order e x = .going m') :
    Move m m' := by
  unfold deliver at st
  have submitted : m.state.Traffic (m.state.emit (.submitted m.thread order e x))
      [.submitted m.thread order e x] :=
    State.Adds.of_eq (s := m.state) rfl |>.emit _
  cases executor : x.executor with
  | direct =>
    simp only [executor] at st
    obtain ⟨stack', thread, queues, backlog, traffic⟩ := invoke_going st
    exact .called stack stack' executor thread queues backlog (submitted.trans traffic)
  | deferred =>
    simp only [executor] at st
    cases st
    exact .putOff stack rfl (by simp [executor]) rfl rfl submitted
  | pool =>
    simp only [executor] at st
    cases st
    exact .putOff stack rfl (by simp [executor]) rfl rfl (submitted.emit (.handedOff e x))

/-- Closing a queue takes it away and says nothing. -/
lemma closeQueue_queues (s : State H σ ε) (key : Nat × Nat) :
    (s.closeQueue key).queues = s.queues.erase key ∧ (s.closeQueue key).backlog = s.backlog ∧
      s.Traffic (s.closeQueue key) [] := by
  have traffic : s.Traffic { s with queues := s.queues.erase key } [] := .of_eq rfl
  unfold State.closeQueue
  dsimp only
  split
  · exact ⟨rfl, rfl, traffic.emit (.interrupted _)⟩
  · exact ⟨rfl, rfl, traffic⟩

/-- What is taken from the backlog was in it, and nothing else changes. -/
lemma takeBacklog_eq_some {s s' : State H σ ε} {newestFirst : Bool} {w : Work H}
    (taken : s.takeBacklog newestFirst = some (s', w)) :
    w ∈ s.backlog ∧
      ∃ rest, (∀ v ∈ rest, v ∈ s.backlog) ∧ s' = { s with backlog := rest } := by
  unfold State.takeBacklog at taken
  split at taken
  · split at taken <;> cases taken
    rename_i last
    exact ⟨List.mem_of_getLast? last, _, fun v => List.mem_of_mem_dropLast, rfl⟩
  · split at taken <;> cases taken
    rename_i backlog
    rw [backlog]
    exact ⟨List.mem_cons_self, _, fun v => List.mem_cons_of_mem w, rfl⟩

/-- What is taken from the pool was in front of it. -/
lemma takePool_eq_some {s s' : State H σ ε} {w : Work H} (taken : s.takePool = some (s', w)) :
    ∃ rest, s.pool = w :: rest ∧ s' = { s with pool := rest } := by
  unfold State.takePool at taken
  split at taken <;> cases taken
  rename_i pool
  exact ⟨_, pool, rfl⟩

/-- The next event is taken from a queue that has it in front. -/
lemma dequeue_eq_some {s s' : State H σ ε} {key : Nat × Nat} {next : Pending H}
    (dequeued : s.dequeue key = some (s', next)) :
    ∃ q draining, s.queues.get? key = some ⟨next :: q, draining⟩ ∧
      s' = { s with queues := s.queues.set key ⟨q, draining⟩ } := by
  unfold State.dequeue at dequeued
  split at dequeued <;> cases dequeued
  rename_i found
  exact ⟨_, _, found, rfl⟩

/-- Going back to the frame on top is a move. -/
lemma goBack_move (st : goBack p m = .going m') : Move m m' := by
  unfold goBack at st
  split at st
  · cases st
  · rename_i stack
    cases st
    exact .pop stack rfl trivial rfl (.refl _)
  · rename_i stack
    cases st
    exact .left stack rfl rfl rfl rfl (.inl rfl)
  · rename_i stack
    exact deliver_move stack st
  · rename_i d t rest stack
    -- The drain goes on with the next event, or it ends because nothing waits.
    split at st
    · rename_i s next dequeued
      obtain ⟨q, draining, waiting, rfl⟩ := dequeue_eq_some dequeued
      cases st
      exact .fetched stack (by rw [← stack]; rfl) waiting rfl rfl rfl (.of_eq rfl)
    · rename_i none
      cases st
      obtain ⟨queues, backlog, traffic⟩ := closeQueue_queues m.state (d, t)
      refine .closed stack rfl rfl queues backlog traffic rfl (.inl ?_)
      intro q found
      obtain ⟨waiting, draining⟩ := q
      cases waiting with
      | nil => rfl
      | cons next q => simp [State.dequeue, found] at none
  · rename_i stack
    cases st
    exact .joined stack rfl rfl rfl rfl
  · rename_i limit newestFirst done next rest stack
    dsimp only at st
    split at st
    · rename_i s w taken
      have taken : m.state.takeBacklog newestFirst = some (s, w) := by
        revert taken
        split <;> simp
      obtain ⟨due, fewer, _, rfl⟩ := takeBacklog_eq_some taken
      obtain ⟨stack', thread, queues, _, traffic⟩ := invoke_going st
      exact .ran stack stack' trivial trivial (.inr (List.ne_nil_of_mem due)) thread queues
        ((State.Adds.of_eq rfl).trans traffic)
    · cases st
      exact .pop stack rfl trivial rfl (.refl _)
  · rename_i rest stack
    split at st
    · rename_i s w taken
      obtain ⟨fewer, _, rfl⟩ := takePool_eq_some taken
      obtain ⟨stack', thread, queues, _, traffic⟩ := invoke_going st
      have stack' : m'.stack = .handling w.event w.subscriber :: .pool :: rest :=
        stack'.trans (congrArg _ stack)
      exact .ran stack stack' trivial trivial (.inl rfl) thread queues
        ((State.Adds.of_eq rfl).trans traffic)
    · cases st
      exact .pop stack rfl trivial rfl (.refl _)
  · exact finish_move st
  · exact finish_move st

/-- Giving up the frame on top is a move. -/
lemma unwind_move {payload : Payload} (control : m.control = .unwind payload)
    (st : unwind m payload = .going m') : Move m m' := by
  unfold unwind at st
  split at st <;> cases st
  · rename_i d t rest stack
    obtain ⟨queues, backlog, traffic⟩ := closeQueue_queues m.state (d, t)
    exact .closed stack rfl rfl queues backlog traffic rfl (.inr ⟨payload, control⟩)
  · rename_i x rest stack
    exact .pop stack rfl trivial rfl (m.state.calm_leave x)
  · rename_i stack
    exact .pop stack rfl trivial rfl ((State.Calm.refl _).emit rfl)
  · rename_i stack
    exact .joined stack rfl rfl rfl rfl
  · exact .still rfl rfl ((State.Calm.refl _).emit rfl)
  · rename_i stack
    exact .pop stack rfl trivial rfl (.refl _)
  · rename_i stack
    exact .left stack rfl rfl rfl rfl (.inr ⟨payload, control⟩)
  · rename_i stack
    exact .pop stack rfl trivial rfl (.refl _)

/-- Every step is a move. -/
theorem step_move (st : step p m = .going m') : Move m m' := by
  unfold step at st
  cases control : m.control with
  | run script =>
    rw [control] at st
    exact runScript_move st
  | back =>
    rw [control] at st
    exact goBack_move st
  | unwind payload =>
    rw [control] at st
    exact unwind_move control st

end Machine

end EventBus
