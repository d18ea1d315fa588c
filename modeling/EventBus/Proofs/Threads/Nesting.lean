import EventBus.Proofs.Routing.Turnover

/-!
# The threads of a run

One thread acts at a time, and those that wait for it to end have put themselves on the stack.
`Machine.threads` lists them, the one that acts first. A step leaves the list alone, puts a thread
on it that has never been there before, or takes the first one off (`Turn.threads`); so no thread
waits for itself (`Reachable.threads`).
-/

namespace EventBus

variable {H σ ε : Type}

/-- The thread that waits at a frame. -/
def Frame.waiter? : Frame H σ ε → Option Nat
  | join waiting => some waiting
  | _ => none

namespace Machine

variable {p : Program H σ ε} {m m' : Machine H σ ε}

/-- The thread that acts, and those that wait for it, innermost first. -/
def threads (m : Machine H σ ε) : List Nat :=
  m.thread :: m.stack.filterMap Frame.waiter?

/-- A call that comes back at once starts no thread. -/
lemma Acts.threadCount {t : Nat} {s s' : State H σ ε} {script next : Script H σ ε}
    (acts : Acts t s script s' next) : s'.threadCount = s.threadCount := by
  cases acts with
  | note | inspect | update | declare | newDispatcher | build => rfl
  | @register bus target bs _ =>
    obtain ⟨_, _, same⟩ := register_state s bus target bs
    rw [same]
  | @unregister bus target bs _ =>
    obtain ⟨_, _, same⟩ := unregister_state s bus target bs
    rw [same]

/-- A post opens a queue at most, and no thread waits there. -/
lemma Routed.waiters (routed : Routed m m') :
    m'.stack.filterMap Frame.waiter? = m.stack.filterMap Frame.waiter? :=
  routed.read_stack (fun _ _ _ _ _ => rfl) (fun _ _ _ => rfl)

/-- Nor does the end of a call. -/
lemma leave_threadCount (s : State H σ ε) (x : Subscriber H) :
    (s.leave x).threadCount = s.threadCount := by
  obtain ⟨locks, same⟩ := s.leave_state x
  rw [same]

/-- Nor does a queue that is given up. -/
lemma closeQueue_threadCount (s : State H σ ε) (key : Nat × Nat) :
    (s.closeQueue key).threadCount = s.threadCount := by
  rw [State.closeQueue]
  split
  · rfl
  · rfl

/-- Nor does to step inside a handler. -/
lemma inside_threadCount (p : Program H σ ε) (m : Machine H σ ε) (s : State H σ ε) (e : Event)
    (x : Subscriber H) : (m.inside p s e x).state.threadCount = s.threadCount := by
  obtain ⟨locks, same⟩ := s.enter_state m.thread x
  show (s.enter m.thread x).threadCount = s.threadCount
  rw [same]

/-- The report of an error is made on the thread that the handler has run on. -/
lemma report_threads (p : Program H σ ε) (m : Machine H σ ε) (s : State H σ ε)
    (rest : List (Frame H σ ε)) (failure : Failure) (e : Event) (x : Subscriber H) :
    (report p m s rest failure e x).threads = m.thread :: rest.filterMap Frame.waiter? ∧
      (report p m s rest failure e x).state.threadCount = s.threadCount := by
  rw [report]
  cases x.desk.policy with
  | log => exact ⟨rfl, rfl⟩
  | custom code => exact ⟨rfl, rfl⟩

/-- What a step makes of the threads: a thread that is new is put on top, or the one on top is done.
-/
lemma Turn.threads (turn : Turn p m m') :
    m'.threads = m.threads ∧ m'.state.threadCount = m.state.threadCount ∨
      m'.threads = m.state.threadCount :: m.threads ∧
        m'.state.threadCount = m.state.threadCount + 1 ∨
      m.threads = m.thread :: m'.threads ∧ m'.state.threadCount = m.state.threadCount := by
  have kept (thread : m'.thread = m.thread)
      (waiters : m'.stack.filterMap Frame.waiter? = m.stack.filterMap Frame.waiter?)
      (count : m'.state.threadCount = m.state.threadCount) :
      m'.threads = m.threads ∧ m'.state.threadCount = m.state.threadCount := by
    rw [Machine.threads, thread, waiters]
    exact ⟨rfl, count⟩
  cases turn with
  | acts _ acts => exact .inl (kept rfl rfl acts.threadCount)
  | panics | idles | survives => exact .inl (kept rfl rfl rfl)
  | @posts bus e elsewhere next _ =>
    have waiters := (routed_post (m.putAside next elsewhere) bus e).waiters
    have thread := (post_back (m.putAside next elsewhere) bus e).1
    obtain ⟨buses, queues, trace, state⟩ := post_state (m.putAside next elsewhere) bus e
    cases elsewhere with
    | false =>
      left
      apply kept thread waiters
      rw [state]
      rfl
    | true =>
      right; left
      rw [Machine.threads, thread, waiters, state]
      exact ⟨rfl, rfl⟩
  | runsBacklog => exact .inl (kept rfl rfl rfl)
  | @delivered _ x _ _ stack =>
    exact .inl (kept rfl (by rw [stack]; rfl) (leave_threadCount m.state x))
  | @fails failure e x rest fails =>
    obtain ⟨threads, count⟩ := report_threads p m (m.state.leave x) rest failure e x
    rw [threads, count, leave_threadCount, Machine.threads, fails.stack]
    exact .inl ⟨rfl, rfl⟩
  | @reported result _ _ _ _ stack =>
    refine .inl (kept rfl (by rw [stack]; rfl) ?_)
    cases result with
    | ok _ => rfl
    | error _ => rfl
  | resumes _ stack | delivers _ stack | ran _ stack | rests _ stack =>
    exact .inl (kept rfl (by rw [stack]; rfl) rfl)
  | calls _ stack _ =>
    exact .inl (kept rfl (by rw [stack]; rfl) (inside_threadCount ..))
  | defers _ stack _ | handsOff _ stack _ | catches _ stack =>
    exact .inl (kept rfl (by rw [stack]; rfl) rfl)
  | fetches _ stack dequeued =>
    obtain ⟨q, draining, _, rfl⟩ := dequeue_eq_some dequeued
    exact .inl (kept rfl rfl rfl)
  | closes _ stack _ | breaks _ stack =>
    exact .inl (kept rfl (by rw [stack]; rfl) (closeQueue_threadCount ..))
  | joins stack =>
    right; right
    rw [Machine.threads, stack]
    exact ⟨rfl, rfl⟩
  | takes _ stack taken =>
    obtain ⟨_, fewer, _, rfl⟩ := takeBacklog_eq_some taken
    exact .inl (kept rfl (by rw [stack]; rfl) (inside_threadCount ..))
  | pools _ stack taken =>
    obtain ⟨fewer, _, rfl⟩ := takePool_eq_some taken
    exact .inl (kept rfl rfl (inside_threadCount ..))
  | @leaves _ _ x _ _ stack =>
    exact .inl (kept rfl (by rw [stack]; rfl) (leave_threadCount m.state x))
  | @drops _ f _ _ stack lost =>
    refine .inl (kept rfl ?_ rfl)
    rw [stack]
    cases f with
    | resume | deliveries | backlog => rfl
    | _ => cases lost

/-- The threads are different ones, and those to come are none of them. -/
structure Nesting (m : Machine H σ ε) : Prop where
  nodup : m.threads.Nodup
  bound : ∀ t ∈ m.threads, t < m.state.threadCount
  /-- The main thread and that of the pool have been there from the start. -/
  two : 2 ≤ m.state.threadCount

/-- A turn keeps the threads nested. -/
lemma Nesting.turn (h : m.Nesting) (turn : Turn p m m') : m'.Nesting := by
  obtain ⟨threads, count⟩ | ⟨threads, count⟩ | ⟨threads, count⟩ := turn.threads
  · refine ⟨threads ▸ h.nodup, ?_, count ▸ h.two⟩
    rw [threads, count]
    exact h.bound
  · refine ⟨?_, ?_, ?_⟩
    · rw [threads, List.nodup_cons]
      refine ⟨?_, h.nodup⟩
      intro mem
      exact absurd (h.bound _ mem) (Nat.lt_irrefl _)
    · intro t mem
      rw [threads] at mem
      rw [count]
      cases mem with
      | head => exact Nat.lt_succ_self _
      | tail _ mem => exact Nat.lt_succ_of_lt (h.bound t mem)
    · rw [count]
      exact Nat.le_succ_of_le h.two
  · have nodup := h.nodup
    have bound := h.bound
    rw [threads] at nodup bound
    refine ⟨nodup.of_cons, ?_, count ▸ h.two⟩
    intro t mem
    rw [count]
    exact bound t (List.mem_cons_of_mem _ mem)

/-- In every run, the threads that act or wait are different ones. -/
theorem Reachable.nesting (reach : Reachable p m) : m.Nesting := by
  have alone (m : Machine H σ ε) (t : Nat) (threads : m.threads = [t])
      (bound : t < m.state.threadCount) (two : 2 ≤ m.state.threadCount) : m.Nesting := by
    refine ⟨?_, ?_, two⟩
    · rw [threads]
      exact List.nodup_singleton t
    · rw [threads]
      exact List.forall_mem_singleton.2 bound
  induction reach with
  | first => exact alone _ mainThread rfl Nat.two_pos (Nat.le_refl 2)
  | step _ st ih => exact ih.turn (step_turn st)
  | next user trace script _ st ih =>
    obtain ⟨_, rfl⟩ := stack_of_ended st
    exact alone _ mainThread rfl (Nat.lt_of_lt_of_le Nat.two_pos ih.two) ih.two
  | pool _ st ih =>
    obtain ⟨_, rfl⟩ := stack_of_ended st
    exact alone _ poolThread rfl (Nat.lt_of_lt_of_le Nat.one_lt_two ih.two) ih.two

/-- A queue is drained on the thread that goes on with the stack, or on one that waits. -/
lemma Coherent.thread_mem {t d u : Nat} {fs : List (Frame H σ ε)} (h : Coherent t fs)
    (mem : .drain d u ∈ fs) : u ∈ t :: fs.filterMap Frame.waiter? := by
  induction h with
  | nil => cases mem
  | @plain t f fs plain h ih =>
    cases mem with
    | head => cases plain
    | tail _ mem =>
      have same : (f :: fs).filterMap Frame.waiter? = fs.filterMap Frame.waiter? := by
        cases f with
        | join => cases plain
        | _ => rfl
      rw [same]
      exact ih mem
  | immediate _ ih =>
    cases mem with
    | tail _ mem => exact ih mem
  | queued _ ih =>
    cases mem with
    | tail _ mem => exact ih mem
  | drain _ _ ih =>
    cases mem with
    | head => exact List.mem_cons_self
    | tail _ mem => exact ih mem
  | join _ ih =>
    cases mem with
    | tail _ mem => exact List.mem_cons_of_mem _ (ih mem)

/-- What is under a coherent stack is coherent for the thread that comes back there. -/
lemma Coherent.of_append {t : Nat} {fs gs : List (Frame H σ ε)} (h : Coherent t (fs ++ gs)) :
    ∃ u, Coherent u gs := by
  induction fs generalizing t with
  | nil => exact ⟨t, h⟩
  | cons f fs ih =>
    obtain ⟨u, h⟩ := h.tail
    exact ih h

/-- Above the drain of one thread, no other one acts that drains a queue further down. -/
lemma Nesting.thread_ne (h : m.Nesting) (wf : WellFormed m) {id t d u : Nat}
    {fs rest : List (Frame H σ ε)} (stack : m.stack = fs ++ .drain id t :: rest)
    (below : .drain d u ∈ rest) (other : u ≠ t) : m.thread ≠ u := by
  obtain ⟨v, coherent⟩ := (wf.coherent_of stack).of_append
  obtain ⟨rfl, _, coherent⟩ := coherent.of_drain
  -- The other thread waits for the one that drains.
  have waits : u ∈ rest.filterMap Frame.waiter? := by
    cases coherent.thread_mem below with
    | head => exact absurd rfl other
    | tail _ mem => exact mem
  have nodup := h.nodup
  rw [Machine.threads, stack, List.filterMap_append, List.nodup_cons, List.mem_append] at nodup
  rintro rfl
  exact nodup.1 (.inr waits)

end Machine

end EventBus
