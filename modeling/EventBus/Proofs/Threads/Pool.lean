import EventBus.Bus.Log
import EventBus.Proofs.Failure.Unwinding
import EventBus.Proofs.Routing.Snapshot
import EventBus.Proofs.Threads.Nesting

/-!
# The pool

What is handed to the pool, and what becomes of it. A step has nothing to do with the pool, or it
hands a delivery to it, or it is one of three steps of the pool itself: it makes the delivery that
has waited longest, it catches a panic, and it comes to rest when nothing waits any more
(`step_executes`). So the deliveries that were handed off are at any time those that the pool has
made and those that wait, in this order (`Later.account`), and the pool makes them on its own
thread, where it is under everything that runs (`Reachable.grounded`).
-/

namespace EventBus

variable {H σ ε : Type}

namespace Occurrence

/-- Whether an occurrence tells of a delivery that is handed to the pool, of a handler that is
called, or of a panic that the pool has caught. -/
def isExecution : Occurrence H ε → Bool
  | handedOff _ _ | invoked _ _ _ | poolPanicked _ => true
  | _ => false

/-- The delivery that was handed to the pool. -/
def handOff? : Occurrence H ε → Option (Event × Subscriber H)
  | handedOff e x => some (e, x)
  | _ => none

/-- The delivery that a handler was called for, if it was for the pool to make. -/
def poolRun? : Occurrence H ε → Option (Event × Subscriber H)
  | invoked _ e x => if x.executor = .pool then some (e, x) else none
  | _ => none

/-- The record of an error that an executor leaves in the log. -/
def executorError? (o : Occurrence H ε) : Option LogRecord :=
  o.logRecord?.filter fun r => r.level = .error ∧ r.area = "executor"

variable {o : Occurrence H ε}

/-- What is routine is no execution. -/
lemma not_isExecution_of_isRoutine (routine : o.isRoutine) : o.isExecution = false := by
  cases o <;> first | rfl | cases routine

/-- Nor is a decision. -/
lemma not_isExecution_of_isDecision (decision : o.isDecision) : o.isExecution = false := by
  cases o <;> first | rfl | cases decision

/-- Without an execution nothing is handed off. -/
lemma handOff?_of_not_isExecution (other : o.isExecution = false) : o.handOff? = none := by
  cases o <;> first | rfl | cases other

/-- Nor is anything made by the pool. -/
lemma poolRun?_of_not_isExecution (other : o.isExecution = false) : o.poolRun? = none := by
  cases o <;> first | rfl | cases other

/-- Nor does the executor fail. -/
lemma executorError?_of_not_isExecution (other : o.isExecution = false) :
    o.executorError? = none := by
  cases o with
  | considered target b a => cases a <;> rfl
  | handedOff | invoked | poolPanicked => cases other
  | _ => rfl

end Occurrence

/-- The deliveries that were handed to the pool, in order. -/
def handOffsOf (os : List (Occurrence H ε)) : List (Event × Subscriber H) :=
  os.filterMap (·.handOff?)

/-- The deliveries that the pool has made, in order. -/
def poolRunsOf (os : List (Occurrence H ε)) : List (Event × Subscriber H) :=
  os.filterMap (·.poolRun?)

/-- The records of errors that executors left in the log, in order. -/
def executorErrorsOf (os : List (Occurrence H ε)) : List LogRecord :=
  os.filterMap (·.executorError?)

section Append

variable (os os' : List (Occurrence H ε))

@[simp] lemma handOffsOf_append : handOffsOf (os ++ os') = handOffsOf os ++ handOffsOf os' :=
  List.filterMap_append

@[simp] lemma poolRunsOf_append : poolRunsOf (os ++ os') = poolRunsOf os ++ poolRunsOf os' :=
  List.filterMap_append

@[simp] lemma executorErrorsOf_append :
    executorErrorsOf (os ++ os') = executorErrorsOf os ++ executorErrorsOf os' :=
  List.filterMap_append

end Append

/-- To call a subscriber of the pool is a run of the pool. -/
lemma poolRunsOf_invoked {x : Subscriber H} (t : Nat) (e : Event) (pooled : x.executor = .pool) :
    poolRunsOf [(.invoked t e x : Occurrence H ε)] = [(e, x)] := by
  simp [poolRunsOf, Occurrence.poolRun?, pooled]

/-- A delivery as the event and the subscriber. -/
def Work.delivery (w : Work H) : Event × Subscriber H := (w.event, w.subscriber)

def Frame.isPool : Frame H σ ε → Bool
  | pool => true
  | _ => false

namespace State

/-- Between two states the trace grew, and `os` tells what was handed off, called and caught. -/
abbrev Executes (s s' : State H σ ε) (os : List (Occurrence H ε)) : Prop :=
  Adds (·.isExecution) s s' os

/-- What waits in the backlog and in the pool was meant to wait there. -/
structure Shelved (s : State H σ ε) : Prop where
  backlog : ∀ w ∈ s.backlog, w.subscriber.executor = .deferred
  pool : ∀ w ∈ s.pool, w.subscriber.executor = .pool

/-- Between two states nothing was put off or taken up, and no handler called. -/
structure Aside (s s' : State H σ ε) : Prop where
  backlog : s'.backlog = s.backlog
  pool : s'.pool = s.pool
  executes : s.Executes s' []

namespace Aside

variable {s s' s'' : State H σ ε}

/-- A state with the same backlog, pool and trace differs only aside. -/
lemma of_eq (backlog : s'.backlog = s.backlog) (pool : s'.pool = s.pool)
    (trace : s'.trace = s.trace) : s.Aside s' :=
  ⟨backlog, pool, .of_eq trace⟩

/-- So does the state itself. -/
lemma refl (s : State H σ ε) : s.Aside s := .of_eq rfl rfl rfl

/-- Two steps aside make one. -/
lemma trans (h : s.Aside s') (h' : s'.Aside s'') : s.Aside s'' :=
  ⟨h'.backlog.trans h.backlog, h'.pool.trans h.pool, h.executes.trans h'.executes⟩

/-- To tell of something that is no execution is a step aside. -/
lemma emit (h : s.Aside s') {o : Occurrence H ε} (other : o.isExecution = false) :
    s.Aside (s'.emit o) :=
  ⟨h.backlog, h.pool, h.executes.skip other⟩

/-- What is shelved stays so. -/
lemma shelved (h : s.Aside s') (shelved : s.Shelved) : s'.Shelved := by
  refine ⟨?_, ?_⟩
  · rw [h.backlog]
    exact shelved.backlog
  · rw [h.pool]
    exact shelved.pool

end Aside

/-- What was added by two steps is what each of them added. -/
lemma since_trans {s s' s'' : State H σ ε} (grown : ∃ os, s'.trace.toList = s.trace.toList ++ os)
    (grown' : ∃ os, s''.trace.toList = s'.trace.toList ++ os) :
    s''.since s = s'.since s ++ s''.since s' := by
  obtain ⟨added, grown⟩ := grown
  obtain ⟨added', grown'⟩ := grown'
  rw [since, since, since, grown', List.drop_left, grown, List.drop_left, List.append_assoc,
    List.drop_left]

/-- Between two states the deliveries that waited for the pool and those that were handed to it came
to be made or to wait, in this order. -/
def Balanced (s s' : State H σ ε) : Prop :=
  ∃ added, s'.trace.toList = s.trace.toList ++ added ∧
    s.pool.map (·.delivery) ++ handOffsOf added = poolRunsOf added ++ s'.pool.map (·.delivery)

namespace Balanced

variable {s s' s'' : State H σ ε}

/-- An account with no change is balanced. -/
lemma refl (s : State H σ ε) : s.Balanced s :=
  ⟨[], (List.append_nil _).symm, List.append_nil _⟩

/-- Two balanced stretches make one. -/
lemma trans (h : s.Balanced s') (h' : s'.Balanced s'') : s.Balanced s'' := by
  obtain ⟨added, grown, balance⟩ := h
  obtain ⟨added', grown', balance'⟩ := h'
  refine ⟨added ++ added', by rw [grown', grown, List.append_assoc], ?_⟩
  rw [handOffsOf_append, poolRunsOf_append, ← List.append_assoc, balance, List.append_assoc,
    balance', List.append_assoc]

/-- What waited and what was handed off is what was run and what still waits. -/
lemma since (h : s.Balanced s') :
    s.pool.map (·.delivery) ++ handOffsOf (s'.since s) =
      poolRunsOf (s'.since s) ++ s'.pool.map (·.delivery) := by
  obtain ⟨added, grown, balance⟩ := h
  rwa [State.since, grown, List.drop_left]

end Balanced

section Executes

variable {s s' : State H σ ε} {os : List (Occurrence H ε)} (h : s.Executes s' os)
include h

/-- An execution is balanced if the account of its occurrences is. -/
lemma Executes.balanced (balance : s.pool.map (·.delivery) ++ handOffsOf os =
    poolRunsOf os ++ s'.pool.map (·.delivery)) : s.Balanced s' := by
  obtain ⟨added, grown, rfl⟩ := h
  refine ⟨added, grown, ?_⟩
  rw [handOffsOf, filterMap_kept fun _ => Occurrence.handOff?_of_not_isExecution, poolRunsOf,
    filterMap_kept fun _ => Occurrence.poolRun?_of_not_isExecution] at balance
  exact balance

/-- What the pool ran since then is among the occurrences. -/
lemma Executes.poolRunsOf_since : poolRunsOf (s'.since s) = poolRunsOf os := by
  rw [← h.since_eq]
  exact (filterMap_kept (fun _ => Occurrence.poolRun?_of_not_isExecution) _).symm

/-- So are the errors of the executor. -/
lemma Executes.executorErrorsOf_since : executorErrorsOf (s'.since s) = executorErrorsOf os := by
  rw [← h.since_eq]
  exact (filterMap_kept (fun _ => Occurrence.executorError?_of_not_isExecution) _).symm

end Executes

end State

namespace Machine

variable {p : Program H σ ε} {m m' : Machine H σ ε}

/-- The end of a call is a step aside. -/
lemma aside_leave (s : State H σ ε) (x : Subscriber H) : s.Aside (s.leave x) :=
  ⟨(leave_stores s x).1, (leave_stores s x).2, adds_leave s x⟩

/-- So is a queue that is given up. -/
lemma aside_closeQueue (s : State H σ ε) (key : Nat × Nat) : s.Aside (s.closeQueue key) := by
  have closed : s.Aside { s with queues := s.queues.erase key } := .of_eq rfl rfl rfl
  unfold State.closeQueue
  dsimp only
  split
  · exact closed.emit rfl
  · exact closed

/-- So is a call that comes back at once. -/
lemma Acts.aside {t : Nat} {s s' : State H σ ε} {script next : Script H σ ε}
    (acts : Acts t s script s' next) : s.Aside s' :=
  ⟨acts.apart.2.1, acts.apart.2.2,
    acts.adds fun _ => Occurrence.not_isExecution_of_isRoutine⟩

/-- So is a post. -/
lemma aside_post (m : Machine H σ ε) (bus : Nat) (e : Event) :
    m.state.Aside (m.post bus e).state := by
  obtain ⟨buses, queues, trace, same⟩ := post_state m bus e
  refine ⟨?_, ?_, ?_⟩
  · rw [same]
  · rw [same]
  · exact adds_post (fun _ => Occurrence.not_isExecution_of_isRoutine)
      (fun _ => Occurrence.not_isExecution_of_isDecision) m bus e

/-- So is work that is put aside. -/
lemma aside_putAside (m : Machine H σ ε) (next : Script H σ ε) (elsewhere : Bool) :
    m.state.Aside (m.putAside next elsewhere).state := by
  cases elsewhere <;> exact .of_eq rfl rfl rfl

/-- And so is a report. -/
lemma aside_report (m : Machine H σ ε) {s : State H σ ε} (before : m.state.Aside s)
    (rest : List (Frame H σ ε)) (failure : Failure) (e : Event) (x : Subscriber H) :
    m.state.Aside (report p m s rest failure e x).state := by
  have reported : m.state.Aside (s.emit (.reported failure (x.failureContext e))) :=
    before.emit rfl
  unfold report
  cases x.desk.policy with
  | log => exact reported.emit rfl
  | custom code => exact reported

/-- To step inside a handler executes it. -/
lemma executes_inside {s : State H σ ε} (before : m.state.Executes s []) (n : Machine H σ ε)
    (e : Event) (x : Subscriber H) :
    m.state.Executes (n.inside p s e x).state [.invoked n.thread e x] :=
  (before.trans (adds_enter s n.thread x)).emit _

/-- It leaves the backlog and the pool as they are. -/
lemma inside_stores (n : Machine H σ ε) (s : State H σ ε) (e : Event) (x : Subscriber H) :
    (n.inside p s e x).state.backlog = s.backlog ∧ (n.inside p s e x).state.pool = s.pool :=
  enter_stores s n.thread x

/-- A post puts no pool on the stack. -/
lemma Routed.pools (routed : Routed m m') :
    m'.stack.filter (·.isPool) = m.stack.filter (·.isPool) :=
  routed.read_stack (fun _ _ _ _ _ => rfl) (fun _ _ _ => rfl)

/-- What a step has to do with the pool. -/
inductive Executed (m m' : Machine H σ ε) : Prop where
  /-- Nothing: the handlers that are called are for others to call. -/
  | apart {os} (pools : m'.stack.filter (·.isPool) = m.stack.filter (·.isPool))
      (pool : m'.state.pool = m.state.pool) (executes : m.state.Executes m'.state os)
      (others : ∀ o ∈ os, ∃ t e x, o = .invoked t e x ∧ x.executor ≠ .pool)
  /-- A delivery is handed to it. -/
  | handsOff {e x} (pools : m'.stack.filter (·.isPool) = m.stack.filter (·.isPool))
      (pool : m'.state.pool = m.state.pool ++ [⟨x, e⟩])
      (executes : m.state.Executes m'.state [.handedOff e x])
  /-- It makes the delivery that has waited longest. -/
  | runs {w base} (stack : m.stack = .pool :: base)
      (stack' : m'.stack = .handling w.event w.subscriber :: m.stack)
      (pooled : w.subscriber.executor = .pool) (pool : m.state.pool = w :: m'.state.pool)
      (executes : m.state.Executes m'.state [.invoked m.thread w.event w.subscriber])
  /-- It catches a panic. -/
  | survives {payload base} (control : m.control = .unwind payload)
      (stack : m.stack = .pool :: base) (stack' : m'.stack = m.stack)
      (pool : m'.state.pool = m.state.pool)
      (executes : m.state.Executes m'.state [.poolPanicked payload])
  /-- It comes to rest. -/
  | rests {base} (stack : m.stack = .pool :: base) (stack' : m'.stack = base)
      (control : m'.control = .back) (state : m'.state = m.state) (empty : m.state.pool = [])

/-- The pool does not rest while a delivery waits. -/
lemma pool_of_rests {base : List (Frame H σ ε)} (control : m.control = .back)
    (stack : m.stack = .pool :: base) (st : step p m = .going { m with stack := base }) :
    m.state.pool = [] := by
  cases pool : m.state.pool with
  | nil => rfl
  | cons w rest =>
    have taken : m.state.takePool = some ({ m.state with pool := rest }, w) := by
      rw [State.takePool, pool]
    rw [step, control] at st
    simp only [goBack, stack, taken] at st
    have height := congrArg (fun m => m.stack.length) (invoke_turn st)
    simp only [Machine.inside, List.length_cons] at height
    omega

/-- What a step has to do with the pool, where everything waits where it was meant to. -/
theorem step_executes (st : step p m = .going m') (shelved : m.state.Shelved) :
    Executed m m' ∧ m'.state.Shelved := by
  have quiet (aside : m.state.Aside m'.state)
      (pools : m'.stack.filter (·.isPool) = m.stack.filter (·.isPool)) :
      Executed m m' ∧ m'.state.Shelved :=
    ⟨.apart pools aside.pool aside.executes (List.forall_mem_nil _), aside.shelved shelved⟩
  have turn := step_turn st
  cases turn with
  | acts _ acts => exact quiet acts.aside rfl
  | panics | idles => exact quiet (.refl _) rfl
  | @posts bus e elsewhere next _ =>
    refine quiet ((m.aside_putAside next elsewhere).trans (aside_post ..)) ?_
    refine (routed_post (m.putAside next elsewhere) bus e).pools.trans ?_
    cases elsewhere <;> rfl
  | runsBacklog => exact quiet (.refl _) rfl
  | delivered _ stack => exact quiet ((aside_leave ..).emit rfl) (by rw [stack]; rfl)
  | @fails failure e x rest fails =>
    refine quiet (aside_report m (aside_leave m.state x) rest failure e x) ?_
    rw [fails.stack]
    unfold report
    cases x.desk.policy <;> rfl
  | @reported result _ _ _ _ stack =>
    refine quiet ?_ (by rw [stack]; rfl)
    cases result with
    | ok _ => exact .refl _
    | error _ => exact (State.Aside.refl _).emit rfl
  | resumes _ stack | delivers _ stack | joins stack | ran _ stack =>
    exact quiet (.refl _) (by rw [stack]; rfl)
  | @calls order t e x xs base _ stack direct =>
    have submitted : m.state.Aside (m.state.emit (.submitted m.thread order e x)) :=
      (State.Aside.refl _).emit rfl
    obtain ⟨backlog, pool⟩ := inside_stores (p := p)
      { m with stack := .deliveries order t e xs :: base }
      (m.state.emit (.submitted m.thread order e x)) e x
    refine ⟨.apart (by rw [stack]; rfl) pool (executes_inside submitted.executes ..) ?_, ?_, ?_⟩
    · rw [List.forall_mem_singleton]
      exact ⟨_, e, x, rfl, by rw [direct]; rintro ⟨⟩⟩
    · rw [backlog]
      exact shelved.backlog
    · rw [pool]
      exact shelved.pool
  | @defers order t e x xs base _ stack deferred =>
    have submitted : m.state.Aside (m.state.emit (.submitted m.thread order e x)) :=
      (State.Aside.refl _).emit rfl
    refine ⟨.apart (by rw [stack]; rfl) rfl submitted.executes (List.forall_mem_nil _), ?_,
      shelved.pool⟩
    exact List.forall_mem_append.2 ⟨shelved.backlog, List.forall_mem_singleton.2 deferred⟩
  | @handsOff order t e x xs base _ stack pool =>
    have submitted : m.state.Aside (m.state.emit (.submitted m.thread order e x)) :=
      (State.Aside.refl _).emit rfl
    refine ⟨.handsOff (by rw [stack]; rfl) rfl (submitted.executes.emit (.handedOff e x)),
      shelved.backlog, ?_⟩
    exact List.forall_mem_append.2 ⟨shelved.pool, List.forall_mem_singleton.2 pool⟩
  | fetches _ _ dequeued =>
    obtain ⟨q, draining, _, rfl⟩ := dequeue_eq_some dequeued
    exact quiet (.of_eq rfl rfl rfl) rfl
  | closes _ stack _ | breaks _ stack =>
    exact quiet (aside_closeQueue ..) (by rw [stack]; rfl)
  | @takes limit newestFirst done next s w base _ stack taken =>
    obtain ⟨mem, fewer, sub, rfl⟩ := takeBacklog_eq_some taken
    have before : m.state.Executes { m.state with backlog := fewer } [] := .of_eq rfl
    obtain ⟨backlog, pool⟩ := inside_stores (p := p)
      { m with stack := .backlog limit newestFirst (done + 1) next :: base }
      { m.state with backlog := fewer } w.event w.subscriber
    refine ⟨.apart (by rw [stack]; rfl) pool (executes_inside before ..) ?_, ?_, ?_⟩
    · rw [List.forall_mem_singleton]
      exact ⟨_, _, _, rfl, by rw [shelved.backlog w mem]; rintro ⟨⟩⟩
    · rw [backlog]
      exact fun v mem => shelved.backlog v (sub v mem)
    · rw [pool]
      exact shelved.pool
  | pools _ stack taken =>
    obtain ⟨fewer, waits, rfl⟩ := takePool_eq_some taken
    have before : m.state.Executes { m.state with pool := fewer } [] := .of_eq rfl
    obtain ⟨backlog, pool⟩ := inside_stores (p := p) m { m.state with pool := fewer } _ _
    have pooled := shelved.pool
    rw [waits, List.forall_mem_cons] at pooled
    refine ⟨.runs stack rfl pooled.1 ?_ (executes_inside before ..), ?_, ?_⟩
    · rw [pool]
      exact waits
    · rw [backlog]
      exact shelved.backlog
    · rw [pool]
      exact pooled.2
  | rests control stack =>
    exact ⟨.rests stack rfl control rfl (pool_of_rests control stack st), shelved⟩
  | leaves _ stack => exact quiet (aside_leave ..) (by rw [stack]; rfl)
  | catches _ stack => exact quiet ((State.Aside.refl _).emit rfl) (by rw [stack]; rfl)
  | @survives payload base control stack =>
    have before : m.state.Executes m.state [] := .of_eq rfl
    exact ⟨.survives control stack rfl rfl (before.emit (.poolPanicked payload)), shelved.backlog,
      shelved.pool⟩
  | @drops payload f base _ stack lost =>
    refine quiet (.refl _) ?_
    rw [stack]
    cases f with
    | resume | deliveries | backlog => rfl
    | _ => cases lost

/-- In every run, what was put off was meant to be. -/
lemma Reachable.shelved (reach : Reachable p m) : m.state.Shelved := by
  induction reach with
  | first => exact ⟨List.forall_mem_nil _, List.forall_mem_nil _⟩
  | step _ st ih => exact (step_executes st ih).2
  | next user trace script _ st ih =>
    obtain ⟨_, rfl⟩ := stack_of_ended st
    exact ⟨ih.backlog, ih.pool⟩
  | pool _ st ih =>
    obtain ⟨_, rfl⟩ := stack_of_ended st
    exact ih

/-- Each step of a run executes in one of the ways. -/
lemma Reachable.executed (reach : Reachable p m) (st : Machine.step p m = .going m') :
    Executed m m' :=
  (step_executes st reach.shelved).1

/-- What stands on the pool comes and goes, and so does the pool when it is on top. -/
lemma Turn.on_pool (turn : Turn p m m') {fs : List (Frame H σ ε)}
    (stack : m.stack = fs ++ [.pool]) :
    (∃ gs, m'.stack = gs ++ [.pool]) ∨ fs = [] ∧ m'.stack = [] := by
  cases fs with
  | cons f fs => exact .inl (turn.above_base stack)
  | nil =>
    have stack : m.stack = [.pool] := stack
    cases turn with
    | acts | panics | idles | survives => exact .inl ⟨[], stack⟩
    | @posts bus e elsewhere next _ =>
      obtain ⟨gs, above⟩ := m.post_stack next elsewhere bus e
      exact .inl ⟨gs, by rw [above, stack]⟩
    | runsBacklog | pools => exact .inl ⟨[_], congrArg _ stack⟩
    | rests _ stack' =>
      cases stack.symm.trans stack'
      exact .inr ⟨rfl, rfl⟩
    | fails fails => cases stack.symm.trans fails.stack
    | delivered _ stack' | reported _ stack' | resumes _ stack' | delivers _ stack'
    | calls _ stack' | defers _ stack' | handsOff _ stack' | fetches _ stack' | closes _ stack'
    | joins stack' | takes _ stack' | ran _ stack' | breaks _ stack' | leaves _ stack'
    | catches _ stack' => cases stack.symm.trans stack'
    | drops _ stack' lost =>
      cases stack.symm.trans stack'
      exact lost.elim

/-- The pool is under everything that runs on its thread, or it is not there at all. -/
inductive Grounded (m : Machine H σ ε) : Prop where
  | script (none : m.stack.filter (·.isPool) = [])
  | pool {fs} (stack : m.stack = fs ++ [.pool]) (none : fs.filter (·.isPool) = [])
      (thread : m.threads.getLast? = some poolThread)

/-- Where the pool is on top there is nothing else, and it is on its own thread. -/
lemma Grounded.alone (h : m.Grounded) {base : List (Frame H σ ε)}
    (stack : m.stack = .pool :: base) :
    base = [] ∧ m.thread = poolThread := by
  cases h with
  | script none =>
    rw [stack] at none
    cases none
  | @pool fs stack' none thread =>
    rw [stack] at stack'
    cases fs with
    | nil =>
      cases stack'
      rw [Machine.threads, stack] at thread
      exact ⟨rfl, Option.some.inj thread⟩
    | cons f fs =>
      cases stack'
      cases none

/-- The pools on the stack stay as they are, but for the one that comes to rest. -/
lemma Executed.pools (executed : Executed m m') :
    m'.stack.filter (·.isPool) = m.stack.filter (·.isPool) ∨ m.stack = .pool :: m'.stack := by
  cases executed with
  | apart pools _ _ _ => exact .inl pools
  | handsOff pools _ _ => exact .inl pools
  | runs _ stack' _ _ _ => exact .inl (by rw [stack']; rfl)
  | survives _ _ stack' _ _ => exact .inl (by rw [stack'])
  | rests stack stack' _ _ _ => exact .inr (by rw [stack, stack'])

/-- A step keeps the pool at the bottom of the stack. -/
lemma Grounded.step (h : m.Grounded) (executed : Executed m m') (turn : Turn p m m') :
    m'.Grounded := by
  cases h with
  | script none =>
    obtain pools | stack := executed.pools
    · exact .script (pools.trans none)
    · rw [stack] at none
      cases none
  | @pool fs stack none thread =>
    obtain ⟨gs, stack'⟩ | ⟨_, stack'⟩ := turn.on_pool stack
    · refine .pool stack' ?_ ?_
      · obtain pools | rests := executed.pools
        · rw [stack', stack, List.filter_append, List.filter_append, none] at pools
          exact List.append_cancel_right pools
        · -- The pool that would come to rest stands on the one at the bottom.
          rw [stack', stack, ← List.cons_append] at rests
          rw [List.append_cancel_right rests] at none
          cases none
      · obtain ⟨threads, _⟩ | ⟨threads, _⟩ | ⟨threads, _⟩ := turn.threads
        · rwa [threads]
        · rw [threads, Machine.threads, List.getLast?_cons_cons]
          exact thread
        · rw [threads, Machine.threads, List.getLast?_cons_cons] at thread
          exact thread
    · exact .script (by rw [stack']; rfl)

/-- In every run, the pool is the first that is started on its thread. -/
theorem Reachable.grounded (reach : Reachable p m) : m.Grounded := by
  induction reach with
  | first => exact .script rfl
  | step before st ih => exact ih.step (before.executed st) (step_turn st)
  | next => exact .script rfl
  | pool => exact .pool (List.nil_append _).symm rfl rfl

/-- A handler that is not the pool's to call concerns neither the pool nor its log. -/
lemma others_apart {os : List (Occurrence H ε)}
    (others : ∀ o ∈ os, ∃ t e x, o = .invoked t e x ∧ x.executor ≠ .pool) :
    handOffsOf os = [] ∧ poolRunsOf os = [] ∧ executorErrorsOf os = [] := by
  refine ⟨List.filterMap_eq_nil_iff.2 ?_, List.filterMap_eq_nil_iff.2 ?_,
    List.filterMap_eq_nil_iff.2 ?_⟩
  all_goals
    intro o mem
    obtain ⟨t, e, x, rfl, other⟩ := others o mem
  · rfl
  · exact if_neg other
  · rfl

/-- A step keeps the deliveries that wait, and those that are handed off, in their order. -/
lemma Executed.balanced (executed : Executed m m') : m.state.Balanced m'.state := by
  cases executed with
  | apart _ pool executes others =>
    obtain ⟨handOffs, poolRuns, _⟩ := others_apart others
    apply executes.balanced
    rw [handOffs, poolRuns, pool]
    exact List.append_nil _
  | handsOff _ pool executes =>
    apply executes.balanced
    rw [pool, List.map_append]
    rfl
  | @runs w _ _ _ pooled pool executes =>
    apply executes.balanced
    rw [pool, poolRunsOf_invoked _ _ pooled]
    exact List.append_nil _
  | survives _ _ _ pool executes =>
    apply executes.balanced
    rw [pool]
    exact List.append_nil _
  | rests _ _ _ state _ =>
    rw [state]
    exact .refl _

/-- The handlers that a step calls for the pool run on the thread of the pool. -/
lemma Executed.thread (executed : Executed m m') (grounded : m.Grounded) {t : Nat} {e : Event}
    {x : Subscriber H} (mem : .invoked t e x ∈ m'.state.since m.state)
    (pooled : x.executor = .pool) : t = poolThread := by
  cases executed with
  | apart _ _ executes others =>
    rw [executes.mem_since rfl] at mem
    obtain ⟨_, _, _, same, other⟩ := others _ mem
    cases same
    exact absurd pooled other
  | handsOff _ _ executes =>
    rw [executes.mem_since rfl] at mem
    simp at mem
  | runs stack _ _ _ executes =>
    rw [executes.mem_since rfl] at mem
    cases List.mem_singleton.1 mem
    exact (grounded.alone stack).2
  | survives _ _ _ _ executes =>
    rw [executes.mem_since rfl] at mem
    simp at mem
  | rests _ _ _ state _ =>
    rw [state, State.since, List.drop_length] at mem
    cases mem

/-- So does a whole run. -/
theorem Later.balanced (later : Later p m m') (reach : Reachable p m) :
    m.state.Balanced m'.state := by
  induction later with
  | refl => exact .refl _
  | step before st ih => exact ih.trans ((before.reachable reach).executed st).balanced
  | next _ _ _ st ih =>
    obtain ⟨_, rfl⟩ := stack_of_ended st
    exact ih
  | pool _ st ih =>
    obtain ⟨_, rfl⟩ := stack_of_ended st
    exact ih

section Run

variable {hierarchy : Hierarchy} {user : σ} {script : Script H σ ε}

/-- In every run, the deliveries that were handed to the pool are those that it has made and those
that wait for it, in this order. -/
theorem Later.account (later : Later p (start (.initial hierarchy user) script) m) :
    handOffsOf m.state.trace.toList =
      poolRunsOf m.state.trace.toList ++ m.state.pool.map (·.delivery) :=
  (later.balanced (.first ..)).since

/-- And it makes them on its own thread. -/
theorem Later.pool_thread (later : Later p (start (.initial hierarchy user) script) m) {t : Nat}
    {e : Event} {x : Subscriber H} (mem : .invoked t e x ∈ m.state.trace.toList)
    (pooled : x.executor = .pool) : t = poolThread := by
  induction later with
  | refl => cases mem
  | step before st ih =>
    have reach := before.reachable (.first ..)
    rw [trace_of_step st] at mem
    obtain mem | mem := List.mem_append.1 mem
    · exact ih mem
    · exact (reach.executed st).thread reach.grounded mem pooled
  | next _ _ _ st ih =>
    obtain ⟨_, rfl⟩ := stack_of_ended st
    exact ih mem
  | pool _ st ih =>
    obtain ⟨_, rfl⟩ := stack_of_ended st
    exact ih mem

end Run

end Machine

end EventBus
