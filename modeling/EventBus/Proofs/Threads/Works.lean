import EventBus.Proofs.Threads.Locks
import EventBus.Proofs.Threads.Pool

/-!
# The works of the pool

The pool makes one delivery at a time. While something goes on above it, it starts with no other
delivery and logs nothing (`Within.silent`); and whatever the handler does, be it that it posts
events, fails, panics, or is called without a view of its event, the pool goes on when that has come
to its end, having logged the panic if there was one (`runs_of_pool`). So everything that waits is
made, one delivery after the other, as long as no handler goes on for ever (`makes_waiting`).
-/

namespace EventBus

variable {H σ ε : Type}

namespace Machine

variable {p : Program H σ ε} {m m' n n' : Machine H σ ε}

/-- A panic has come as far as `base`: the queues on its way are given up, and nothing else happens.
-/
structure Unwound (payload : Payload) (base : List (Frame H σ ε)) (n n' : Machine H σ ε) :
    Prop where
  control : n'.control = .unwind payload
  stack : n'.stack = base
  trace : ∃ os, n'.state.trace.toList = n.state.trace.toList ++ os ∧
    ∀ o ∈ os, ∃ lost, o = .interrupted lost

/-- The pool has caught a panic, and left one record in the log. -/
structure Survives (payload : Payload) (n n' : Machine H σ ε) : Prop where
  stack : n'.stack = [.pool]
  control : n'.control = .back
  pool : n'.state.pool = n.state.pool
  caught : n.state.Executes n'.state [.poolPanicked payload]
  logged : executorErrorsOf (n'.state.since n.state) =
    [⟨.error, "executor", "Delivery panicked on the tokio blocking pool",
      [("panic", .text payload.logText)]⟩]

/-- A report has caught a panic, which it is logged with, and the deliveries below it go on. -/
structure Stops (payload : Payload) (failure : Failure) (context : FailureContext)
    (base : List (Frame H σ ε)) (n n' : Machine H σ ε) : Prop where
  stack : n'.stack = base
  control : n'.control = .back
  trace : n'.state.trace = n.state.trace.push (.reportPanicked payload failure context)

/-- What comes of a work that the pool makes, from the machine `m` on that starts with it. -/
structure Contained (p : Program H σ ε) (m : Machine H σ ε) (w : Work H) (rest : List (Work H))
    (n : Machine H σ ε) : Prop where
  below : ∃ fs, n.stack = fs ++ [.pool]
  once : poolRunsOf (n.state.since m.state) = [w.delivery]
  pool : n.state.pool.map (·.delivery) =
    rest.map (·.delivery) ++ handOffsOf (n.state.since m.state)
  quiet : executorErrorsOf (n.state.since m.state) = []
  /-- A panic gets to the innermost report of an error. -/
  stops : ∀ payload fs failure context base, n.control = .unwind payload →
    n.stack = fs ++ .reporting failure context :: base → (∀ f ∈ fs, ¬f.IsReport) →
    ∃ n' n'', Within p [.pool] n n' ∧ Unwound payload (.reporting failure context :: base) n n' ∧
      step p n' = .going n'' ∧ Stops payload failure context base n' n''
  /-- If there is none, it gets to the pool. -/
  unwinds : ∀ payload fs, n.control = .unwind payload → n.stack = fs ++ [.pool] →
    (∀ f ∈ fs, ¬f.IsReport) →
    ∃ n' n'', Within p [.pool] n n' ∧ Unwound payload [.pool] n n' ∧ step p n' = .going n'' ∧
      Survives payload n' n''
  /-- The pool goes on with the next work, at once or when it has caught the panic of this one. -/
  ended : n.stack = [.pool] → n.control = .back ∨
    ∃ payload n', n.control = .unwind payload ∧ step p n = .going n' ∧ Survives payload n n'

/-- The pool starts with a work. -/
structure Runs (p : Program H σ ε) (m : Machine H σ ε) (w : Work H) (rest : List (Work H))
    (m' : Machine H σ ε) : Prop where
  stack : m'.stack = [.handling w.event w.subscriber, .pool]
  control : m'.control = opening p w.event w.subscriber
  called : m.state.Executes m'.state [.invoked poolThread w.event w.subscriber]
  pool : m'.state.pool = rest
  contained : ∀ n, Within p [.pool] m' n → Contained p m w rest n
  /-- A handler that is called without a view of the event is a panic like any other. -/
  defect : w.subscriber.given w.event = none →
    ∃ n n', Within p [.pool] m' n ∧ step p n = .going n' ∧
      Survives (.text (w.subscriber.defect w.event).message) n n'

/-- On a handler or a report, or in its place, something goes on until it has ended. -/
lemma Turn.on_body (turn : Turn p m m') {f : Frame H σ ε} {base : List (Frame H σ ε)}
    (stack : m.stack = f :: base) (body : f.IsBody) :
    (∃ gs, m'.stack = gs ++ f :: base) ∨ (∃ f', f'.IsBody ∧ m'.stack = f' :: base) ∨
      m'.stack = base ∧ ∀ script, m'.control ≠ .run script := by
  cases turn with
  | acts | panics | idles | survives => exact .inl ⟨[], stack⟩
  | @posts bus e elsewhere next _ =>
    obtain ⟨gs, above⟩ := m.post_stack next elsewhere bus e
    exact .inl ⟨gs, by rw [above, stack]⟩
  | runsBacklog => exact .inl ⟨[_], congrArg _ stack⟩
  | delivered _ stack' | reported _ stack' | catches _ stack' =>
    cases stack.symm.trans stack'
    exact .inr (.inr ⟨rfl, by rintro _ ⟨⟩⟩)
  | leaves control stack' =>
    cases stack.symm.trans stack'
    exact .inr (.inr ⟨rfl, by rw [control]; rintro _ ⟨⟩⟩)
  | @fails failure e x rest fails =>
    cases stack.symm.trans fails.stack
    unfold report
    cases x.desk.policy with
    | log => exact .inr (.inr ⟨rfl, by rintro _ ⟨⟩⟩)
    | custom code => exact .inr (.inl ⟨.reporting failure (x.failureContext e), trivial, rfl⟩)
  | resumes _ stack' | delivers _ stack' | calls _ stack' | defers _ stack' | handsOff _ stack'
  | fetches _ stack' | closes _ stack' | joins stack' | takes _ stack' | ran _ stack'
  | pools _ stack' | rests _ stack' | breaks _ stack' =>
    cases stack.symm.trans stack'
    exact body.elim
  | drops _ stack' lost =>
    cases stack.symm.trans stack'
    cases f with
    | handling | reporting => exact lost.elim
    | _ => exact body.elim

/-- A work is going on above `base`, or it is over. -/
inductive Working (base : List (Frame H σ ε)) (m : Machine H σ ε) : Prop where
  | going {fs f} (stack : m.stack = fs ++ f :: base) (body : f.IsBody)
  | ended (stack : m.stack = base) (back : ∀ script, m.control ≠ .run script)

/-- A step above the frame stays at work. -/
lemma Working.step {base : List (Frame H σ ε)} (working : Working base m)
    (above : base.length < m.stack.length) (st : Machine.step p m = .going m') :
    Working base m' := by
  have turn := step_turn st
  cases working with
  | ended stack _ => exact absurd stack (stack_ne_of_above above)
  | @going fs f stack body =>
    cases fs with
    | cons g gs =>
      obtain ⟨gs', stack'⟩ := turn.above_base stack
      exact .going stack' body
    | nil =>
      obtain ⟨gs, stack'⟩ | ⟨f', body', stack'⟩ | ⟨stack', ended⟩ := turn.on_body stack body
      · exact .going stack' body
      · exact .going (stack'.trans (List.nil_append _).symm) body'
      · exact .ended stack' ended

/-- At work the frame is never left to go on with a script. -/
lemma Working.not_run {base : List (Frame H σ ε)} (working : Working base m)
    (stack : m.stack = base) (script : Script H σ ε) : m.control ≠ .run script := by
  cases working with
  | going stack' _ =>
    have height := congrArg List.length (stack.symm.trans stack')
    simp only [List.length_append, List.length_cons] at height
    omega
  | ended _ back => exact back script

/-- So it is as long as the run stays above the frame. -/
lemma Working.within {base : List (Frame H σ ε)} (working : Working base m)
    (run : Within p base m n) : Working base n := by
  induction run with
  | refl => exact working
  | tail _ above st ih => exact ih.step above st

/-- Two runs above the frame make one. -/
lemma Within.trans {base : List (Frame H σ ε)} (run : Within p base m n)
    (run' : Within p base n n') : Within p base m n' := by
  induction run' with
  | refl => exact run
  | tail _ above st ih => exact .tail ih above st

/-- A run above a frame is above every lower one. -/
lemma Within.lower {base base' : List (Frame H σ ε)} (lower : base'.length ≤ base.length)
    (run : Within p base m n) : Within p base' m n := by
  induction run with
  | refl => exact .refl
  | tail _ above st ih => exact .tail ih (Nat.lt_of_le_of_lt lower above) st

/-- The pool catches a panic that gets to it. -/
lemma survives_of_unwind {payload : Payload} (control : n.control = .unwind payload)
    (stack : n.stack = [.pool]) : ∃ n', step p n = .going n' ∧ Survives payload n n' := by
  have same : n.state.Executes n.state [] := .of_eq rfl
  have caught := same.emit (.poolPanicked payload)
  have st : step p n =
      .going { n with state := n.state.emit (.poolPanicked payload), control := .back } := by
    rw [step, control]
    dsimp only
    rw [unwind, stack]
  refine ⟨_, st, stack, rfl, rfl, caught, ?_⟩
  exact State.Executes.executorErrorsOf_since caught

/-- And a report catches one that gets to the report. -/
lemma stops_of_unwind {payload : Payload} {failure : Failure} {context : FailureContext}
    {base : List (Frame H σ ε)} (control : n.control = .unwind payload)
    (stack : n.stack = .reporting failure context :: base) :
    ∃ n', step p n = .going n' ∧ Stops payload failure context base n n' := by
  refine ⟨{ n with
    state := n.state.emit (.reportPanicked payload failure context)
    stack := base
    control := .back }, ?_, rfl, rfl, rfl⟩
  rw [step, control]
  dsimp only
  rw [unwind, stack]

/-- Giving up a queue tells of lost deliveries only. -/
lemma closeQueue_trace (s : State H σ ε) (key : Nat × Nat) :
    ∃ os, (s.closeQueue key).trace.toList = s.trace.toList ++ os ∧
      ∀ o ∈ os, ∃ lost, o = .interrupted lost := by
  unfold State.closeQueue
  dsimp only
  split
  · exact ⟨[.interrupted _], Array.toList_push, List.forall_mem_singleton.2 ⟨_, rfl⟩⟩
  · exact ⟨[], (List.append_nil _).symm, List.forall_mem_nil _⟩

/-- A panic unwinds everything that does not catch it. -/
lemma unwinds_to {payload : Payload} {fs base : List (Frame H σ ε)}
    (control : n.control = .unwind payload) (stack : n.stack = fs ++ base)
    (pass : ∀ f ∈ fs, ¬f.IsReport ∧ f ≠ .pool) :
    ∃ n', Within p base n n' ∧ Unwound payload base n n' := by
  induction fs generalizing n with
  | nil => exact ⟨n, .refl, control, stack, [], (List.append_nil _).symm, List.forall_mem_nil _⟩
  | cons f fs ih =>
    obtain ⟨⟨other, plain⟩, pass⟩ := List.forall_mem_cons.1 pass
    obtain ⟨n₁, st, control₁, stack₁, lost⟩ := unwind_step (p := p) control stack other plain
    obtain ⟨n', run, unwound⟩ := ih control₁ stack₁ pass
    have above : base.length < n.stack.length := by
      simp only [stack, List.cons_append, List.length_cons, List.length_append]
      omega
    obtain ⟨os, first, all⟩ : ∃ os, n₁.state.trace.toList = n.state.trace.toList ++ os ∧
        ∀ o ∈ os, ∃ lost, o = .interrupted lost := by
      obtain same | ⟨d, t, _, closed⟩ := lost
      · exact ⟨[], by rw [same, List.append_nil], List.forall_mem_nil _⟩
      · rw [closed]
        exact closeQueue_trace ..
    obtain ⟨os', rest, all'⟩ := unwound.trace
    refine ⟨n', Within.trans (.tail .refl above st) run, unwound.control, unwound.stack, os ++ os',
      ?_, List.forall_mem_append.2 ⟨all, all'⟩⟩
    rw [rest, first, List.append_assoc]

/-- There is no pool above another frame. -/
lemma Grounded.pass (grounded : n.Grounded) {f : Frame H σ ε} {fs base : List (Frame H σ ε)}
    (stack : n.stack = fs ++ f :: base) : ∀ g ∈ fs, g ≠ .pool := by
  rintro _ mem rfl
  cases grounded with
  | script none =>
    have found : .pool ∈ n.stack.filter (·.isPool) := by
      rw [stack]
      exact List.mem_filter.2 ⟨List.mem_append_left _ mem, rfl⟩
    rw [none] at found
    cases found
  | @pool gs bottom none _ =>
    have split : fs ++ (f :: base).dropLast = gs := by
      rw [← List.dropLast_append_of_ne_nil (List.cons_ne_nil f base), ← stack, bottom,
        List.dropLast_concat]
    have found : .pool ∈ gs.filter (·.isPool) := by
      rw [← split]
      exact List.mem_filter.2 ⟨List.mem_append_left _ mem, rfl⟩
    rw [none] at found
    cases found

/-- A panic comes down to a frame with no exception handler above it. -/
lemma Grounded.unwinds (grounded : n.Grounded) {payload : Payload} {f : Frame H σ ε}
    {fs base : List (Frame H σ ε)} (control : n.control = .unwind payload)
    (stack : n.stack = fs ++ f :: base) (others : ∀ g ∈ fs, ¬g.IsReport) :
    ∃ n', Within p [.pool] n n' ∧ Unwound payload (f :: base) n n' := by
  have pass g mem := And.intro (others g mem) (grounded.pass stack g mem)
  obtain ⟨n', run, unwound⟩ := unwinds_to (p := p) control stack pass
  exact ⟨n', run.lower (List.length_pos_iff.2 (List.cons_ne_nil f base)), unwound⟩

/-- While a work is going on above it, the pool makes no other one and logs nothing. -/
lemma Executed.silent (executed : Executed m m') (grounded : m.Grounded)
    (above : 1 < m.stack.length) :
    ∃ os, m.state.Executes m'.state os ∧ poolRunsOf os = [] ∧ executorErrorsOf os = [] := by
  have busy {base : List (Frame H σ ε)} : m.stack ≠ .pool :: base := by
    intro stack
    obtain ⟨rfl, _⟩ := grounded.alone stack
    rw [stack] at above
    exact absurd above (Nat.lt_irrefl 1)
  cases executed with
  | apart _ _ executes others =>
    obtain ⟨_, poolRuns, errors⟩ := others_apart others
    exact ⟨_, executes, poolRuns, errors⟩
  | handsOff _ _ executes => exact ⟨_, executes, rfl, rfl⟩
  | runs stack | survives _ stack | rests stack => exact absurd stack busy

/-- A run above the pool starts no other work of it. -/
lemma Within.silent (run : Within p [.pool] m n) (reach : Reachable p m) :
    ∃ os, m.state.Executes n.state os ∧ poolRunsOf os = [] ∧ executorErrorsOf os = [] := by
  induction run with
  | refl => exact ⟨[], .of_eq rfl, rfl, rfl⟩
  | tail run above st ih =>
    obtain ⟨os, executes, poolRuns, errors⟩ := ih
    have reach := run.reachable reach
    obtain ⟨os', executes', poolRuns', errors'⟩ :=
      (reach.executed st).silent reach.grounded above
    refine ⟨os ++ os', executes.trans executes', ?_, ?_⟩
    · rw [poolRunsOf_append, poolRuns, poolRuns', List.append_nil]
    · rw [executorErrorsOf_append, errors, errors', List.append_nil]

/-- What is reached above a frame is later. -/
lemma Within.later (run : Within p base m n) : Later p m n := by
  induction run with
  | refl => exact .refl
  | tail _ _ st ih => exact .step ih st

/-- Nobody is inside a lock when the pool is about to start with a work. -/
lemma step_pool (reach : Reachable p m) (stack : m.stack = [.pool]) (control : m.control = .back)
    {w : Work H} {rest : List (Work H)} (pool : m.state.pool = w :: rest) :
    step p m = .going (m.inside p { m.state with pool := rest } w.event w.subscriber) := by
  have taken : m.state.takePool = some ({ m.state with pool := rest }, w) := by
    rw [State.takePool, pool]
  have guards : m.state.Guards [] := by
    have guards := reach.guards
    rwa [underway, stack] at guards
  have free : m.state.lockedOut m.thread w.subscriber.lock = false := by
    rw [State.lockedOut]
    cases found : m.state.locks.get? w.subscriber.lock with
    | none => rfl
    | some held =>
      obtain ⟨some, none⟩ := guards.held found
      rw [holders, List.filter_nil, List.map_nil, eq_comm, List.replicate_eq_nil_iff] at none
      exact absurd none some.ne'
  have free : State.lockedOut { m.state with pool := rest } m.thread w.subscriber.lock = false :=
    free
  rw [step, control]
  simp only [goBack, stack, taken, invoke, free, Bool.and_false, Bool.false_eq_true, if_false]
  rw [Machine.inside, stack]
  rfl

/-- What a work does stays above the pool. -/
lemma contained (reach : Reachable p m) {w : Work H} {rest : List (Work H)}
    (pool : m.state.pool = w :: rest) (st : step p m = .going m')
    (stack' : m'.stack = [.handling w.event w.subscriber, .pool])
    (called : m.state.Executes m'.state [.invoked poolThread w.event w.subscriber])
    (run : Within p [.pool] m' n) : Contained p m w rest n := by
  have reach' : Reachable p m' := .step reach st
  have grounded := (run.reachable reach').grounded
  have start : Working [.pool] m' := .going (stack'.trans (List.nil_append _).symm) trivial
  have working := start.within run
  -- The handler and a report of its error are the only frames that stand right on the pool.
  have below : ∃ fs, n.stack = fs ++ [.pool] := by
    cases working with
    | going stack _ => exact ⟨_, stack.trans (List.append_cons ..)⟩
    | ended stack _ => exact ⟨[], stack⟩
  obtain ⟨os, executes, poolRuns, errors⟩ := run.silent reach'
  have executes : m.state.Executes n.state (.invoked poolThread w.event w.subscriber :: os) :=
    called.trans executes
  have once : poolRunsOf (n.state.since m.state) = [w.delivery] := by
    have pooled := reach.shelved.pool w (by rw [pool]; exact List.mem_cons_self)
    rw [executes.poolRunsOf_since, ← List.singleton_append, poolRunsOf_append, poolRuns,
      poolRunsOf_invoked _ _ pooled]
    rfl
  have balance := ((reach.executed st).balanced.trans (run.later.balanced reach')).since
  rw [pool, once] at balance
  constructor
  · exact below
  · exact once
  · exact (List.cons.inj balance).2.symm
  · rw [executes.executorErrorsOf_since]
    exact errors
  · intro payload fs failure context base control stack others
    obtain ⟨n', run, unwound⟩ := grounded.unwinds (p := p) control stack others
    obtain ⟨n'', st, stops⟩ := stops_of_unwind (p := p) unwound.control unwound.stack
    exact ⟨n', n'', run, unwound, st, stops⟩
  · intro payload fs control stack others
    obtain ⟨n', run, unwound⟩ := grounded.unwinds (p := p) control stack others
    obtain ⟨n'', st, survives⟩ := survives_of_unwind (p := p) unwound.control unwound.stack
    exact ⟨n', n'', run, unwound, st, survives⟩
  · intro stack
    cases control : n.control with
    | run script => exact absurd control (working.not_run stack script)
    | back => exact .inl rfl
    | unwind payload =>
      obtain ⟨n', st, survives⟩ := survives_of_unwind (p := p) control stack
      exact .inr ⟨payload, n', rfl, st, survives⟩

/-- The pool starts with the work that has waited longest. -/
theorem runs_of_pool (reach : Reachable p m) (stack : m.stack = [.pool])
    (control : m.control = .back) {w : Work H} {rest : List (Work H)}
    (pool : m.state.pool = w :: rest) :
    ∃ m', step p m = .going m' ∧ Runs p m w rest m' := by
  have st := step_pool reach stack control pool
  have before : m.state.Executes { m.state with pool := rest } [] := .of_eq rfl
  have called := executes_inside (p := p) before m w.event w.subscriber
  rw [(reach.grounded.alone stack).2] at called
  obtain ⟨_, left⟩ := inside_stores (p := p) m { m.state with pool := rest } w.event w.subscriber
  have stack' : (m.inside p { m.state with pool := rest } w.event w.subscriber).stack =
      [.handling w.event w.subscriber, .pool] := congrArg _ stack
  have contained n run := contained (n := n) reach pool st stack' called run
  refine ⟨_, st, stack', rfl, called, left, contained, ?_⟩
  intro none
  have starts : opening p w.event w.subscriber =
      .unwind (.text (w.subscriber.defect w.event).message) := by
    rw [opening, none]
  obtain ⟨n, n', run, _, st', survives⟩ := (contained _ .refl).unwinds _
    [.handling w.event w.subscriber] starts stack' (List.forall_mem_singleton.2 id)
  exact ⟨n, n', run, st', survives⟩

/-- The pool has made a list of deliveries, and is about to go on. -/
structure Makes (m : Machine H σ ε) (ds : List (Event × Subscriber H)) (n : Machine H σ ε) :
    Prop where
  stack : n.stack = [.pool]
  control : n.control = .back
  made : poolRunsOf (n.state.since m.state) = ds

/-- The pool has started with a delivery of a list, all before it being made, and the handler never
comes to its end. -/
structure Hangs (p : Program H σ ε) (m : Machine H σ ε) (ds : List (Event × Subscriber H))
    (n : Machine H σ ε) : Prop where
  started : ∃ w rest n', Runs p n w rest n' ∧
    poolRunsOf (n.state.since m.state) ++ [w.delivery] <+: ds ∧
    ∀ n'', Within p [.pool] n' n'' → n''.stack ≠ [.pool]

/-- Such a run takes so many steps. -/
lemma Within.steps {base : List (Frame H σ ε)} (run : Within p base m n) :
    ∃ k, n = Machine.after p m k := by
  induction run with
  | refl => exact ⟨0, rfl⟩
  | tail _ _ st ih =>
    obtain ⟨k, rfl⟩ := ih
    exact ⟨k + 1, by rw [Machine.after, st]⟩

/-- So many steps and then so many more. -/
lemma after_after (j k : Nat) : after p (after p m j) k = after p m (j + k) := by
  induction k with
  | zero => rfl
  | succ k ih => rw [after, ih, ← Nat.add_assoc, after]

/-- The pool runs in two stretches what it runs in each. -/
lemma poolRuns_after (reach : Reachable p m) (j k : Nat) :
    poolRunsOf ((after p m (j + k)).state.since m.state) =
      poolRunsOf ((after p m j).state.since m.state) ++
        poolRunsOf ((after p (after p m j) k).state.since (after p m j).state) := by
  have first := (Later.after m j).balanced reach
  have rest := (Later.after (after p m j) k).balanced (reach.after j)
  rw [← after_after, State.since_trans (first.imp fun _ h => h.1) (rest.imp fun _ h => h.1),
    poolRunsOf_append]

/-- Since now the pool has run nothing. -/
lemma poolRuns_none (s : State H σ ε) : poolRunsOf (s.since s) = [] := by
  rw [State.since, List.drop_length]
  rfl

section Onwards

variable {ds ds' : List (Event × Subscriber H)} {j k : Nat} (reach : Reachable p m)
  (first : Makes m ds (after p m j))
include reach first

/-- Deliveries made in two stretches are all made. -/
lemma Makes.trans (rest : Makes (after p m j) ds' (after p (after p m j) k)) :
    Makes m (ds ++ ds') (after p m (j + k)) := by
  have made := poolRuns_after reach j k
  rw [first.made, rest.made] at made
  rw [after_after] at rest
  exact ⟨rest.stack, rest.control, made⟩

/-- If the second stretch hangs, the whole does. -/
lemma Makes.hangs (hangs : Hangs p (after p m j) ds' (after p (after p m j) k)) :
    Hangs p m (ds ++ ds') (after p m (j + k)) := by
  obtain ⟨w, rest, n, runs, among, endless⟩ := hangs
  rw [after_after] at runs
  refine ⟨w, rest, n, runs, ?_, endless⟩
  rw [poolRuns_after reach, first.made, List.append_assoc]
  exact (List.prefix_append_right_inj ds).2 among

end Onwards

/-- When a work comes to its end, the pool is about to go on. -/
lemma Runs.makes {w : Work H} {rest : List (Work H)} (runs : Runs p m w rest m')
    (reach : Reachable p m) (st : step p m = .going m') (run : Within p [.pool] m' n)
    (ended : n.stack = [.pool]) :
    ∃ k, Makes m [w.delivery] (after p m k) ∧
      rest.map (·.delivery) <+: (after p m k).state.pool.map (·.delivery) := by
  have contained := runs.contained n run
  obtain ⟨k, rfl⟩ := run.steps
  have waits : rest.map (·.delivery) <+: (after p m' k).state.pool.map (·.delivery) := by
    rw [contained.pool]
    exact List.prefix_append ..
  obtain control | ⟨payload, n', _, st', survives⟩ := contained.ended ended
  · refine ⟨k + 1, ?_⟩
    rw [after_of_step st]
    exact ⟨⟨ended, control, contained.once⟩, waits⟩
  · -- One more step, in which the pool catches the panic.
    have next : after p (after p m' k) 1 = n' := by
      rw [after, after, st']
    have made := poolRuns_after reach (k + 1) 1
    rw [after_of_step st k, contained.once, next, survives.caught.poolRunsOf_since] at made
    rw [← after_after, after_of_step st k, next] at made
    refine ⟨k + 1 + 1, ?_⟩
    rw [← after_after, after_of_step st k, next]
    exact ⟨⟨survives.stack, survives.control, made⟩, by rwa [survives.pool]⟩

/-- The deliveries that wait are made one after the other, unless one of them never comes to its
end. -/
theorem makes_waiting (reach : Reachable p m) (stack : m.stack = [.pool])
    (control : m.control = .back) {ds : List (Event × Subscriber H)}
    (waits : ds <+: m.state.pool.map (·.delivery)) :
    ∃ k, Makes m ds (after p m k) ∨ Hangs p m ds (after p m k) := by
  -- What is handed off meanwhile waits behind the rest, so that the rest is still in front.
  induction ds generalizing m with
  | nil => exact ⟨0, .inl ⟨stack, control, poolRuns_none _⟩⟩
  | cons d ds ih =>
    obtain ⟨behind, split⟩ := waits
    obtain ⟨w, rest, pool, rfl, rest_eq⟩ := List.map_eq_cons_iff.1 split.symm
    obtain ⟨m', st, runs⟩ := runs_of_pool reach stack control pool
    by_cases ended : ∃ n, Within p [.pool] m' n ∧ n.stack = [.pool]
    · obtain ⟨n, run, stack'⟩ := ended
      obtain ⟨j, first, waits⟩ := runs.makes reach st run stack'
      have front : ds <+: (after p m j).state.pool.map (·.delivery) := by
        refine List.IsPrefix.trans ?_ waits
        rw [rest_eq]
        exact List.prefix_append ..
      obtain ⟨k, makes | hangs⟩ := ih (reach.after j) first.stack first.control front
      · exact ⟨j + k, .inl (first.trans reach makes)⟩
      · exact ⟨j + k, .inr (first.hangs reach hangs)⟩
    · refine ⟨0, .inr ⟨w, rest, m', runs, ?_, ?_⟩⟩
      · rw [after, poolRuns_none]
        exact List.prefix_append [w.delivery] ds
      · intro n run stack
        exact ended ⟨n, run, stack⟩

end Machine

end EventBus
