import EventBus.Proofs.Threads.Works

/-!
# Deliveries that are handed off

An event whose subscribers are all the pool's is handed off when it is dispatched: nothing else
happens until each of its deliveries waits for the pool (`hands_over`). A dispatcher with a queue
that is given no other events never drains the queue while a script runs (`Later.brief`), so a post
hands its event off before it is over, be it made by the script of a caller, by a handler that is
called directly or by one on the pool (`Later.postsOver`). Only in a queue that other events go
through as well may the event have to wait, until the drain comes to it or a panic comes to the
drain (`Later.waited`), as it does in `shared_queue_loses`.
-/

namespace EventBus

variable {H σ ε : Type}

namespace Machine

variable {p : Program H σ ε} {m m' n n' : Machine H σ ε}

/-- Everything is handed to the pool that is due for an event, and the machine goes back to what was
below. -/
structure HandsOver (m : Machine H σ ε) (e : Event) (xs : List (Subscriber H))
    (base : List (Frame H σ ε)) (n : Machine H σ ε) : Prop where
  stack : n.stack = base
  thread : n.thread = m.thread
  control : n.control = .back
  pool : n.state.pool = m.state.pool ++ xs.map (⟨·, e⟩)
  handed : m.state.Executes n.state (xs.map (.handedOff e ·))

/-- To hand over one list and then another is to hand over both. -/
lemma HandsOver.trans {e : Event} {xs ys : List (Subscriber H)} {base base' : List (Frame H σ ε)}
    (h : HandsOver m e xs base n) (h' : HandsOver n e ys base' n') :
    HandsOver m e (xs ++ ys) base' n' := by
  refine ⟨h'.stack, h'.thread.trans h.thread, h'.control, ?_, ?_⟩
  · rw [h'.pool, h.pool, List.map_append, List.append_assoc]
  · rw [List.map_append]
    exact h.handed.trans h'.handed

/-- A delivery to the pool is handed over in one step. -/
lemma step_handsOff {order : DispatchOrder} {t : Nat} {e : Event} {x : Subscriber H}
    {xs : List (Subscriber H)} {base : List (Frame H σ ε)} (control : m.control = .back)
    (stack : m.stack = .deliveries order t e (x :: xs) :: base) (pooled : x.executor = .pool) :
    ∃ m', step p m = .going m' ∧ HandsOver m e [x] (.deliveries order t e xs :: base) m' ∧
      m'.state.queues = m.state.queues := by
  have same : m.state.Executes m.state [] := .of_eq rfl
  have handed : m.state.Executes
      ((m.state.emit (.submitted m.thread order e x)).emit (.handedOff e x)) [.handedOff e x] :=
    (same.skip rfl).emit _
  rw [step, control]
  simp only [goBack, stack, deliver, pooled, returning]
  exact ⟨_, rfl, ⟨rfl, rfl, rfl, rfl, handed⟩, rfl⟩

/-- Deliveries that are all for the pool are handed to it one after the other. -/
lemma hands_over {order : DispatchOrder} {t : Nat} {e : Event} {xs : List (Subscriber H)}
    {base : List (Frame H σ ε)} (control : m.control = .back)
    (stack : m.stack = .deliveries order t e xs :: base)
    (pooled : ∀ x ∈ xs, x.executor = .pool) :
    HandsOver m e xs base (after p m (xs.length + 1)) ∧
      (after p m (xs.length + 1)).state.queues = m.state.queues := by
  induction xs generalizing m with
  | nil =>
    have st : step p m = .going { m with stack := base } := by
      simp only [step, goBack, control, stack]
    rw [after_of_step st]
    exact ⟨⟨rfl, rfl, control, (List.append_nil _).symm, .of_eq rfl⟩, rfl⟩
  | cons x xs ih =>
    obtain ⟨pooled_x, pooled⟩ := List.forall_mem_cons.1 pooled
    obtain ⟨m', st, first, queues⟩ := step_handsOff (p := p) control stack pooled_x
    obtain ⟨rest, queues'⟩ := ih first.control first.stack pooled
    rw [after_of_step st]
    exact ⟨first.trans rest, queues'.trans queues⟩

/-- An event that waits in a queue for the pool only is handed off when the drain comes to it. -/
lemma fetches_over {id t : Nat} {next : Pending H} {q : List (Pending H)} {draining : Bool}
    {base : List (Frame H σ ε)} (control : m.control = .back)
    (stack : m.stack = .drain id t :: base)
    (waits : m.state.queues.get? (id, t) = some ⟨next :: q, draining⟩)
    (pooled : ∀ x ∈ next.subscribers, x.executor = .pool) :
    HandsOver m next.event next.subscribers m.stack (after p m (next.subscribers.length + 2)) ∧
      (after p m (next.subscribers.length + 2)).state.queues =
        m.state.queues.set (id, t) ⟨q, draining⟩ := by
  have dequeued : m.state.dequeue (id, t) =
      some ({ m.state with queues := m.state.queues.set (id, t) ⟨q, draining⟩ }, next) := by
    rw [State.dequeue, waits]
  have st : step p m = .going (m.entering
      { m.state with queues := m.state.queues.set (id, t) ⟨q, draining⟩ }
      (.deliveries (.queued id) t next.event next.subscribers)) := by
    simp only [step, goBack, control, stack, dequeued]
  rw [after_of_step st]
  have fetched : (m.entering { m.state with queues := m.state.queues.set (id, t) ⟨q, draining⟩ }
      (.deliveries (.queued id) t next.event next.subscribers)).stack =
        .deliveries (.queued id) t next.event next.subscribers :: m.stack := rfl
  obtain ⟨rest, queues⟩ := hands_over (p := p) rfl fetched pooled
  exact ⟨⟨rest.stack, rest.thread, rest.control, rest.pool, rest.handed⟩, queues⟩

/-- The drain of a queue with one event, for the pool only, is over when the event has been handed
off. -/
lemma drains_over {id t : Nat} {e : Event} {xs : List (Subscriber H)}
    {base : List (Frame H σ ε)} (control : m.control = .back)
    (stack : m.stack = .drain id t :: base)
    (waits : m.state.queues.get? (id, t) = some ⟨[⟨e, xs⟩], true⟩)
    (pooled : ∀ x ∈ xs, x.executor = .pool) :
    HandsOver m e xs base (after p m (xs.length + 3)) := by
  obtain ⟨handed, queues⟩ := fetches_over (p := p) control stack waits pooled
  generalize fetched : after p m (xs.length + 2) = n at handed queues
  have empty : n.state.dequeue (id, t) = none := by
    rw [State.dequeue, queues, Table.get?_set, if_pos rfl]
  have st : step p n = .going { n with state := n.state.closeQueue (id, t), stack := base } := by
    simp only [step, goBack, handed.control, handed.stack, stack, empty]
  have closed := aside_closeQueue n.state (id, t)
  have arrived : after p m (xs.length + 3) =
      { n with state := n.state.closeQueue (id, t), stack := base } := by
    rw [after, fetched, st]
  rw [arrived]
  refine ⟨rfl, handed.thread, handed.control, closed.pool.trans handed.pool, ?_⟩
  have all := handed.handed.trans closed.executes
  rwa [List.append_nil] at all

/-- A queued dispatcher was given nothing that is not for the pool. -/
def AllPooled (id : Nat) (os : List (Occurrence H ε)) : Prop :=
  ∀ t e xs, .dispatched t (.queued id) e xs ∈ os → ∀ x ∈ xs, x.executor = .pool

/-- The drains of a dispatcher that is given nothing but deliveries for the pool: while there is
one, nothing else is done than to hand deliveries off. -/
inductive Brief (id : Nat) (m : Machine H σ ε) : Prop where
  | idle (none : ∀ t, .drain id t ∉ m.stack)
  | drains {t base} (control : m.control = .back) (stack : m.stack = .drain id t :: base)
      (none : ∀ u, .drain id u ∉ base)
      (pooled : ∀ next ∈ m.state.waiting (id, t), ∀ x ∈ next.subscribers, x.executor = .pool)
  | delivers {t e xs base} (control : m.control = .back)
      (stack : m.stack = .deliveries (.queued id) t e xs :: .drain id t :: base)
      (none : ∀ u, .drain id u ∉ base)
      (pooled : ∀ next ∈ m.state.waiting (id, t), ∀ x ∈ next.subscribers, x.executor = .pool)
      (rest : ∀ x ∈ xs, x.executor = .pool)

namespace Brief

variable {id : Nat}

/-- A post where nothing drains leaves the queue brief. -/
lemma of_routed {m₀ : Machine H σ ε} (routed : Routed m₀ m') (wf : WellFormed m₀)
    (control : m'.control = .back) (none : ∀ t, .drain id t ∉ m₀.stack)
    (all : AllPooled id m'.state.trace.toList) : Brief id m' := by
  cases routed with
  | silent stack _ | waits stack _ _ _ _ => exact .idle (by rwa [stack])
  | immediate stack _ _ _ => exact .idle (by simpa [stack] using none)
  | @opens id' e xs q stack idle queues _ traffic =>
    by_cases same : id' = id
    · subst same
      have empty : q = [] := by
        rw [wf.none_of_not_mem (none _)] at idle
        obtain ⟨_, empty⟩ | idle := idle
        · exact empty
        · cases idle
      refine .drains control stack none ?_
      rw [waiting_set queues, if_pos rfl, empty]
      have pooled := all _ _ _ (mem_trace_of_traffic traffic List.mem_cons_self)
      exact List.forall_mem_singleton.2 pooled
    · refine .idle ?_
      intro t mem
      rw [stack] at mem
      obtain mem | mem := List.mem_cons.1 mem
      · cases mem
        exact same rfl
      · exact none t mem

/-- So does a step that starts where nothing drains. -/
lemma of_idle (none : ∀ t, .drain id t ∉ m.stack) (wf : WellFormed m)
    (all : AllPooled id m'.state.trace.toList) (st : Machine.step p m = .going m') :
    Brief id m' := by
  cases step_move st with
  | plain stack stack' popped pushed _ _ =>
    refine .idle ?_
    intro t
    rw [stack', drain_mem_append fun f mem => (pushed f mem).isPlain, ← drain_mem_append popped,
      ← stack]
    exact none t
  | posted posting routed _ control =>
    refine of_routed routed (wf.posting posting) control ?_ all
    intro t
    rw [posting.drain_mem]
    exact none t
  | called stack stack' | putOff stack stack' | left stack stack' | joined stack stack' =>
    exact .idle (by simpa [stack, stack'] using none)
  | @ran f f' _ _ _ stack stack' _ plain' =>
    refine .idle ?_
    intro t mem
    have other : Frame.drain id t ≠ f' := by
      rintro rfl
      exact plain'
    have below : ∀ t, .drain id t ∉ f :: _ := stack ▸ none
    simp only [stack', List.mem_cons, reduceCtorEq, other, false_or] at mem
    exact below t (List.mem_cons_of_mem f mem)
  | fetched stack stack' => exact .idle (by simpa [stack, stack'] using none)
  | closed stack stack' =>
    refine .idle ?_
    intro t mem
    rw [stack'] at mem
    rw [stack] at none
    exact none t (List.mem_cons_of_mem _ mem)

/-- A step keeps a queue brief whose deliveries all go to the pool. -/
lemma step (brief : Brief id m) (wf : WellFormed m) (all : AllPooled id m'.state.trace.toList)
    (st : Machine.step p m = .going m') : Brief id m' := by
  cases brief with
  | idle none => exact of_idle none wf all st
  | @drains t base control stack none pooled =>
    rw [Machine.step, control] at st
    simp only [goBack, stack] at st
    split at st
    · rename_i s next dequeued
      obtain ⟨q, draining, waits, rfl⟩ := dequeue_eq_some dequeued
      rw [waiting_of_get? waits] at pooled
      obtain ⟨first, pooled⟩ := List.forall_mem_cons.1 pooled
      cases st
      refine .delivers rfl (congrArg _ stack) none ?_ first
      rwa [waiting_set rfl, if_pos rfl]
    · cases st
      exact .idle none
  | @delivers t e xs base control stack none pooled rest =>
    cases xs with
    | nil =>
      simp only [Machine.step, goBack, control, stack] at st
      cases st
      exact .drains rfl rfl none pooled
    | cons x xs =>
      obtain ⟨pooled_x, rest⟩ := List.forall_mem_cons.1 rest
      obtain ⟨n, st', handed, queues⟩ := step_handsOff (p := p) control stack pooled_x
      rw [st] at st'
      cases st'
      refine .delivers handed.control handed.stack none ?_ rest
      rwa [waiting_congr queues]

end Brief

/-- So does a run. -/
lemma Later.brief {hierarchy : Hierarchy} {user : σ} {script : Script H σ ε} {id : Nat}
    (later : Later p (start (.initial hierarchy user) script) m)
    (all : AllPooled id m.state.trace.toList) : Brief id m := by
  induction later with
  | refl => exact .idle fun _ => List.not_mem_nil
  | @step m₁ m₂ before st ih =>
    have old : AllPooled id m₁.state.trace.toList := by
      intro t e xs mem
      apply all t e xs
      rw [trace_of_step st]
      exact List.mem_append_left _ mem
    exact (ih old).step (before.reachable (.first ..)).wellFormed all st
  | next => exact .idle fun _ => List.not_mem_nil
  | pool => exact .idle (by simp [startPool])

/-- Everything is handed to the pool that is due for an event, and by the time that the pool has
nothing to do, it has made these deliveries one after the other, after those that waited before. -/
structure HandsOff (p : Program H σ ε) (m : Machine H σ ε) (e : Event) (xs : List (Subscriber H))
    (base : List (Frame H σ ε)) (n : Machine H σ ε) : Prop extends HandsOver m e xs base n where
  delivered : ∀ n', Later p n n' → n'.state.pool = [] →
    m.state.pool.map (·.delivery) ++ xs.map (e, ·) <+: poolRunsOf (n'.state.since m.state)

/-- What was handed off is made by the time that the pool has nothing to do. -/
lemma HandsOver.handsOff {e : Event} {xs : List (Subscriber H)} {base : List (Frame H σ ε)}
    (handed : HandsOver m e xs base n) (reach : Reachable p n) : HandsOff p m e xs base n where
  toHandsOver := handed
  delivered n' later empty := by
    have made : poolRunsOf (n.state.since m.state) = [] := by
      rw [State.Executes.poolRunsOf_since handed.handed, poolRunsOf, List.filterMap_map]
      exact List.filterMap_eq_nil_iff.2 fun _ _ => rfl
    have waiting : n.state.pool.map (·.delivery) =
        m.state.pool.map (·.delivery) ++ xs.map (e, ·) := by
      rw [handed.pool, List.map_append, List.map_map]
      rfl
    have balance := (later.balanced reach).since
    rw [waiting, empty, List.map_nil, List.append_nil] at balance
    have grown := handed.handed.imp fun _ h => h.1
    have grown' := (later.balanced reach).imp fun _ h => h.1
    rw [State.since_trans grown grown', poolRunsOf_append, made, List.nil_append, ← balance]
    exact List.prefix_append _ _

/-- What has become, by the time of `n`, of an event that waited in a queue at the time of `m`. -/
inductive Waited (p : Program H σ ε) (id t : Nat) (e : Event) (xs : List (Subscriber H))
    (m n : Machine H σ ε) : Prop where
  | waits {before behind} (waits : n.state.waiting (id, t) = before ++ ⟨e, xs⟩ :: behind)
  /-- The drain came to it. -/
  | handsOff {n₀ k} (later : Later p m n₀) (later' : Later p n₀ n)
      (handed : HandsOff p n₀ e xs n₀.stack (after p n₀ k))
  /-- A panic came to the drain before. -/
  | lost {n₀ payload base} (later : Later p m n₀) (later' : Later p n₀ n)
      (control : n₀.control = .unwind payload) (stack : n₀.stack = .drain id t :: base)

/-- In one step, what waits in a queue goes on to wait, or the drain fetches the first of it, or a
panic comes to the drain. -/
lemma queue_of_step (wf : WellFormed m) (id t : Nat) (st : step p m = .going m') :
    (∃ more, m'.state.waiting (id, t) = m.state.waiting (id, t) ++ more) ∨
    (∃ next base, m.control = .back ∧ m.stack = .drain id t :: base ∧
      m.state.queues.get? (id, t) = some ⟨next :: m'.state.waiting (id, t), true⟩) ∨
    ∃ payload base, m.control = .unwind payload ∧ m.stack = .drain id t :: base := by
  obtain grows | ⟨base, stack⟩ := (step_move st).waiting_grows id t
  · exact .inl grows
  · cases control : m.control with
    | run script => exact .inl (((step_turn st).run_above control stack trivial).2 _)
    | unwind payload => exact .inr (.inr ⟨payload, base, rfl, stack⟩)
    | back =>
      obtain ⟨q, drained⟩ := wf.open_of_mem (by rw [stack]; exact List.mem_cons_self)
      cases q with
      | nil =>
        rw [waiting_of_get? drained]
        exact .inl ⟨_, rfl⟩
      | cons next q =>
        have dequeued : m.state.dequeue (id, t) =
            some ({ m.state with queues := m.state.queues.set (id, t) ⟨q, true⟩ }, next) := by
          rw [State.dequeue, drained]
        simp only [step, goBack, control, stack, dequeued] at st
        cases st
        refine .inr (.inl ⟨next, base, rfl, stack, ?_⟩)
        rw [waiting_set rfl, if_pos rfl]
        exact drained

/-- Whoever waits longer waits in the same place, or the wait is over. -/
lemma Waited.goesOn {id t : Nat} {e : Event} {xs : List (Subscriber H)}
    (waited : Waited p id t e xs m n) (later : ∀ n₀, Later p n₀ n → Later p n₀ n')
    (waits : ∀ before behind, n.state.waiting (id, t) = before ++ ⟨e, xs⟩ :: behind →
      Waited p id t e xs m n') : Waited p id t e xs m n' := by
  cases waited with
  | waits waiting => exact waits _ _ waiting
  | handsOff first rest handed => exact .handsOff first (later _ rest) handed
  | lost first rest control stack => exact .lost first (later _ rest) control stack

/-- An event for the pool only waits in its queue until the drain comes to it, or a panic comes to
the drain. -/
lemma Later.waited (later : Later p m n) (reach : Reachable p m) {id t : Nat} {e : Event}
    {xs : List (Subscriber H)} (pooled : ∀ x ∈ xs, x.executor = .pool) {before behind}
    (waits : m.state.waiting (id, t) = before ++ ⟨e, xs⟩ :: behind) : Waited p id t e xs m n := by
  have drained {n : Machine H σ ε} (later : Later p m n) (ended : n.stack = []) :
      n.state.waiting (id, t) = [] := by
    refine waiting_of_none ((later.reachable reach).wellFormed.none_of_not_mem ?_)
    rw [ended]
    exact List.not_mem_nil
  induction later with
  | refl => exact .waits waits
  | @step n₁ n₂ later st ih =>
    refine ih.goesOn (fun _ before => .step before st) ?_
    intro before behind waits
    have reach₁ := later.reachable reach
    obtain ⟨more, grows⟩ | ⟨next, base, control, stack, queue⟩ |
      ⟨payload, base, control, stack⟩ := queue_of_step reach₁.wellFormed id t st
    · rw [waits, List.append_assoc, List.cons_append] at grows
      exact .waits grows
    · rw [waiting_of_get? queue] at waits
      cases before with
      | nil =>
        -- It is the event's turn: nothing but hand-offs happens until it is dealt with.
        obtain ⟨rfl, _⟩ := List.cons.inj waits
        have handed := (fetches_over (p := p) control stack queue pooled).1
        exact .handsOff later (.step .refl st) (handed.handsOff (reach₁.after _))
      | cons _ before => exact .waits (List.cons.inj waits).2
    · exact .lost later (.step .refl st) control stack
  | next user script later st ih =>
    refine ih.goesOn (fun _ before => .next user script before st) ?_
    intro before behind waits
    rw [drained later (stack_of_ended st).1] at waits
    simp at waits
  | pool later st ih =>
    refine ih.goesOn (fun _ before => .pool before st) ?_
    intro before behind waits
    rw [drained later (stack_of_ended st).1] at waits
    simp at waits

/-- What comes of an event that is posted and passed on to subscribers of the pool only. -/
inductive PostsOver (p : Program H σ ε) (order : DispatchOrder) (m : Machine H σ ε) (e : Event)
    (xs : List (Subscriber H)) (m₁ : Machine H σ ε) : Prop where
  /-- Every delivery is handed off before the post is over. -/
  | handsOff {k} (handed : HandsOff p m e xs m.stack (after p m₁ k)) : PostsOver p order m e xs m₁
  /-- The event waits, in a queue that is given other events than for the pool as well. -/
  | waits {id} (queued : order = .queued id) (drained : .drain id m.thread ∈ m.stack)
      (mixed : ¬AllPooled id m.state.trace.toList) (stack : m₁.stack = m.stack)
      (control : m₁.control = .back) (aside : m.state.Aside m₁.state)
      (waited : ∀ n, Later p m₁ n → Waited p id m.thread e xs m₁ n) : PostsOver p order m e xs m₁

/-- While a script is running, no queue is drained that is given deliveries for the pool only. -/
lemma Brief.not_mem {id t : Nat} (brief : Brief id m) {script : Script H σ ε}
    (control : m.control = .run script) : .drain id t ∉ m.stack := by
  cases brief with
  | idle none => exact none t
  | drains back _ _ _ => cases control.symm.trans back
  | delivers back _ _ _ _ => cases control.symm.trans back

/-- A hand-over counts from any machine that differs only aside. -/
lemma HandsOver.of_aside {m₀ : Machine H σ ε} {e : Event} {xs : List (Subscriber H)}
    {base : List (Frame H σ ε)} (h : HandsOver m e xs base n) (aside : m₀.state.Aside m.state)
    (thread : m.thread = m₀.thread) : HandsOver m₀ e xs base n where
  stack := h.stack
  thread := h.thread.trans thread
  control := h.control
  pool := by rw [h.pool, aside.pool]
  handed := aside.executes.trans h.handed

/-- What is dispatched to subscribers of the pool only is handed off, unless it has to wait. -/
lemma Sent.postsOver {order : DispatchOrder} {e : Event} {xs : List (Subscriber H)}
    (sent : Sent order m e xs m') (reach : Reachable p m') (aside : m.state.Aside m'.state)
    (thread : m'.thread = m.thread) (control : m'.control = .back)
    (pooled : ∀ x ∈ xs, x.executor = .pool)
    (mixed : ∀ id, .drain id m.thread ∈ m.stack → ¬AllPooled id m.state.trace.toList) :
    PostsOver p order m e xs m' := by
  have handsOff {k : Nat} (handed : HandsOver m' e xs m.stack (after p m' k)) :
      PostsOver p order m e xs m' :=
    .handsOff ((handed.of_aside aside thread).handsOff (reach.after k))
  cases sent with
  | atOnce _ stack => exact handsOff (hands_over control stack pooled).1
  | @opens id _ _ _ stack queues =>
    have waits : m'.state.queues.get? (id, m.thread) = some ⟨[⟨e, xs⟩], true⟩ := by
      rw [queues, Table.get?_set, if_pos rfl]
    exact handsOff (drains_over control stack waits pooled)
  | @waits id q queued drained _ stack found queues =>
    have waits : m'.state.waiting (id, m.thread) = m.state.waiting (id, m.thread) ++ [⟨e, xs⟩] := by
      rw [waiting_set queues, if_pos rfl, waiting_of_get? found]
    exact .waits queued drained (mixed _ drained) stack control aside
      fun _ later => later.waited reach pooled waits

section PutAside

variable (m : Machine H σ ε) (next : Script H σ ε) (elsewhere : Bool)

@[simp] lemma putAside_trace : (m.putAside next elsewhere).state.trace = m.state.trace := by
  cases elsewhere <;> rfl

@[simp] lemma putAside_drain_mem {id t : Nat} :
    .drain id t ∈ (m.putAside next elsewhere).stack ↔ .drain id t ∈ m.stack := by
  cases elsewhere <;> simp [putAside]

end PutAside

/-- A post whose event is passed on to subscribers of the pool only. -/
lemma Later.postsOver {hierarchy : Hierarchy} {user : σ} {script : Script H σ ε} {bus : Nat}
    {b : Bus H} {e e' : Event} {elsewhere : Bool} {next : Script H σ ε}
    {xs ys : List (Subscriber H)} (later : Later p (start (.initial hierarchy user) script) m)
    (control : m.control = .run (.post bus e elsewhere next))
    (found : m.state.buses.get? bus = some b) (passes : Passes m.state.hierarchy b e e' xs)
    (arranged : b.dispatcher.arrangement.apply xs = some ys)
    (pooled : ∀ x ∈ xs, x.executor = .pool) :
    PostsOver p b.dispatcher.order (m.putAside next elsewhere) e' ys
      ((m.putAside next elsewhere).post bus e) := by
  have reach : Reachable p m := later.reachable (.first ..)
  have course := post_course (m := m.putAside next elsewhere) (by rwa [putAside_buses]) e
  rw [← putAside_hierarchy m next elsewhere] at passes
  have sent := course.sent (reach.wellFormed.putAside next elsewhere) passes arranged
  obtain ⟨thread, back⟩ := post_back (m.putAside next elsewhere) bus e
  refine sent.postsOver (.step reach (step_posted control)) (aside_post ..) thread back ?_ ?_
  · intro x mem
    exact pooled x (Arrangement.mem_of_apply arranged mem)
  · intro id drained all
    rw [putAside_drain_mem] at drained
    rw [putAside_trace] at all
    exact (later.brief all).not_mem control drained

/-- How the pool serves a run that has come to the machine `m`. -/
structure PoolServes (p : Program H σ ε) (m : Machine H σ ε) : Prop where
  /-- The deliveries that were handed off are those that the pool has made and those that wait. -/
  account : handOffsOf m.state.trace.toList =
    poolRunsOf m.state.trace.toList ++ m.state.pool.map (·.delivery)
  thread : ∀ t e x, .invoked t e x ∈ m.state.trace.toList → x.executor = .pool → t = poolThread
  /-- The pool goes on with the work that has waited longest. -/
  runs : ∀ w rest, m.stack = [.pool] → m.control = .back → m.state.pool = w :: rest →
    ∃ m', step p m = .going m' ∧ Runs p m w rest m'
  /-- It makes all that wait, unless one never comes to its end. -/
  makes : m.stack = [.pool] → m.control = .back → ∃ k,
    Makes m (m.state.pool.map (·.delivery)) (after p m k) ∨
      Hangs p m (m.state.pool.map (·.delivery)) (after p m k)
  /-- It stops when none waits, and for no other reason. -/
  rests : ∀ m', .pool ∈ m.stack → step p m = .going m' → .pool ∉ m'.stack →
    m.state.pool = [] ∧ m'.state = m.state ∧ m'.stack = [] ∧ m'.control = .back
  /-- An event that is posted for the pool only is handed off, or waits. -/
  posts : ∀ bus b e elsewhere next e' xs ys,
    m.control = .run (.post bus e elsewhere next) → m.state.buses.get? bus = some b →
    Passes m.state.hierarchy b e e' xs → b.dispatcher.arrangement.apply xs = some ys →
    (∀ x ∈ xs, x.executor = .pool) →
    ∃ m₁, step p m = .going m₁ ∧
      PostsOver p b.dispatcher.order (m.putAside next elsewhere) e' ys m₁

/-- An execution that takes the pool off the stack leaves nothing behind. -/
lemma Executed.rests_of_not_mem (executed : Executed m m') (grounded : m.Grounded)
    (mem : .pool ∈ m.stack) (gone : .pool ∉ m'.stack) :
    m.state.pool = [] ∧ m'.state = m.state ∧ m'.stack = [] ∧ m'.control = .back := by
  cases executed with
  | rests stack stack' control state empty =>
    obtain ⟨rfl, _⟩ := grounded.alone stack
    exact ⟨empty, state, stack', control⟩
  | runs stack stack' _ _ _ =>
    rw [stack'] at gone
    exact absurd (List.mem_cons_of_mem _ mem) gone
  | survives _ _ stack' _ _ =>
    rw [stack'] at gone
    exact absurd mem gone
  | apart pools | handsOff pools =>
    have kept : .pool ∈ m.stack.filter (·.isPool) := List.mem_filter.2 ⟨mem, rfl⟩
    rw [← pools] at kept
    exact absurd (List.mem_filter.1 kept).1 gone

/-- In every run, the pool makes each delivery that was handed to it once, in the order in which
they were handed off, on its own thread. A panic in a work, be it raised by the handler, by another
one in a post that it makes, or by a call without a view of the event, gets to the innermost report
of an error or to the pool, and leaves one record in the log there; the pool goes on with the next
work whatever has become of this one. An event that is posted for the pool only, by whomever, is
handed to it in full before the post is over, and all its deliveries are made, unless it has to wait
in a queue that is given deliveries of another kind as well. -/
theorem pool_runs_each_once {hierarchy : Hierarchy} {user : σ} {script : Script H σ ε}
    (later : Later p (start (.initial hierarchy user) script) m) : PoolServes p m := by
  have reach : Reachable p m := later.reachable (.first ..)
  constructor
  · exact later.account
  · intro t e x mem pooled
    exact later.pool_thread mem pooled
  · intro w rest stack control pool
    exact runs_of_pool reach stack control pool
  · intro stack control
    exact makes_waiting reach stack control (List.prefix_refl _)
  · intro m' mem st gone
    exact (reach.executed st).rests_of_not_mem reach.grounded mem gone
  · intro bus b e elsewhere next e' xs ys control found passes arranged pooled
    exact ⟨_, step_posted control, later.postsOver control found passes arranged pooled⟩

namespace Mishaps

def note (tag : String) : Event := .free ⟨"Note"⟩ "Note" tag [] []

def on (type : EventType) (intake : Intake) : Binding Unit :=
  ⟨"on_note", type, intake, true, none, ()⟩

/-- A handler that posts a second note when it is given the first one, and panics then. -/
def program : Program Unit Unit Unit where
  handle _ e :=
    match e with
    | .free _ _ "first" _ _ => .post 1 (note "second") false (.panic .other)
    | _ => .finish (.ok ())
  report _ _ _ := .finish (.ok ())

/-- A listener is told of notes, and of memos, which it is to be given a view of; notes are declared
to be memos, but have no such view. -/
def script : Script Unit Unit Unit :=
  .declare [(⟨"Note"⟩, [⟨"Memo"⟩])] <|
  .newDispatcher fun d =>
  .build ⟨"bus", .pool, .plain (.queued d), .log⟩ fun b =>
  .register b.id ⟨1, "Listener", "listener"⟩ [on ⟨"Note"⟩ .whole, on ⟨"Memo"⟩ .typed] fun _ =>
  .post b.id (note "first") false (.finish (.ok ()))

def begin : Machine Unit Unit Unit := start (.initial .empty ()) script

/-- The script goes on to its end, and the pool is started then. -/
def machine (n : Nat) : Machine Unit Unit Unit :=
  after program (startPool (after program begin 11).state) n

end Mishaps

/-- Two notes come to four works, two of which are handed off by a handler on the pool. One of the
first two panics, and so do the two whose handler is called without a view; all four are run. -/
theorem mishaps_survived :
    PoolServes Mishaps.program (Mishaps.machine 19) ∧
    handOffsOf (Mishaps.machine 19).state.trace.toList =
      poolRunsOf (Mishaps.machine 19).state.trace.toList ∧
    (poolRunsOf (Mishaps.machine 19).state.trace.toList).map (fun d => (d.1, d.2.eventType)) =
      [(Mishaps.note "first", ⟨"Note"⟩), (Mishaps.note "first", ⟨"Memo"⟩),
        (Mishaps.note "second", ⟨"Note"⟩), (Mishaps.note "second", ⟨"Memo"⟩)] ∧
    (executorErrorsOf (Mishaps.machine 19).state.trace.toList).map (·.fields) =
      [[("panic", .text "non-string panic payload")],
        [("panic", .text ("Handler contract violated (no view of the event matches the declared " ++
          "type): handler 'on_note' expects Memo but was given Note(first)"))],
        [("panic", .text ("Handler contract violated (no view of the event matches the declared " ++
          "type): handler 'on_note' expects Memo but was given Note(second)"))]] := by
  have ended : step Mishaps.program (after Mishaps.program Mishaps.begin 11) =
      .ended (after Mishaps.program Mishaps.begin 11).state (.returned (.ok ())) := by cbv
  have posted : Later Mishaps.program Mishaps.begin
      (startPool (after Mishaps.program Mishaps.begin 11).state) := .pool (Later.after _ 11) ended
  have serves : PoolServes Mishaps.program (Mishaps.machine 19) :=
    pool_runs_each_once (posted.trans (Later.after _ 19))
  have empty : (Mishaps.machine 19).state.pool = [] := by cbv
  refine ⟨serves, ?_, by cbv, by cbv⟩
  rw [serves.account, empty]
  exact List.append_nil _

namespace Shared

def note : Event := .free ⟨"Note"⟩ "Note" "note" [] []

def memo : Event := .free ⟨"Memo"⟩ "Memo" "memo" [] []

def on (type : EventType) : List (Binding Unit) := [⟨"on_event", type, .whole, true, none, ()⟩]

/-- A handler that is given a note posts a memo on the second bus, and panics then. -/
def program : Program Unit Unit Unit where
  handle _ e :=
    match e with
    | .free ⟨"Note"⟩ _ _ _ _ => .post 2 memo false (.panic (.text "boom"))
    | _ => .finish (.ok ())
  report _ _ _ := .finish (.ok ())

/-- Two buses have one dispatcher: the handlers of the first are called directly, those of the
second on the pool. -/
def script : Script Unit Unit Unit :=
  .newDispatcher fun d =>
  .build ⟨"direct", .direct, .plain (.queued d), .log⟩ fun b =>
  .build ⟨"pooled", .pool, .plain (.queued d), .log⟩ fun c =>
  .register b.id ⟨1, "Listener", "notes"⟩ (on ⟨"Note"⟩) fun _ =>
  .register c.id ⟨2, "Listener", "memos"⟩ (on ⟨"Memo"⟩) fun _ =>
  .post b.id note false (.finish (.ok ()))

def machine (n : Nat) : Machine Unit Unit Unit :=
  after program (start (.initial .empty ()) script) n

end Shared

/-- An event is posted on a bus whose handlers are all called on the pool, while the queue that it
shares with the other bus is drained. The panic of the handler that has posted the event comes to
the drain first, so that the event is not handed off, and the pool has nothing to do. -/
theorem shared_queue_loses :
    ∃ (b : Bus Unit) (x : Subscriber Unit) (next : Script Unit Unit Unit)
      (s s' : State Unit Unit Unit),
      Later Shared.program (start (.initial .empty ()) Shared.script) (Shared.machine 8) ∧
      (Shared.machine 8).control = .run (.post 2 Shared.memo false next) ∧
      (Shared.machine 8).state.buses.get? 2 = some b ∧ b.dispatcher.arrangement = .plain ∧
      b.registry.executor = .pool ∧
      b.registry.resolve (Shared.machine 8).state.hierarchy Shared.memo.type = [x] ∧
      x.executor = .pool ∧
      step Shared.program (Shared.machine 15) = .ended s (.panicked (.text "boom")) ∧
      step Shared.program (after Shared.program (startPool s) 1) =
        .ended s' (.returned (.ok ())) ∧
      handOffsOf s'.trace.toList = [] ∧ poolRunsOf s'.trace.toList = [] :=
  ⟨_, _, _, _, _, Later.after _ 8, by cbv, by cbv, by cbv, by cbv, by cbv, by cbv, by cbv, by cbv,
    by cbv, by cbv⟩

end Machine

end EventBus
