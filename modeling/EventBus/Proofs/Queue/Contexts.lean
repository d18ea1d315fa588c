import EventBus.Proofs.Registry.Census
import EventBus.Proofs.Threads.Nesting

/-!
# The queues of a dispatcher

Threads may be nested: a handler waits for another thread, which posts, and so on. `Inside` says
that a machine is inside an outermost dispatch of a thread, and which of the events dispatched since
then have been started. `queues_mirror_dispatches` is about any machine of any run: there is a queue for
each thread that is inside an outermost dispatch, and for no other; it holds what the thread has
dispatched and the drain has not started; and it goes with the dispatch.
-/

namespace EventBus

variable {H σ ε : Type}

namespace Machine

/-- What a step starts to deliver of a queue: the event whose deliveries it puts on the drain. -/
def fetched (id t : Nat) (m m' : Machine H σ ε) : List (Pending H) :=
  match m.stack, m'.stack with
  | .drain d u :: _, .deliveries _ _ e xs :: .drain _ _ :: _ =>
    if d = id ∧ u = t then [⟨e, xs⟩] else []
  | _, _ => []

/-- A drain on top of `rest` goes on from `m₁`, and has started to deliver some events. -/
inductive Draining (p : Program H σ ε) (id t : Nat) (rest : List (Frame H σ ε))
    (m₁ : Machine H σ ε) : List (Pending H) → Machine H σ ε → Prop where
  | opened : Draining p id t rest m₁ [] m₁
  | step {started n n'} :
    Draining p id t rest m₁ started n →
    rest.length < n.stack.length →
    step p n = .going n' →
    Draining p id t rest m₁ (started ++ fetched id t n n') n'

/-- The machine `n` is inside the outermost dispatch of a thread that `m` has made in a step to
`m₁`. Of the events dispatched since then, it has started to deliver some. -/
structure Inside (p : Program H σ ε) (id t : Nat) (rest : List (Frame H σ ε))
    (m m₁ : Machine H σ ε) (started : List (Pending H)) (n : Machine H σ ε) : Prop where
  outer : Outermost p id t rest m m₁
  run : Draining p id t rest m₁ started n
  above : rest.length < n.stack.length

variable {p : Program H σ ε} {m m' m₁ n n' : Machine H σ ε} {id t : Nat}
  {rest : List (Frame H σ ε)} {started : List (Pending H)}

/-- Nothing is fetched where no drain is on top. -/
lemma fetched_of_top (top : ∀ d u base, m.stack ≠ .drain d u :: base) :
    fetched id t m m' = [] := by
  rw [fetched]
  split
  · rename_i stack _
    exact absurd stack (top _ _ _)
  · rfl

/-- Nothing is fetched where no deliveries come to stand on a drain. -/
lemma fetched_of_top_next
    (top : ∀ order u e xs d v base, m'.stack ≠ .deliveries order u e xs :: .drain d v :: base) :
    fetched id t m m' = [] := by
  rw [fetched]
  split
  · rename_i stack
    exact absurd stack (top _ _ _ _ _ _ _)
  · rfl

/-- Scripts start nothing. -/
lemma fetched_of_plain {gs gs' base : List (Frame H σ ε)} (stack : m.stack = gs ++ base)
    (stack' : m'.stack = gs' ++ base) (popped : ∀ f ∈ gs, f.IsPlain)
    (pushed : ∀ f ∈ gs', f.IsIdle) : fetched id t m m' = [] := by
  cases gs with
  | cons g gs =>
    apply fetched_of_top
    intro d u base' top
    cases stack.symm.trans top
    cases popped _ List.mem_cons_self
  | nil =>
    cases gs' with
    | cons g gs' =>
      apply fetched_of_top_next
      intro order u e xs d v base' top
      obtain ⟨rfl, _⟩ := List.cons.inj (stack'.symm.trans top)
      cases pushed _ List.mem_cons_self
    | nil =>
      rw [fetched, stack, stack']
      split
      · rename_i top top'
        cases top.symm.trans top'
      · rfl

/-- Nor do posts. -/
lemma fetched_of_posted {m₀ : Machine H σ ε} (posting : Posting m m₀) (routed : Routed m₀ m') :
    fetched id t m m' = [] := by
  apply fetched_of_top_next
  intro order u e xs d v base top
  obtain ⟨f, fs, put, other⟩ : ∃ f fs, m₀.stack = f :: fs ∧ (f.IsPlain ∨ ∃ w, f = .join w) := by
    cases posting with
    | here stack _ _ => exact ⟨_, _, stack, .inl trivial⟩
    | elsewhere stack _ => exact ⟨_, _, stack, .inr ⟨_, rfl⟩⟩
  cases routed with
  | silent stack _ | waits stack _ _ _ _ =>
    cases (put.symm.trans stack.symm).trans top
    obtain plain | ⟨_, ⟨⟩⟩ := other
    cases plain
  | immediate stack _ _ _ =>
    rw [put] at stack
    cases stack.symm.trans top
    obtain plain | ⟨_, ⟨⟩⟩ := other
    cases plain
  | opens stack _ _ _ _ => cases stack.symm.trans top

/-- What was waiting and what is dispatched is started or waits, as long as the drain goes on. -/
lemma WellFormed.queue_move (wf : WellFormed m) (move : Move m m') {id t : Nat}
    (stays : .drain id t ∈ m'.stack) :
    ∃ os, m.state.Traffic m'.state os ∧
      fetched id t m m' ++ m'.state.waiting (id, t) =
        m.state.waiting (id, t) ++ dispatchesOf id t os := by
  -- Most moves leave all queues alone, and start nothing.
  have still {os : List (Occurrence H ε)} (traffic : m.state.Traffic m'.state os)
      (queues : m'.state.queues = m.state.queues) (quiet : dispatchesOf id t os = [])
      (none : fetched id t m m' = []) :
      ∃ os, m.state.Traffic m'.state os ∧
        fetched id t m m' ++ m'.state.waiting (id, t) =
          m.state.waiting (id, t) ++ dispatchesOf id t os := by
    refine ⟨os, traffic, ?_⟩
    rw [none, quiet, waiting_congr queues, List.nil_append, List.append_nil]
  cases move with
  | plain stack stack' popped pushed _ calm =>
    exact still calm.traffic calm.queues rfl (fetched_of_plain stack stack' popped pushed)
  | posted posting routed _ _ =>
    obtain ⟨os, traffic, waiting⟩ := routed.waiting id t
    refine ⟨os, posting.calm.traffic.trans traffic, ?_⟩
    rw [fetched_of_posted posting routed, waiting, waiting_congr posting.calm.queues]
    rfl
  | called stack _ _ _ queues _ traffic =>
    apply still traffic queues rfl (fetched_of_top _)
    rw [stack]
    rintro _ _ _ ⟨⟩
  | putOff stack _ _ _ queues traffic =>
    apply still traffic queues rfl (fetched_of_top _)
    rw [stack]
    rintro _ _ _ ⟨⟩
  | ran stack _ plain _ _ _ queues traffic =>
    apply still traffic queues rfl (fetched_of_top _)
    rw [stack]
    rintro _ _ _ ⟨⟩
    cases plain
  | left stack _ _ state _ _ =>
    apply still (.of_eq (congrArg _ state)) (congrArg _ state) rfl (fetched_of_top _)
    rw [stack]
    rintro _ _ _ ⟨⟩
  | joined stack _ _ state _ =>
    apply still (.of_eq (congrArg _ state)) (congrArg _ state) rfl (fetched_of_top _)
    rw [stack]
    rintro _ _ _ ⟨⟩
  | @fetched d u next q draining base stack stack' waiting _ queues _ traffic =>
    refine ⟨_, traffic, ?_⟩
    rw [Machine.fetched, stack, stack', waiting_set queues]
    by_cases same : d = id ∧ u = t
    · obtain ⟨rfl, rfl⟩ := same
      rw [waiting_of_get? waiting, if_pos rfl]
      simp [dispatchesOf]
    · rw [if_neg]
      · simp [dispatchesOf, same]
      · rintro ⟨⟩
        exact same ⟨rfl, rfl⟩
  | @closed d u base stack stack' _ queues _ traffic _ _ =>
    -- The queue of the drain that is over is not drained further down.
    have other : ¬(d = id ∧ u = t) := by
      rintro ⟨rfl, rfl⟩
      obtain ⟨_, once, _⟩ := (wf.coherent_of stack).of_drain
      rw [stack'] at stays
      exact once stays
    have none : Machine.fetched id t m m' = [] := by
      rw [Machine.fetched, stack]
      split
      · rename_i top _
        cases top
        exact if_neg other
      · rfl
    refine ⟨_, traffic, ?_⟩
    rw [none, waiting_erase queues, if_neg]
    · exact (List.append_nil _).symm
    · rintro ⟨⟩
      exact other ⟨rfl, rfl⟩

/-- Only the queues of the thread that acts change. -/
lemma WellFormed.get?_move (wf : WellFormed m) (move : Move m m') {d u : Nat}
    (other : m.thread ≠ u) (other' : m'.thread ≠ u) :
    m'.state.queues.get? (d, u) = m.state.queues.get? (d, u) := by
  have elsewhere {v : Nat} (ne : v ≠ u) (d' : Nat) : (d', v) ≠ (d, u) := by
    rintro ⟨⟩
    exact ne rfl
  cases move with
  | plain _ _ _ _ _ calm => rw [calm.queues]
  | posted posting routed thread _ =>
    rw [← posting.calm.queues]
    rw [thread] at other'
    cases routed with
    | silent _ calm => rw [calm.queues]
    | immediate _ queues _ _ => rw [queues]
    | waits _ _ queues _ _ => rw [queues, Table.get?_set, if_neg (elsewhere other' _)]
    | opens _ _ queues _ _ => rw [queues, Table.get?_set, if_neg (elsewhere other' _)]
  | called _ _ _ _ queues _ _ => rw [queues]
  | putOff _ _ _ _ queues _ => rw [queues]
  | ran _ _ _ _ _ _ queues _ => rw [queues]
  | left _ _ _ state _ _ => rw [state]
  | joined _ _ _ state _ => rw [state]
  | fetched stack _ _ _ queues _ _ =>
    obtain ⟨rfl, _⟩ := (wf.coherent_of stack).of_drain
    rw [queues, Table.get?_set, if_neg (elsewhere other _)]
  | closed stack _ _ queues _ _ _ _ =>
    obtain ⟨rfl, _⟩ := (wf.coherent_of stack).of_drain
    rw [queues, Table.get?_erase, if_neg (elsewhere other _)]

/-- A move keeps the keys of the queues apart. -/
lemma Move.keys_nodup (move : Move m m') (once : m.state.queues.keys.Nodup) :
    m'.state.queues.keys.Nodup := by
  cases move with
  | plain _ _ _ _ _ calm => rwa [calm.queues]
  | posted posting routed _ _ =>
    rw [← posting.calm.queues] at once
    cases routed with
    | silent _ calm => rwa [calm.queues]
    | immediate _ queues _ _ => rwa [queues]
    | waits _ _ queues _ _ => exact queues ▸ Table.nodup_set once _ _
    | opens _ _ queues _ _ => exact queues ▸ Table.nodup_set once _ _
  | called _ _ _ _ queues _ _ => rwa [queues]
  | putOff _ _ _ _ queues _ => rwa [queues]
  | ran _ _ _ _ _ _ queues _ => rwa [queues]
  | left _ _ _ state _ _ => rwa [state]
  | joined _ _ _ state _ => rwa [state]
  | fetched _ _ _ _ queues _ _ => exact queues ▸ Table.nodup_set once _ _
  | closed _ _ _ queues _ _ _ _ => exact queues ▸ Table.nodup_erase once _

/-- No key is twice in the map of a dispatcher. -/
lemma Reachable.keys_nodup (reach : Reachable p m) : m.state.queues.keys.Nodup := by
  induction reach with
  | first => exact List.nodup_nil
  | step _ st ih => exact (step_move st).keys_nodup ih
  | next _ _ _ _ st ih =>
    obtain ⟨_, rfl⟩ := stack_of_ended st
    exact ih
  | pool _ st ih =>
    obtain ⟨_, rfl⟩ := stack_of_ended st
    exact ih

/-- A drain that goes on is a run above the rest of the stack. -/
lemma Draining.within (run : Draining p id t rest m₁ started n) : Within p rest m₁ n := by
  induction run with
  | opened => exact .refl
  | step _ above st ih => exact .tail ih above st

namespace Inside

variable (inside : Inside p id t rest m m₁ started n)

include inside

/-- The machine inside a dispatch comes about. -/
lemma reachable : Reachable p n :=
  inside.run.within.reachable inside.outer.reachable_next

/-- The drain is on its stack, above the rest. -/
lemma stack : ∃ fs, n.stack = fs ++ .drain id t :: rest := by
  have above := inside.above
  cases inside.outer.phase inside.run.within with
  | going stack _ _ => exact ⟨_, stack⟩
  | done stack _ _ => exact absurd stack (stack_ne_of_above above)
  | failed stack _ =>
    obtain stack | stack := stack
    · exact ⟨[], stack⟩
    · exact absurd stack (stack_ne_of_above above)

/-- A step that stays above the rest goes on with the drain. -/
lemma next (st : step p n = .going n') (above : rest.length < n'.stack.length) :
    Inside p id t rest m m₁ (started ++ fetched id t n n') n' :=
  ⟨inside.outer, .step inside.run inside.above st, above⟩

end Inside

/-- A drain that is new on the stack is on top of it. -/
lemma Move.opened (move : Move m m') (fresh : .drain id t ∉ m.stack)
    (mem : .drain id t ∈ m'.stack) : ∃ rest, m'.stack = .drain id t :: rest := by
  -- No other move than a post puts a drain on the stack.
  have kept (same : Frame.drain id t ∈ m'.stack → Frame.drain id t ∈ m.stack) :
      ∃ rest, m'.stack = .drain id t :: rest :=
    absurd (same mem) fresh
  cases move with
  | plain stack stack' popped pushed _ _ =>
    apply kept
    rw [stack, stack', drain_mem_append popped,
      drain_mem_append (fun f mem => (pushed f mem).isPlain)]
    exact fun mem => mem
  | posted posting routed _ _ =>
    cases routed with
    | silent stack _ | waits stack _ _ _ _ =>
      apply kept
      rw [stack, posting.drain_mem]
      exact fun mem => mem
    | immediate stack _ _ _ =>
      apply kept
      rw [stack, ← posting.drain_mem]
      simp
    | opens stack _ _ _ _ =>
      rw [stack, List.mem_cons] at mem
      obtain same | mem := mem
      · cases same
        exact ⟨_, stack⟩
      · exact absurd (posting.drain_mem.1 mem) fresh
  | called stack stack' _ _ _ _ _ | putOff stack stack' _ _ _ _ | left stack stack' _ _ _ _
  | fetched stack stack' _ _ _ _ _ | joined stack stack' _ _ _ =>
    apply kept
    rw [stack, stack']
    simp
  | closed stack stack' _ _ _ _ _ _ =>
    apply kept
    rw [stack, stack']
    exact List.mem_cons_of_mem _
  | @ran f f' _ _ _ stack stack' _ plain' _ _ _ _ =>
    have other : Frame.drain id t ≠ f' := by
      rintro rfl
      exact plain'
    apply kept
    intro above
    rw [stack', List.mem_cons, List.mem_cons, or_iff_right other] at above
    rw [stack]
    cases above with
    | inl same => cases same
    | inr below => exact List.mem_cons_of_mem _ below

/-- Where a queue is drained, its dispatch is under way. -/
lemma Reachable.inside (reach : Reachable p n) (mem : .drain id t ∈ n.stack) :
    ∃ rest m m₁ started, Inside p id t rest m m₁ started n := by
  induction reach with
  | first => cases mem
  | next => cases mem
  | pool =>
    cases mem with
    | tail _ mem => cases mem
  | @step n n' reach st ih =>
    by_cases old : .drain id t ∈ n.stack
    · obtain ⟨rest, m, m₁, started, inside⟩ := ih old
      obtain ⟨fs, stack⟩ := inside.stack
      obtain ⟨fs', stack'⟩ | ⟨_, stack', _, _⟩ := (step_move st).above stack
      · refine ⟨rest, m, m₁, _, inside.next st ?_⟩
        rw [stack', List.length_append, List.length_cons]
        omega
      · rw [stack'] at mem
        exact absurd mem inside.outer.rest_free.1
    · obtain ⟨rest, stack⟩ := (step_move st).opened old mem
      refine ⟨rest, n, n', [], ⟨reach, st, old, stack⟩, .opened, ?_⟩
      rw [stack]
      exact Nat.lt_succ_self _

/-- A step that brings a drain to its end returns from it, or unwinds it. -/
lemma Turn.closing (turn : Turn p m m') (stack : m.stack = .drain id t :: rest)
    (stack' : m'.stack = rest) :
    m' = { m with state := m.state.closeQueue (id, t), stack := rest } ∧
      ((∃ payload, m.control = .unwind payload) ∨
        m.control = .back ∧ m.state.dequeue (id, t) = none) := by
  have grown (gs : List (Frame H σ ε)) (same : m'.stack = gs ++ m.stack) : False := by
    have length := congrArg List.length (same.symm.trans stack')
    rw [stack, List.length_append, List.length_cons] at length
    omega
  cases turn with
  | acts | panics | idles | survives => exact (grown [] rfl).elim
  | @posts bus e elsewhere next _ =>
    obtain ⟨gs, above⟩ := m.post_stack next elsewhere bus e
    exact (grown gs above).elim
  | runsBacklog => exact (grown [_] rfl).elim
  | fetches | pools => exact (grown [_] rfl).elim
  | fails fails => cases stack.symm.trans fails.stack
  | closes control top empty =>
    cases stack.symm.trans top
    exact ⟨rfl, .inr ⟨control, empty⟩⟩
  | breaks control top =>
    cases stack.symm.trans top
    exact ⟨rfl, .inl ⟨_, control⟩⟩
  | delivered _ top | reported _ top | resumes _ top | delivers _ top | calls _ top _
  | defers _ top _ | handsOff _ top _ | joins top | takes _ top _ | ran _ top | rests _ top
  | leaves _ top | catches _ top =>
    cases stack.symm.trans top
  | drops _ top lost =>
    cases stack.symm.trans top
    cases lost

/-- What a queue and its drain have come to: all that was dispatched has been started or waits, and
of what has been started `left` has not been submitted. The deliveries that stand above the drain
owe it, unless a panic has given them up. -/
structure Account (id t : Nat) (rest : List (Frame H σ ε)) (m : Machine H σ ε)
    (started : List (Pending H)) (n : Machine H σ ε) (os : List (Occurrence H ε))
    (fs : List (Frame H σ ε)) (left : List (Event × Subscriber H)) : Prop where
  traffic : m.state.Traffic n.state os
  stack : n.stack = fs ++ .drain id t :: rest
  dispatches : dispatchesOf id t os = started ++ n.state.waiting (id, t)
  submissions : submissionsOf id t os ++ left = started.flatMap Pending.deliveries
  owed : left = fs.flatMap (Frame.owed id t) ∨ fs = [] ∧ ∃ payload, n.control = .unwind payload

/-- What is pending is owed above the drain or waits in its queue. -/
lemma pending_of_stack {fs : List (Frame H σ ε)} (stack : n.stack = fs ++ .drain id t :: rest)
    (free : rest.flatMap (Frame.owed id t) = []) :
    n.pending id t = fs.flatMap (Frame.owed id t) ++
      (n.state.waiting (id, t)).flatMap Pending.deliveries := by
  rw [pending, stack, List.flatMap_append, List.flatMap_cons, free]
  rw [show Frame.owed id t (.drain id t : Frame H σ ε) = [] from rfl, List.nil_append,
    List.append_nil]

/-- The account is kept by each step inside the dispatch. -/
lemma Account.step {os : List (Occurrence H ε)} {fs : List (Frame H σ ε)}
    {left : List (Event × Subscriber H)} (account : Account id t rest m started n os fs left)
    (wf : WellFormed n) (free : rest.flatMap (Frame.owed id t) = [])
    (st : Machine.step p n = .going n') (above : rest.length < n'.stack.length) :
    ∃ os fs left, Account id t rest m (started ++ fetched id t n n') n' os fs left := by
  obtain ⟨traffic, stack, dispatches, submissions, owed⟩ := account
  have move := step_move st
  obtain ⟨fs', stack'⟩ : ∃ fs', n'.stack = fs' ++ .drain id t :: rest := by
    obtain up | ⟨_, down, _, _⟩ := move.above stack
    · exact up
    · exact absurd down (stack_ne_of_above above)
  -- A panic that has come down to the drain ends it in this step.
  have last {payload : Payload} (control : n.control = .unwind payload)
      (top : n.stack = .drain id t :: rest) : False := by
    rw [Machine.step, control] at st
    dsimp only at st
    rw [unwind, top] at st
    cases st
    exact absurd above (Nat.lt_irrefl _)
  have stays : .drain id t ∈ n'.stack := by simp [stack']
  obtain ⟨os', traffic', queue⟩ := wf.queue_move move stays
  have dispatches' : dispatchesOf id t (os ++ os') =
      (started ++ fetched id t n n') ++ n'.state.waiting (id, t) := by
    rw [dispatchesOf_append, dispatches, List.append_assoc, ← queue, List.append_assoc]
  obtain ⟨os'', traffic'', accounts⟩ := wf.accounts_move id t move
  cases traffic'.unique traffic''
  obtain owed | ⟨rfl, payload, control⟩ := owed
  · obtain accounts | ⟨gives, rfl, _⟩ := accounts
    · refine ⟨_, fs', _, traffic.trans traffic', stack', dispatches', ?_, .inl rfl⟩
      -- What waits afterwards is the same on both sides of the account.
      rw [Accounts, pending_of_stack stack free, pending_of_stack stack' free, ← owed,
        List.append_assoc, ← List.flatMap_append, ← queue, List.flatMap_append,
        ← List.append_assoc, ← List.append_assoc] at accounts
      have account := List.append_cancel_right accounts
      rw [submissionsOf_append, List.append_assoc, account, ← List.append_assoc, submissions,
        List.flatMap_append]
    · obtain ⟨payload, control, top | ⟨e, xs, top⟩⟩ := gives.stack_eq wf stack
      · exact (last control top).elim
      · have down : n' = { n with stack := .drain id t :: rest } := by
          rw [Machine.step, control] at st
          dsimp only at st
          rw [unwind, top] at st
          cases st
          rfl
        have none : fetched id t n n' = [] := by
          apply fetched_of_top
          rw [top]
          rintro _ _ _ ⟨⟩
        refine ⟨_, [], left, traffic.trans traffic', ?_, dispatches', ?_, .inr ⟨rfl, payload, ?_⟩⟩
        · rw [down]
          rfl
        · rw [none, List.append_nil, List.append_nil, submissions]
        · rw [down]
          exact control
  · exact (last control stack).elim

namespace Inside

variable (inside : Inside p id t rest m m₁ started n)

include inside

/-- There is an account of everything inside the dispatch. -/
lemma account : ∃ os fs left, Account id t rest m started n os fs left := by
  obtain ⟨outer, run, above⟩ := inside
  obtain ⟨first, opening⟩ := outer.opening
  induction run with
  | opened =>
    refine ⟨_, [], [], opening.traffic, outer.stack, ?_, rfl, .inl rfl⟩
    rw [waiting_set opening.queues, if_pos rfl]
    simp [dispatchesOf, Occurrence.dispatch?]
  | step run above' st ih =>
    obtain ⟨os, fs, left, account⟩ := ih above'
    have wf := (run.within.reachable outer.reachable_next).wellFormed
    exact account.step wf outer.rest_free.2 st above

/-- A queue further down that belongs to another thread is left alone. -/
lemma others {d u : Nat} (below : .drain d u ∈ rest) (other : u ≠ t) :
    n.state.queues.get? (d, u) = m.state.queues.get? (d, u) := by
  obtain ⟨outer, run, above⟩ := inside
  obtain ⟨first, opening⟩ := outer.opening
  induction run with
  | opened =>
    rw [opening.queues, Table.get?_set, if_neg]
    rintro ⟨⟩
    exact other rfl
  | step run above' st ih =>
    have before : Inside p id t rest m m₁ _ _ := ⟨outer, run, above'⟩
    have after := before.next st above
    have ne {m' : Machine H σ ε} {started : List (Pending H)}
        (inside : Inside p id t rest m m₁ started m') : m'.thread ≠ u := by
      obtain ⟨fs, stack⟩ := inside.stack
      exact inside.reachable.nesting.thread_ne inside.reachable.wellFormed stack below other
    rw [← ih above']
    exact before.reachable.wellFormed.get?_move (step_move st) (ne before) (ne after)

end Inside

/-- A delivery of a queue is submitted on the thread of the queue, right above the drain. -/
lemma WellFormed.submits (wf : WellFormed m) (move : Move m m') {e : Event} {x : Subscriber H}
    (mem : (e, x) ∈ submissionsOf id t (m'.state.since m.state)) :
    m.thread = t ∧ ∃ xs base,
      m.stack = .deliveries (.queued id) t e (x :: xs) :: .drain id t :: base := by
  obtain ⟨rfl, u, xs, base, stack, _⟩ := move.submits mem
  -- The deliveries of a queue stand on its drain.
  obtain ⟨rfl, _, on, _⟩ := (wf.coherent_of stack).of_deliveries
  obtain ⟨base, rfl⟩ := on id rfl
  exact ⟨rfl, xs, base, stack⟩

/-- What a step leaves that ends an outermost dispatch. -/
structure Over (id t : Nat) (rest : List (Frame H σ ε)) (m : Machine H σ ε)
    (started : List (Pending H)) (n n' : Machine H σ ε) : Prop where
  stack : n'.stack = rest
  gone : n'.state.queues.get? (id, t) = none
  kept : ∀ key, key ≠ (id, t) → n'.state.queues.get? key = n.state.queues.get? key
  others : ∀ d u, u ≠ t → n'.state.queues.get? (d, u) = m.state.queues.get? (d, u)
  way : (∃ payload, n'.control = .unwind payload) ∨
    n'.control = .back ∧ dispatchesOf id t (n'.state.since m.state) = started

namespace Inside

variable (inside : Inside p id t rest m m₁ started n)

include inside

/-- The step that leaves the drain ends the dispatch. -/
lemma ends (st : Machine.step p n = .going n') (down : n'.stack.length ≤ rest.length) :
    Over id t rest m started n n' := by
  obtain ⟨os, fs, left, account⟩ := inside.account
  obtain ⟨stack, stack'⟩ : n.stack = .drain id t :: rest ∧ n'.stack = rest := by
    obtain ⟨fs', up⟩ | ⟨stack, stack', _, _⟩ := (step_move st).above account.stack
    · rw [up, List.length_append, List.length_cons] at down
      omega
    · exact ⟨stack, stack'⟩
  obtain ⟨closed, way⟩ := (step_turn st).closing stack stack'
  obtain ⟨queues, _, traffic⟩ := closeQueue_queues n.state (id, t)
  have kept : ∀ key, key ≠ (id, t) → n'.state.queues.get? key = n.state.queues.get? key := by
    intro key other
    rw [closed, queues, Table.get?_erase, if_neg other.symm]
  refine ⟨stack', ?_, kept, ?_, ?_⟩
  · rw [closed, queues, Table.get?_erase, if_pos rfl]
  · intro d u other
    have ne : (d, u) ≠ (id, t) := by
      rintro ⟨⟩
      exact other rfl
    by_cases below : Frame.drain d u ∈ rest
    · rw [kept _ ne]
      exact inside.others below other
    · -- A thread that is not inside a dispatch any more was not before.
      have wf : WellFormed n' := (inside.reachable.step st).wellFormed
      have wf₁ : WellFormed m₁ := inside.outer.reachable_next.wellFormed
      obtain ⟨first, opening⟩ := inside.outer.opening
      have before : m₁.state.queues.get? (d, u) = none := by
        apply wf₁.none_of_not_mem
        rw [inside.outer.stack, List.mem_cons, not_or]
        refine ⟨?_, below⟩
        rintro ⟨⟩
        exact other rfl
      rw [opening.queues, Table.get?_set, if_neg ne.symm] at before
      rw [before]
      exact wf.none_of_not_mem (by rwa [stack'])
  · rw [closed]
    obtain unwinds | ⟨control, empty⟩ := way
    · exact .inl unwinds
    · refine .inr ⟨control, ?_⟩
      have none : n.state.waiting (id, t) = [] := by
        cases found : n.state.queues.get? (id, t) with
        | none => exact waiting_of_none found
        | some q =>
          rw [waiting_of_get? found]
          obtain ⟨waiting, draining⟩ := q
          cases waiting with
          | nil => rfl
          | cons next q =>
            rw [State.dequeue, found] at empty
            cases empty
      rw [(account.traffic.trans traffic).dispatchesOf_since, List.append_nil, account.dispatches,
        none, List.append_nil]

end Inside

/-- In any run, whatever buses share a queued dispatcher and however threads are nested:

* no key is twice in the map of queues, and the queues of the dispatcher are those of the threads
  that are inside an outermost dispatch of it, each marked as being drained;
* what a thread has dispatched since its outermost dispatch began is what has been started and then
  what waits in its queue, in the order of the dispatches, and what has been submitted is the
  beginning of the deliveries of what has been started;
* when the outermost dispatch ends, whether it returns or is unwound, the queue is gone, the queues
  of all other threads are the same as before this step and as before the dispatch, and if it
  returns, everything has been started;
* a delivery is submitted on the thread that has dispatched the event, by the drain of its queue. -/
theorem queues_mirror_dispatches (reach : Reachable p n) (id : Nat) :
    n.state.queues.keys.Nodup ∧
    (∀ t, (∃ rest m m₁ started, Inside p id t rest m m₁ started n) ∧
        (∃ waiting, n.state.queues.get? (id, t) = some ⟨waiting, true⟩) ∨
      (¬∃ rest m m₁ started, Inside p id t rest m m₁ started n) ∧
        n.state.queues.get? (id, t) = none) ∧
    (∀ t rest m m₁ started, Inside p id t rest m m₁ started n →
      dispatchesOf id t (n.state.since m.state) = started ++ n.state.waiting (id, t) ∧
      submissionsOf id t (n.state.since m.state) <+: started.flatMap Pending.deliveries ∧
      ∀ n', Machine.step p n = .going n' → n'.stack.length ≤ rest.length →
        Over id t rest m started n n') ∧
    ∀ n' t e x, Machine.step p n = .going n' →
      (e, x) ∈ submissionsOf id t (n'.state.since n.state) →
      n.thread = t ∧ ∃ rest m m₁ started xs, Inside p id t rest m m₁ started n ∧
        n.stack = .deliveries (.queued id) t e (x :: xs) :: .drain id t :: rest ∧
        (e, x) ∈ started.flatMap Pending.deliveries := by
  have wf := reach.wellFormed
  refine ⟨reach.keys_nodup, ?_, ?_, ?_⟩
  · intro t
    by_cases drained : Frame.drain id t ∈ n.stack
    · exact .inl ⟨reach.inside drained, wf.open_of_mem drained⟩
    · refine .inr ⟨?_, wf.none_of_not_mem drained⟩
      rintro ⟨rest, m, m₁, started, inside⟩
      obtain ⟨fs, stack⟩ := inside.stack
      apply drained
      simp [stack]
  · intro t rest m m₁ started inside
    obtain ⟨os, fs, left, account⟩ := inside.account
    rw [account.traffic.dispatchesOf_since, account.traffic.submissionsOf_since]
    exact ⟨account.dispatches, ⟨left, account.submissions⟩, fun n' => inside.ends⟩
  · intro n' t e x st mem
    obtain ⟨thread, xs, base, stack⟩ := wf.submits (step_move st) mem
    have drained : .drain id t ∈ n.stack := by simp [stack]
    obtain ⟨rest, m, m₁, started, inside⟩ := reach.inside drained
    obtain ⟨os, fs, left, account⟩ := inside.account
    -- The drain below the deliveries is the one of the dispatch.
    have once := (wf.coherent_of account.stack).drain_not_mem
    obtain ⟨fs', rfl, below⟩ := above_cons (account.stack.symm.trans stack) (by rintro ⟨⟩)
    cases fs' with
    | cons f fs' =>
      cases below
      exact absurd (List.mem_cons_of_mem _ List.mem_cons_self) once
    | nil =>
      cases below
      refine ⟨thread, _, m, m₁, started, xs, inside, stack, ?_⟩
      obtain owed | ⟨⟨⟩, _⟩ := account.owed
      rw [← account.submissions, owed]
      simp [Frame.owed, Pending.deliveries]

namespace Errand

/-- A handler that answers a first note with a second one, on another bus and from another thread.
-/
def program : Program Unit Unit Unit where
  handle _ e :=
    match e with
    | .free _ _ "first" _ _ => .post 2 (Echo.note "second") true (.finish (.ok ()))
    | _ => .finish (.ok ())
  report _ _ _ := .finish (.ok ())

/-- Two buses that share a dispatcher, each with a handler of notes. -/
def script : Script Unit Unit Unit :=
  .newDispatcher fun d =>
  .build ⟨"one", .direct, .plain (.queued d), .log⟩ fun b =>
  .build ⟨"two", .direct, .plain (.queued d), .log⟩ fun b' =>
  .register b.id ⟨1, "Listener", "listener"⟩ [Echo.binding "on_note"] fun _ =>
  .register b'.id ⟨1, "Listener", "listener"⟩ [Echo.binding "on_note"] fun _ =>
  .post b.id (Echo.note "first") false (.finish (.ok ()))

def machine (n : Nat) : Machine Unit Unit Unit :=
  after program (start (.initial .empty ()) script) n

end Errand

/-- While the second note waits on its thread, the first thread is inside its own dispatch, with
nothing waiting, and the thread of the pool is in none. -/
theorem errand_queues :
    (Errand.machine 9).state.queues.keys = [(0, 0), (0, 2)] ∧
    ((Errand.machine 9).state.waiting (0, 0)).length = 0 ∧
    ((Errand.machine 9).state.waiting (0, 2)).length = 1 ∧
    (∃ rest m m₁ started, Inside Errand.program 0 0 rest m m₁ started (Errand.machine 9)) ∧
    (∃ rest m m₁ started, Inside Errand.program 0 2 rest m m₁ started (Errand.machine 9)) ∧
    ¬∃ rest m m₁ started, Inside Errand.program 0 1 rest m m₁ started (Errand.machine 9) := by
  have reach : Reachable Errand.program (Errand.machine 9) := (Reachable.first ..).after 9
  obtain ⟨_, each, _, _⟩ := queues_mirror_dispatches reach 0
  have keys : (Errand.machine 9).state.queues.keys = [(0, 0), (0, 2)] := by cbv
  have open_ {t : Nat} (mem : (0, t) ∈ (Errand.machine 9).state.queues.keys) :
      ∃ rest m m₁ started, Inside Errand.program 0 t rest m m₁ started (Errand.machine 9) := by
    obtain ⟨inside, _⟩ | ⟨_, none⟩ := each t
    · exact inside
    · exact absurd mem ((Table.get?_eq_none_iff _ _).1 none)
  refine ⟨keys, by cbv, by cbv, open_ ?_, open_ ?_, ?_⟩
  · rw [keys]
    exact List.mem_cons_self
  · rw [keys]
    exact List.mem_cons_of_mem _ List.mem_cons_self
  · obtain ⟨_, waiting, found⟩ | ⟨outside, _⟩ := each 1
    · have absent : (Errand.machine 9).state.queues.get? (0, 1) = none := by cbv
      rw [absent] at found
      cases found
    · exact outside

end Machine

end EventBus
