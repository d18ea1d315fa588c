import EventBus.Proofs.Queue.Pending

/-!
# The drain of a queue

An outermost dispatch on a thread opens a queue and drains it; what is dispatched to the same
dispatcher in the course of it waits in that queue. `drain_submits_all` says what such a drain comes
to when no panic cuts it short: every event that was dispatched has been submitted to each of its
subscribers, one event after the other in the order of the dispatches.
-/

namespace EventBus

variable {H σ ε : Type}

namespace Machine

/-- The machine goes on from one machine to another, with something above `rest` all the while. -/
inductive Within (p : Program H σ ε) (rest : List (Frame H σ ε)) :
    Machine H σ ε → Machine H σ ε → Prop where
  | refl {m} : Within p rest m m
  | tail {m m₁ m₂} :
    Within p rest m m₁ →
    rest.length < m₁.stack.length →
    step p m₁ = .going m₂ →
    Within p rest m m₂

/-- A step from `m` to `m₁` that opens the queue of a dispatcher on a thread, to drain it on top of
`rest`. -/
structure Outermost (p : Program H σ ε) (id t : Nat) (rest : List (Frame H σ ε))
    (m m₁ : Machine H σ ε) : Prop where
  reachable : Reachable p m
  step : step p m = .going m₁
  outer : .drain id t ∉ m.stack
  stack : m₁.stack = .drain id t :: rest

/-- The handlers running that deliveries of a queued dispatcher on a thread have called. -/
def drivenBy (id t : Nat) : List (Frame H σ ε) → List (Event × Subscriber H)
  | .handling e x :: .deliveries (.queued d) u _ _ :: fs =>
    if d = id ∧ u = t then (e, x) :: drivenBy id t fs else drivenBy id t fs
  | _ :: fs => drivenBy id t fs
  | [] => []

variable {p : Program H σ ε} {m m' m'' m₁ m₂ : Machine H σ ε} {id t : Nat}
  {rest : List (Frame H σ ε)}

/-- What a run above a stack leads to comes about. -/
lemma Within.reachable (run : Within p rest m m') (reach : Reachable p m) : Reachable p m' := by
  induction run with
  | refl => exact reach
  | tail _ _ st ih => exact .step ih st

/-- There is an account of its traffic. -/
lemma Within.traffic (run : Within p rest m m') (reach : Reachable p m) :
    ∃ os, m.state.Traffic m'.state os := by
  induction run with
  | refl => exact ⟨[], .of_eq rfl⟩
  | tail run _ st ih =>
    obtain ⟨os, traffic⟩ := ih
    -- The traffic is the same for whatever queue it is accounted for.
    obtain ⟨os', traffic', _⟩ := (run.reachable reach).wellFormed.accounts_move 0 0 (step_move st)
    exact ⟨_, traffic.trans traffic'⟩

/-- A machine that stays above a stack for some steps has such a run. -/
lemma Within.after {n k : Nat}
    (going : ∀ i < k, rest.length < (Machine.after p m (n + i)).stack.length ∧
      goesOn p (Machine.after p m (n + i))) :
    Within p rest (Machine.after p m n) (Machine.after p m (n + k)) := by
  induction k with
  | zero => exact .refl
  | succ k ih =>
    obtain ⟨above, goes⟩ := going k (Nat.lt_succ_self k)
    refine .tail (ih ?_) above (step_after goes)
    intro i less
    exact going i (Nat.lt_succ_of_lt less)

/-- A stack that is higher is another one. -/
lemma stack_ne_of_above (above : rest.length < m.stack.length) : m.stack ≠ rest := by
  rintro same
  rw [same] at above
  exact absurd above (Nat.lt_irrefl _)

/-- Plain frames on top of others do not reach down to a drain. -/
lemma above_plain {fs gs base : List (Frame H σ ε)} (plain : ∀ f ∈ gs, f.IsPlain)
    (same : fs ++ .drain id t :: rest = gs ++ base) :
    ∃ fs', fs = gs ++ fs' ∧ base = fs' ++ .drain id t :: rest := by
  obtain ⟨fs', rfl, below⟩ | ⟨gs', rfl, below⟩ := List.append_eq_append_iff.1 same
  · cases fs' with
    | nil => exact ⟨[], by simp, by simpa using below.symm⟩
    | cons f fs' =>
      cases below
      cases plain (.drain id t) (by simp)
  · exact ⟨gs', rfl, below⟩

/-- A frame on top that is not the drain stands above it. -/
lemma above_cons {f : Frame H σ ε} {fs base : List (Frame H σ ε)}
    (same : fs ++ .drain id t :: rest = f :: base) (other : f ≠ .drain id t) :
    ∃ fs', fs = f :: fs' ∧ base = fs' ++ .drain id t :: rest := by
  cases fs with
  | nil =>
    cases same
    exact absurd rfl other
  | cons g fs =>
    cases same
    exact ⟨fs, rfl, rfl⟩

/-- A move keeps what a drain stands on, and the drain as well unless it is that drain which is over
or given up. -/
lemma Move.above (move : Move m m') {fs : List (Frame H σ ε)}
    (stack : m.stack = fs ++ .drain id t :: rest) :
    (∃ fs', m'.stack = fs' ++ .drain id t :: rest) ∨
      m.stack = .drain id t :: rest ∧ m'.stack = rest ∧ m'.control = m.control ∧
        m'.state.queues = m.state.queues.erase (id, t) := by
  cases move with
  | plain stack₁ stack' popped pushed _ _ =>
    left
    rw [stack] at stack₁
    obtain ⟨fs', rfl, rfl⟩ := above_plain popped stack₁
    exact ⟨_, by rw [stack', List.append_assoc]⟩
  | posted posting routed _ _ =>
    left
    obtain ⟨fs₀, stack₀⟩ : ∃ fs₀, _ = fs₀ ++ .drain id t :: rest := by
      cases posting with
      | here stack₀ _ _ => exact ⟨_ :: fs, stack₀.trans (by rw [stack, List.cons_append])⟩
      | elsewhere stack₀ _ => exact ⟨_ :: _ :: fs, stack₀.trans (by rw [stack]; rfl)⟩
    cases routed with
    | silent stack' _ => exact ⟨fs₀, stack'.trans stack₀⟩
    | immediate stack' _ _ _ => exact ⟨_ :: fs₀, stack'.trans (congrArg _ stack₀)⟩
    | waits stack' _ _ _ _ => exact ⟨fs₀, stack'.trans stack₀⟩
    | opens stack' _ _ _ _ => exact ⟨_ :: fs₀, stack'.trans (congrArg _ stack₀)⟩
  | called stack₁ stack' _ _ _ _ _ =>
    left
    rw [stack] at stack₁
    obtain ⟨fs', rfl, rfl⟩ := above_cons stack₁ (by rintro ⟨⟩)
    exact ⟨_ :: _ :: fs', stack'⟩
  | putOff stack₁ stack' _ _ _ _ =>
    left
    rw [stack] at stack₁
    obtain ⟨fs', rfl, rfl⟩ := above_cons stack₁ (by rintro ⟨⟩)
    exact ⟨_ :: fs', stack'⟩
  | ran stack₁ stack' plain _ _ _ _ _ =>
    left
    rw [stack] at stack₁
    obtain ⟨fs', rfl, rfl⟩ := above_cons stack₁ (by rintro rfl; exact plain)
    exact ⟨_ :: _ :: fs', stack'⟩
  | left stack₁ stack' _ _ _ _ =>
    left
    rw [stack] at stack₁
    obtain ⟨fs', rfl, rfl⟩ := above_cons stack₁ (by rintro ⟨⟩)
    exact ⟨fs', stack'⟩
  | fetched stack₁ stack' _ _ _ _ _ =>
    left
    rw [stack, ← stack₁] at *
    exact ⟨_ :: fs, by rw [stack']; rfl⟩
  | @closed d u base stack₁ stack' _ queues _ _ control _ =>
    rw [stack] at stack₁
    cases fs with
    | nil =>
      cases stack₁
      exact .inr ⟨stack, stack', control, queues⟩
    | cons f fs =>
      cases stack₁
      exact .inl ⟨fs, stack'⟩
  | joined stack₁ stack' _ _ _ =>
    left
    rw [stack] at stack₁
    obtain ⟨fs', rfl, rfl⟩ := above_cons stack₁ (by rintro ⟨⟩)
    exact ⟨fs', stack'⟩

/-- A machine about to post has the drains that it had. -/
lemma Posting.drain_mem (posting : Posting m m') :
    .drain id t ∈ m'.stack ↔ .drain id t ∈ m.stack := by
  cases posting with
  | here stack _ _ => simp [stack]
  | elsewhere stack _ => simp [stack]

/-- Without its top frame a stack is still in order, for some thread. -/
lemma Coherent.tail {u : Nat} {f : Frame H σ ε} {fs : List (Frame H σ ε)}
    (h : Coherent u (f :: fs)) : ∃ v, Coherent v fs := by
  cases h with
  | plain _ h => exact ⟨_, h⟩
  | immediate h => exact ⟨_, h⟩
  | queued h => exact ⟨_, h⟩
  | drain _ h => exact ⟨_, h⟩
  | join h => exact ⟨_, h⟩

/-- No queue is drained again above its drain. -/
lemma Coherent.drain_not_mem {u : Nat} {fs : List (Frame H σ ε)}
    (h : Coherent u (fs ++ .drain id t :: rest)) : .drain id t ∉ fs := by
  induction fs generalizing u with
  | nil => exact List.not_mem_nil
  | cons f fs ih =>
    rw [List.mem_cons]
    rintro (rfl | mem)
    · obtain ⟨_, once, _⟩ := Coherent.of_drain h
      exact once (List.mem_append_right _ List.mem_cons_self)
    · obtain ⟨v, h⟩ := Coherent.tail h
      exact ih h mem

/-- What a panic is about to give up stands right on the drain, or is the drain. -/
lemma GivesUp.stack_eq (gives : GivesUp id t m) (wf : WellFormed m) {fs : List (Frame H σ ε)}
    (stack : m.stack = fs ++ .drain id t :: rest) :
    ∃ payload, m.control = .unwind payload ∧
      (m.stack = .drain id t :: rest ∨
        ∃ e xs, m.stack = .deliveries (.queued id) t e xs :: .drain id t :: rest) := by
  have once := (wf.coherent_of stack).drain_not_mem
  cases gives with
  | drain control top =>
    refine ⟨_, control, .inl ?_⟩
    rw [stack] at top
    cases fs with
    | nil => exact stack
    | cons f fs =>
      cases top
      exact absurd List.mem_cons_self once
  | @deliveries payload e xs _ control top =>
    refine ⟨_, control, .inr ⟨e, xs, ?_⟩⟩
    have coherent := wf.coherent_of top
    obtain ⟨rfl, _, on, _⟩ := coherent.of_deliveries
    -- The deliveries stand on a drain of the same queue, and there is only one.
    obtain ⟨base, rfl⟩ := on id rfl
    rw [stack] at top
    obtain ⟨fs', rfl, below⟩ := above_cons top (by rintro ⟨⟩)
    cases fs' with
    | nil => exact stack
    | cons f fs' =>
      cases below
      exact absurd (List.mem_cons_of_mem _ List.mem_cons_self) once

/-- How far the drain has come that `m` starts with. -/
inductive Phase (id t : Nat) (rest : List (Frame H σ ε)) (m m' : Machine H σ ε) : Prop where
  | going {fs os} (stack : m'.stack = fs ++ .drain id t :: rest)
      (traffic : m.state.Traffic m'.state os) (accounts : Accounts id t m m' os)
  | done {os} (stack : m'.stack = rest) (traffic : m.state.Traffic m'.state os)
      (accounts : Accounts id t m m' os)
  | failed {payload} (stack : m'.stack = .drain id t :: rest ∨ m'.stack = rest)
      (control : m'.control = .unwind payload)

/-- A panic goes on through the drain on top. -/
lemma Phase.step_failed {payload : Payload} (stack : m'.stack = .drain id t :: rest)
    (control : m'.control = .unwind payload) (st : step p m' = .going m'') :
    Phase id t rest m m'' := by
  rw [Machine.step, control] at st
  dsimp only at st
  rw [unwind, stack] at st
  cases st
  exact .failed (.inr rfl) control

/-- A step above the rest of the stack goes from phase to phase. -/
lemma Phase.step (phase : Phase id t rest m m') (wf : WellFormed m')
    (above : rest.length < m'.stack.length) (st : step p m' = .going m'') :
    Phase id t rest m m'' := by
  cases phase with
  | going stack traffic accounts =>
    obtain ⟨os', traffic', accounts' | ⟨gives, _, _⟩⟩ := wf.accounts_move id t (step_move st)
    · obtain ⟨fs', stack'⟩ | ⟨_, stack', _, _⟩ := (step_move st).above stack
      · exact .going stack' (traffic.trans traffic') (accounts.trans accounts')
      · exact .done stack' (traffic.trans traffic') (accounts.trans accounts')
    · obtain ⟨payload, control, stack | ⟨e, xs, stack⟩⟩ := gives.stack_eq wf stack
      · exact .step_failed stack control st
      · rw [Machine.step, control] at st
        dsimp only at st
        rw [unwind, stack] at st
        cases st
        exact .failed (.inl rfl) control
  | done stack _ _ => exact absurd stack (stack_ne_of_above above)
  | failed stack control =>
    obtain stack | stack := stack
    · exact .step_failed stack control st
    · exact absurd stack (stack_ne_of_above above)

/-- So does a run. -/
lemma Phase.within (phase : Phase id t rest m m₁) (run : Within p rest m₁ m₂)
    (reach : Reachable p m₁) : Phase id t rest m m₂ := by
  induction run with
  | refl => exact phase
  | tail run above st ih => exact ih.step (run.reachable reach).wellFormed above st

/-- What an outermost dispatch comes to: `first` is put into an empty queue. -/
structure Opening (id t : Nat) (rest : List (Frame H σ ε)) (m m₁ : Machine H σ ε)
    (first : Pending H) : Prop where
  free : m.state.queues.get? (id, t) = none
  queues : m₁.state.queues = m.state.queues.set (id, t) ⟨[first], true⟩
  backlog : m₁.state.backlog = m.state.backlog
  traffic : m.state.Traffic m₁.state [.dispatched t (.queued id) first.event first.subscribers]
  below : ∀ e x fs, rest ≠ .handling e x :: fs

/-- An outermost dispatch opens a queue. -/
lemma Outermost.opening (outer : Outermost p id t rest m m₁) :
    ∃ first, Opening id t rest m m₁ first := by
  obtain ⟨reach, st, fresh, stack⟩ := outer
  have wf := reach.wellFormed
  -- No other move than a post puts a drain on the stack.
  cases step_move st with
  | plain stack₀ stack₁ _ pushed _ _ =>
    have stack : m₁.stack = [] ++ .drain id t :: rest := stack
    obtain ⟨fs', _, rfl⟩ := above_plain (fun f mem => (pushed f mem).isPlain)
      (stack.symm.trans stack₁)
    exact absurd (by simp [stack₀]) fresh
  | @posted m₀ posting routed _ _ =>
    have below : .drain id t ∉ m₀.stack := fun mem => fresh (posting.drain_mem.1 mem)
    have calm := posting.calm
    cases routed with
    | silent stack₁ _ =>
      rw [stack] at stack₁
      exact absurd (by rw [← stack₁]; exact List.mem_cons_self) below
    | immediate stack₁ _ _ _ => cases stack.symm.trans stack₁
    | waits stack₁ _ _ _ _ =>
      rw [stack] at stack₁
      exact absurd (by rw [← stack₁]; exact List.mem_cons_self) below
    | opens stack₁ idle queues backlog traffic =>
      cases stack.symm.trans stack₁
      have free := wf.none_of_not_mem fresh
      rw [calm.queues] at idle queues
      rw [free] at idle
      obtain ⟨_, rfl⟩ | idle := idle
      · refine ⟨_, free, queues, backlog.trans calm.backlog, calm.traffic.trans traffic, ?_⟩
        intro e x fs top
        cases posting with
        | here stack₀ _ _ => cases stack₀.symm.trans top
        | elsewhere stack₀ _ => cases stack₀.symm.trans top
      · cases idle
  | called _ stack₁ _ _ _ _ _ => cases stack.symm.trans stack₁
  | putOff _ stack₁ _ _ _ _ => cases stack.symm.trans stack₁
  | ran _ stack₁ _ _ _ _ _ _ => cases stack.symm.trans stack₁
  | fetched _ stack₁ _ _ _ _ _ => cases stack.symm.trans stack₁
  | left stack₀ stack₁ _ _ _ _ =>
    cases stack₁.symm.trans stack
    exact absurd (by simp [stack₀]) fresh
  | closed stack₀ stack₁ _ _ _ _ _ _ =>
    cases stack₁.symm.trans stack
    exact absurd (by simp [stack₀]) fresh
  | joined stack₀ stack₁ _ _ _ =>
    cases stack₁.symm.trans stack
    exact absurd (by simp [stack₀]) fresh

/-- The machine after the outermost dispatch comes about. -/
lemma Outermost.reachable_next (outer : Outermost p id t rest m m₁) : Reachable p m₁ :=
  .step outer.reachable outer.step

/-- A drain stands on nothing that belongs to its queue. -/
lemma Outermost.rest_free (outer : Outermost p id t rest m m₁) :
    .drain id t ∉ rest ∧ rest.flatMap (Frame.owed id t) = [] := by
  have coherent := outer.reachable_next.wellFormed.coherent_of outer.stack
  obtain ⟨_, free, coherent⟩ := coherent.of_drain
  exact ⟨free, coherent.owed_eq_nil free⟩

/-- A run from the outermost dispatch is in one of the phases. -/
lemma Outermost.phase (outer : Outermost p id t rest m m₁) (run : Within p rest m₁ m₂) :
    Phase id t rest m m₂ := by
  obtain ⟨first, opening⟩ := outer.opening
  have stack : m₁.stack = [] ++ .drain id t :: rest := outer.stack
  apply (Phase.going stack opening.traffic ?_).within run outer.reachable_next
  rw [Accounts, outer.reachable.wellFormed.pending_eq_nil outer.outer, pending, outer.stack,
    waiting_set opening.queues, if_pos rfl, List.flatMap_cons, outer.rest_free.2]
  simp [Frame.owed, submissionsOf, dispatchesOf, Occurrence.submission?, Occurrence.dispatch?]

/-- Without the drain on the stack nobody is driven by it. -/
lemma Coherent.drivenBy_eq_nil {u : Nat} {fs : List (Frame H σ ε)} (h : Coherent u fs)
    (mem : .drain id t ∉ fs) : drivenBy id t fs = [] := by
  fun_induction drivenBy id t fs generalizing u with
  | case1 e x d v e' xs fs same ih =>
    obtain ⟨rfl, rfl⟩ := same
    exact absurd (h.drain_mem (List.mem_cons_of_mem _ List.mem_cons_self)) mem
  | case2 e x d v e' xs fs other ih =>
    obtain ⟨_, h⟩ := h.tail
    obtain ⟨_, h⟩ := h.tail
    exact ih h (fun mem' => mem (by simp [mem']))
  | case3 f fs _ ih =>
    obtain ⟨_, h⟩ := h.tail
    exact ih h (fun mem' => mem (List.mem_cons_of_mem _ mem'))
  | case4 => rfl

/-- The deliveries of a queue drive at most the handler on top of them. -/
lemma Coherent.drivenBy_deliveries {u : Nat} {e : Event} {xs : List (Subscriber H)}
    {fs : List (Frame H σ ε)} (h : Coherent u (.deliveries (.queued id) t e xs :: fs)) :
    drivenBy id t fs = [] := by
  obtain ⟨rfl, h, on, _⟩ := h.of_deliveries
  obtain ⟨base, rfl⟩ := on id rfl
  obtain ⟨_, once, h⟩ := h.of_drain
  exact h.drivenBy_eq_nil once

/-- At most one handler is driven by a queue at a time. -/
lemma Coherent.drivenBy_length {u : Nat} {fs : List (Frame H σ ε)} (h : Coherent u fs) :
    (drivenBy id t fs).length ≤ 1 := by
  fun_induction drivenBy id t fs generalizing u with
  | case1 e x d v e' xs fs same ih =>
    obtain ⟨rfl, rfl⟩ := same
    obtain ⟨_, h⟩ := h.tail
    rw [h.drivenBy_deliveries, List.length_singleton]
  | case2 e x d v e' xs fs other ih =>
    obtain ⟨_, h⟩ := h.tail
    obtain ⟨_, h⟩ := h.tail
    exact ih h
  | case3 f fs _ ih =>
    obtain ⟨_, h⟩ := h.tail
    exact ih h
  | case4 => exact Nat.zero_le _

/-- The delivery of the submission that is the only one in some traffic. -/
lemma of_mem_submissionsOf {u : Nat} {order : DispatchOrder} {e e' : Event} {x x' : Subscriber H}
    {os : List (Occurrence H ε)} (quiet : submissionsOf id t os = [])
    (mem : (e, x) ∈ submissionsOf id t (.submitted u order e' x' :: os)) :
    order = .queued id ∧ u = t ∧ e = e' ∧ x = x' := by
  rw [← List.singleton_append, submissionsOf_append, quiet, List.append_nil] at mem
  cases order with
  | immediate => cases mem
  | queued d =>
    by_cases same : d = id ∧ u = t
    · obtain ⟨rfl, rfl⟩ := same
      simpa [submissionsOf, Occurrence.submission?] using mem
    · simp [submissionsOf, Occurrence.submission?, same] at mem

/-- What a queue submits is the next of the deliveries on top of the stack; its handler takes their
place there if it is called at once. -/
lemma Move.submits (move : Move m m') {e : Event} {x : Subscriber H}
    (mem : (e, x) ∈ submissionsOf id t (m'.state.since m.state)) :
    m.thread = t ∧ ∃ u xs base, m.stack = .deliveries (.queued id) u e (x :: xs) :: base ∧
      (x.executor = .direct →
        m'.stack = .handling e x :: .deliveries (.queued id) u e xs :: base) := by
  have quiet {os : List (Occurrence H ε)} (traffic : m.state.Traffic m'.state os)
      (none : submissionsOf id t os = []) : False := by
    rw [traffic.submissionsOf_since, none] at mem
    cases mem
  cases move with
  | plain _ _ _ _ _ calm => exact (quiet calm.traffic rfl).elim
  | posted posting routed _ _ =>
    have before := posting.calm.traffic
    cases routed with
    | silent _ calm => exact (quiet (before.trans calm.traffic) rfl).elim
    | immediate _ _ _ traffic => exact (quiet (before.trans traffic) rfl).elim
    | waits _ _ _ _ traffic => exact (quiet (before.trans traffic) rfl).elim
    | opens _ _ _ _ traffic => exact (quiet (before.trans traffic) rfl).elim
  | called stack stack' _ _ _ _ traffic =>
    rw [traffic.submissionsOf_since] at mem
    obtain ⟨rfl, rfl, rfl, rfl⟩ := of_mem_submissionsOf rfl mem
    exact ⟨rfl, _, _, _, stack, fun _ => stack'⟩
  | putOff stack _ indirect _ _ traffic =>
    rw [traffic.submissionsOf_since] at mem
    obtain ⟨rfl, rfl, rfl, rfl⟩ := of_mem_submissionsOf rfl mem
    exact ⟨rfl, _, _, _, stack, fun direct => absurd direct indirect⟩
  | ran _ _ _ _ _ _ _ traffic => exact (quiet traffic rfl).elim
  | left _ _ _ state _ _ => exact (quiet (.of_eq (congrArg _ state)) rfl).elim
  | fetched _ _ _ _ _ _ traffic => exact (quiet traffic rfl).elim
  | closed _ _ _ _ _ traffic _ _ => exact (quiet traffic rfl).elim
  | joined _ _ _ state _ => exact (quiet (.of_eq (congrArg _ state)) rfl).elim

/-- A queue that submits a delivery to be made at once drives no handler before and the handler of
the delivery afterwards. -/
lemma Move.starts (move : Move m m') (wf : WellFormed m) {e : Event} {x : Subscriber H}
    (mem : (e, x) ∈ submissionsOf id t (m'.state.since m.state)) (direct : x.executor = .direct) :
    drivenBy id t m.stack = [] ∧ drivenBy id t m'.stack = [(e, x)] := by
  obtain ⟨rfl, u, xs, base, stack, called⟩ := move.submits mem
  have coherent := wf.coherent_of stack
  obtain ⟨rfl, _⟩ := coherent.of_deliveries
  have none := coherent.drivenBy_deliveries
  rw [stack, called direct]
  constructor
  · rw [drivenBy, none]
    rintro _ _ _ _ _ _ _ ⟨⟩
  · rw [drivenBy, if_pos ⟨rfl, rfl⟩, none]

/-- An outermost dispatch on a thread that ends without a panic has submitted every event that was
dispatched to the same dispatcher on that thread, its own one first, to each of its subscribers, one
event after the other in the order of the dispatches. It leaves no queue behind. In the meantime the
dispatcher drives at most one handler at a time, and it calls a handler at once only when it drives
none. -/
theorem drain_submits_all (outer : Outermost p id t rest m m₁) (run : Within p rest m₁ m₂)
    (stack : m₂.stack = rest) (control : m₂.control = .back) :
    m.state.trace.toList <+: m₂.state.trace.toList ∧
    (∃ first later, m₁.state.queues.get? (id, t) = some ⟨[first], true⟩ ∧
      dispatchesOf id t (m₂.state.since m.state) = first :: later) ∧
    submissionsOf id t (m₂.state.since m.state) =
      (dispatchesOf id t (m₂.state.since m.state)).flatMap Pending.deliveries ∧
    m₂.state.queues.get? (id, t) = none ∧
    (∀ n, Within p rest m₁ n → (drivenBy id t n.stack).length ≤ 1) ∧
    (∀ n n' e x, Within p rest m₁ n → step p n = .going n' →
      (e, x) ∈ submissionsOf id t (n'.state.since n.state) → x.executor = .direct →
      drivenBy id t n.stack = [] ∧ drivenBy id t n'.stack = [(e, x)]) := by
  obtain ⟨first, opening⟩ := outer.opening
  have reach := run.reachable outer.reachable_next
  have free : .drain id t ∉ m₂.stack := by
    rw [stack]
    exact outer.rest_free.1
  refine ⟨?_, ⟨first, ?_⟩, ?_, reach.wellFormed.none_of_not_mem free, ?_, ?_⟩
  · obtain ⟨os, traffic⟩ := run.traffic outer.reachable_next
    obtain ⟨added, grown, _⟩ := opening.traffic.trans traffic
    exact ⟨added, grown.symm⟩
  · obtain ⟨os, traffic⟩ := run.traffic outer.reachable_next
    refine ⟨dispatchesOf id t os, ?_, ?_⟩
    · rw [opening.queues, Table.get?_set, if_pos rfl]
    · rw [(opening.traffic.trans traffic).dispatchesOf_since, dispatchesOf_append]
      simp [dispatchesOf, Occurrence.dispatch?]
  · cases outer.phase run with
    | going stack' _ _ =>
      have above : rest.length < m₂.stack.length := by
        rw [stack', List.length_append, List.length_cons]
        omega
      exact absurd stack (stack_ne_of_above above)
    | failed _ control' =>
      rw [control] at control'
      cases control'
    | done _ traffic accounts =>
      -- Nothing was pending before the drain, and nothing is after it.
      rw [Accounts, reach.wellFormed.pending_eq_nil free,
        outer.reachable.wellFormed.pending_eq_nil outer.outer, List.append_nil,
        List.nil_append] at accounts
      rw [traffic.submissionsOf_since, traffic.dispatchesOf_since]
      exact accounts
  · intro n run'
    exact (run'.reachable outer.reachable_next).wellFormed.coherent.drivenBy_length
  · intro n n' e x run' st mem direct
    exact (step_move st).starts (run'.reachable outer.reachable_next).wellFormed mem direct

namespace Echo

def note (tag : String) : Event := .free ⟨"Note"⟩ "Note" tag [] []

/-- A handler that answers a first note with a second one, and any other note as it is told. -/
def program (answer : Script Unit Unit Unit) : Program Unit Unit Unit where
  handle _ e :=
    match e with
    | .free _ _ "first" _ _ => .post 1 (note "second") false (.finish (.ok ()))
    | _ => answer
  report _ _ _ := .finish (.ok ())

def binding (handler : String) : Binding Unit := ⟨handler, ⟨"Note"⟩, .whole, true, none, ()⟩

/-- A bus with two handlers of notes, to which a first note is posted. -/
def script : Script Unit Unit Unit :=
  .newDispatcher fun d =>
  .build ⟨"bus", .direct, .plain (.queued d), .log⟩ fun b =>
  .register b.id ⟨1, "Listener", "listener"⟩ [binding "on_note", binding "on_any_note"] fun _ =>
  .post b.id (note "first") false (.finish (.ok ()))

def calm : Script Unit Unit Unit := .finish (.ok ())

def alarm : Script Unit Unit Unit := .panic (.text "alarm")

def machine (answer : Script Unit Unit Unit) (n : Nat) : Machine Unit Unit Unit :=
  after (program answer) (start (.initial .empty ()) script) n

def base : List (Frame Unit Unit Unit) := [.resume (.finish (.ok ()))]

/-- The fourth step dispatches the first note. -/
lemma outermost (answer : Script Unit Unit Unit) :
    Outermost (program answer) 0 0 base (machine answer 3) (machine answer 4) := by
  refine ⟨(Reachable.first ..).after 3, step_after (by cbv), ?_, by cbv⟩
  have empty : (machine answer 3).stack = [] := by cbv
  rw [empty]
  exact List.not_mem_nil

end Echo

/-- Where the answer to a first note does nothing, three notes are delivered to two handlers. -/
theorem echo_submits_all :
    submissionsOf 0 0 ((Echo.machine Echo.calm 27).state.since (Echo.machine Echo.calm 3).state) =
      (dispatchesOf 0 0 ((Echo.machine Echo.calm 27).state.since
        (Echo.machine Echo.calm 3).state)).flatMap Pending.deliveries ∧
    (submissionsOf 0 0 ((Echo.machine Echo.calm 27).state.since
      (Echo.machine Echo.calm 3).state)).length = 6 := by
  have run : Within (Echo.program Echo.calm) Echo.base (Echo.machine Echo.calm 4)
      (Echo.machine Echo.calm 27) :=
    Within.after (n := 4) (k := 23) (by decide +kernel)
  have stack : (Echo.machine Echo.calm 27).stack = Echo.base := by cbv
  have control : (Echo.machine Echo.calm 27).control = .back := by cbv
  constructor
  · exact (drain_submits_all (Echo.outermost Echo.calm) run stack control).2.2.1
  · cbv

end Machine

end EventBus
