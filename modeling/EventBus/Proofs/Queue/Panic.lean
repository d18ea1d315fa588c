import EventBus.Proofs.Queue.Drain

/-!
# Panics in a drain

What a panicking handler does to the drain that has called it, where there is one queued dispatcher
on one thread and all subscribers are called at once. In such a drain at most one handler is
running, and it stands right on the deliveries of its event and on the drain (`Layout`), so that no
report of an error is in the way of the panic. `panic_leaves_drain` follows it out of the drain;
what the drain still owed is given up, and by `Later.accounts` no later dispatch makes up for it.
-/

namespace EventBus

variable {H σ ε : Type}

/-- The state as it would be if a dispatcher had never been used: it has no queues. -/
def State.unused (s : State H σ ε) (id : Nat) : State H σ ε :=
  { s with queues := ⟨s.queues.entries.filter (fun e => e.1.1 ≠ id)⟩ }

/-- Whether an occurrence is no dispatch, or one to a queued dispatcher on a thread, to subscribers
that are called at once. -/
def Occurrence.isSequential (id t : Nat) : Occurrence H ε → Bool
  | dispatched u order _ xs =>
    decide (u = t) && decide (order = .queued id) && xs.all (·.executor = .direct)
  | _ => true

namespace Machine

/-- Every event is dispatched to a queued dispatcher on one thread, to subscribers that are called
at once. -/
def Sequential (id t : Nat) (os : List (Occurrence H ε)) : Prop :=
  ∀ o ∈ os, o.isSequential id t

instance (id t : Nat) (os : List (Occurrence H ε)) : Decidable (Sequential id t os) :=
  inferInstanceAs (Decidable (∀ o ∈ os, o.isSequential id t))

/-- What a drain has above it when it is sequential, and the handlers running. -/
inductive Layout (id t : Nat) : List (Frame H σ ε) → List (Event × Subscriber H) → Prop where
  | draining : Layout id t [] []
  | delivering {e xs} : Layout id t [.deliveries (.queued id) t e xs] []
  | handling {e x e' xs} :
    Layout id t [.handling e x, .deliveries (.queued id) t e' xs] [(e, x)]
  | aside {f fs ys} :
    f.IsIdle ∨ (∃ waiting, f = .join waiting) →
    Layout id t fs ys →
    Layout id t (f :: fs) ys

/-- A sequential drain under way: `os` is the traffic since the state `s` before it. -/
structure Sequence (id t : Nat) (rest : List (Frame H σ ε)) (s : State H σ ε)
    (os : List (Occurrence H ε)) (m : Machine H σ ε) : Prop where
  layout : ∃ fs ys, m.stack = fs ++ .drain id t :: rest ∧ Layout id t fs ys ∧
    ys <:+ invocationsOf os
  queues : ∃ q, m.state.queues = s.queues.set (id, t) ⟨q, true⟩
  backlog : m.state.backlog = []
  calls : invocationsOf os = submissionsOf id t os

/-- The machines that come later: scripts are run one after the other, and the pool now and then. -/
inductive Later (p : Program H σ ε) : Machine H σ ε → Machine H σ ε → Prop where
  | refl {m} : Later p m m
  | step {m m₁ m₂} :
    Later p m m₁ →
    step p m₁ = .going m₂ →
    Later p m m₂
  | next {m m₁ : Machine H σ ε} {s ending} (user : σ) (script : Script H σ ε) :
    Later p m m₁ →
    Machine.step p m₁ = .ended s ending →
    Later p m (start { s with user := user } script)
  | pool {m m₁ : Machine H σ ε} {s ending} :
    Later p m m₁ →
    Machine.step p m₁ = .ended s ending →
    Later p m (startPool s)

variable {p : Program H σ ε} {m m' m'' m₁ m₂ m₃ : Machine H σ ε} {id t : Nat}
  {rest : List (Frame H σ ε)}

/-- Each part of what is sequential is sequential. -/
lemma Sequential.of_append {os os' : List (Occurrence H ε)} (h : Sequential id t (os ++ os')) :
    Sequential id t os ∧ Sequential id t os' :=
  List.forall_mem_append.1 h

/-- In what is sequential, every dispatch is one to the queue, for subscribers that are called at
once. -/
lemma Sequential.dispatched {os : List (Occurrence H ε)} (h : Sequential id t os) {u : Nat}
    {order : DispatchOrder} {e : Event} {xs : List (Subscriber H)}
    (mem : .dispatched u order e xs ∈ os) :
    u = t ∧ order = .queued id ∧ ∀ x ∈ xs, x.executor = .direct := by
  have h := h _ mem
  simp only [Occurrence.isSequential, Bool.and_eq_true, decide_eq_true_eq, List.all_eq_true] at h
  obtain ⟨⟨thread, order⟩, direct⟩ := h
  exact ⟨thread, order, direct⟩

namespace Layout

variable {fs gs : List (Frame H σ ε)} {ys zs : List (Event × Subscriber H)}

/-- Below a plain frame there is a layout with fewer handlers. -/
lemma of_plain {f : Frame H σ ε} (h : Layout id t (f :: fs) ys) (plain : f.IsPlain) :
    ∃ zs, Layout id t fs zs ∧ zs <:+ ys := by
  cases h with
  | delivering => cases plain
  | handling => exact ⟨[], .delivering, List.nil_suffix⟩
  | aside _ h => exact ⟨ys, h, List.suffix_rfl⟩

/-- So there is below any number of them. -/
lemma of_plain_append (h : Layout id t (gs ++ fs) ys) (plain : ∀ f ∈ gs, f.IsPlain) :
    ∃ zs, Layout id t fs zs ∧ zs <:+ ys := by
  induction gs generalizing ys with
  | nil => exact ⟨ys, h, List.suffix_rfl⟩
  | cons f gs ih =>
    obtain ⟨plain_f, plain⟩ := List.forall_mem_cons.1 plain
    obtain ⟨zs, h, suffix⟩ := Layout.of_plain h plain_f
    obtain ⟨zs', h, suffix'⟩ := ih h plain
    exact ⟨zs', h, suffix'.trans suffix⟩

/-- Frames of scripts and reports may be put on a layout. -/
lemma idle_append (h : Layout id t fs ys) (idle : ∀ f ∈ gs, f.IsIdle) :
    Layout id t (gs ++ fs) ys := by
  induction gs with
  | nil => exact h
  | cons f gs ih =>
    obtain ⟨idle_f, idle⟩ := List.forall_mem_cons.1 idle
    exact .aside (.inl idle_f) (ih idle)

/-- Deliveries stand right above the drain. -/
lemma of_deliveries {order : DispatchOrder} {u : Nat} {e : Event} {xs : List (Subscriber H)}
    (h : Layout id t (.deliveries order u e xs :: fs) ys) :
    order = .queued id ∧ u = t ∧ fs = [] ∧ ys = [] := by
  cases h with
  | delivering => exact ⟨rfl, rfl, rfl, rfl⟩
  | aside aside _ => obtain ⟨⟨⟩⟩ | ⟨_, ⟨⟩⟩ := aside

/-- A handler stands on deliveries right above the drain. -/
lemma of_handling {e : Event} {x : Subscriber H} (h : Layout id t (.handling e x :: fs) ys) :
    ys = [(e, x)] ∧ ∃ e' xs, fs = [.deliveries (.queued id) t e' xs] := by
  cases h with
  | handling => exact ⟨rfl, _, _, rfl⟩
  | aside aside _ => obtain ⟨⟨⟩⟩ | ⟨_, ⟨⟩⟩ := aside

/-- Below a frame that waits for a thread there is a layout. -/
lemma of_join {waiting : Nat} (h : Layout id t (.join waiting :: fs) ys) : Layout id t fs ys := by
  cases h with
  | aside _ h => exact h

/-- In a layout there is no other drain. -/
lemma not_drain {d u : Nat} : ¬Layout id t (.drain d u :: fs) ys := by
  intro h
  cases h with
  | aside aside _ => obtain ⟨⟨⟩⟩ | ⟨_, ⟨⟩⟩ := aside

/-- Nor does the pool run in it. -/
lemma not_pool : ¬Layout id t (.pool :: fs) ys := by
  intro h
  cases h with
  | aside aside _ => obtain ⟨⟨⟩⟩ | ⟨_, ⟨⟩⟩ := aside

end Layout

namespace Sequence

variable {s : State H σ ε} {os : List (Occurrence H ε)}

/-- A drain goes on where nothing is dispatched or called. -/
lemma calm (seq : Sequence id t rest s os m) {fs : List (Frame H σ ε)}
    {ys : List (Event × Subscriber H)} (stack : m'.stack = fs ++ .drain id t :: rest)
    (layout : Layout id t fs ys) (suffix : ys <:+ invocationsOf os)
    (queues : m'.state.queues = m.state.queues) (backlog : m'.state.backlog = m.state.backlog) :
    Sequence id t rest s os m' where
  layout := ⟨fs, ys, stack, layout, suffix⟩
  queues := by
    rw [queues]
    exact seq.queues
  backlog := backlog.trans seq.backlog
  calls := seq.calls

/-- A machine about to post is still in the sequence. -/
lemma posting (seq : Sequence id t rest s os m) (posting : Posting m m') :
    Sequence id t rest s os m' := by
  obtain ⟨fs, ys, stack, layout, suffix⟩ := seq.layout
  have calm := posting.calm
  cases posting with
  | @here next stack' _ _ =>
    have layout : Layout id t (.resume next :: fs) ys := .aside (.inl trivial) layout
    exact seq.calm (by rw [stack', stack]; rfl) layout suffix calm.queues calm.backlog
  | @elsewhere next stack' _ =>
    have layout : Layout id t (.join m.thread :: .resume next :: fs) ys :=
      .aside (.inr ⟨_, rfl⟩) (.aside (.inl trivial) layout)
    exact seq.calm (by rw [stack', stack]; rfl) layout suffix calm.queues calm.backlog

/-- An event that is posted in a sequential drain waits, or it is dropped. -/
lemma routed (seq : Sequence id t rest s os m) (routed : Routed m m') :
    ∃ os', m.state.Traffic m'.state os' ∧
      (Sequential id t os' → Sequence id t rest s (os ++ os') m') := by
  obtain ⟨fs, ys, stack, layout, suffix⟩ := seq.layout
  obtain ⟨q, open_⟩ := seq.queues
  cases routed with
  | silent stack' calm =>
    refine ⟨_, calm.traffic, fun _ => ?_⟩
    rw [List.append_nil]
    exact seq.calm (stack'.trans stack) layout suffix calm.queues calm.backlog
  | immediate _ _ _ traffic =>
    -- Only the queued dispatcher is in use.
    refine ⟨_, traffic, fun only => ?_⟩
    obtain ⟨_, ⟨⟩, _⟩ := only.dispatched List.mem_cons_self
  | waits stack' drained queues backlog traffic =>
    refine ⟨_, traffic, fun only => ?_⟩
    obtain ⟨rfl, ⟨⟩, _⟩ := only.dispatched List.mem_cons_self
    constructor
    · refine ⟨fs, ys, stack'.trans stack, layout, ?_⟩
      rw [invocationsOf_append]
      simpa [invocationsOf, Occurrence.invocation?] using suffix
    · rw [queues, open_, Table.set_set]
      exact ⟨_, rfl⟩
    · exact backlog.trans seq.backlog
    · rw [invocationsOf_append, submissionsOf_append, seq.calls]
      rfl
  | opens _ idle _ _ traffic =>
    refine ⟨_, traffic, fun only => ?_⟩
    obtain ⟨rfl, ⟨⟩, _⟩ := only.dispatched List.mem_cons_self
    -- The queue is open all along, so that no post opens it again.
    rw [open_, Table.get?_set, if_pos rfl] at idle
    obtain ⟨⟨⟩, _⟩ | ⟨⟨⟩⟩ := idle

/-- A move stays in the sequence as long as it is sequential, or it leaves the drain. -/
lemma move (seq : Sequence id t rest s os m) (wf : WellFormed m) (move : Move m m')
    (direct : ∀ {e x xs base}, m.stack = .deliveries (.queued id) t e (x :: xs) :: base →
      x.executor = .direct) :
    ∃ os', m.state.Traffic m'.state os' ∧
      (Sequential id t os' →
        m'.stack = rest ∨ Sequence id t rest s (os ++ os') m') := by
  obtain ⟨fs, ys, stack, layout, suffix⟩ := seq.layout
  obtain ⟨q, open_⟩ := seq.queues
  cases move with
  | plain stack₁ stack' popped pushed _ calm =>
    rw [stack] at stack₁
    obtain ⟨fs', rfl, rfl⟩ := above_plain popped stack₁
    obtain ⟨zs, layout, suffix'⟩ := layout.of_plain_append popped
    refine ⟨_, calm.traffic, fun _ => .inr ?_⟩
    rw [List.append_nil]
    exact seq.calm (stack'.trans (List.append_assoc ..).symm) (layout.idle_append pushed)
      (suffix'.trans suffix) calm.queues calm.backlog
  | posted posting routed _ _ =>
    obtain ⟨os', traffic, goes⟩ := (seq.posting posting).routed routed
    exact ⟨os', posting.calm.traffic.trans traffic, fun only => .inr (goes only)⟩
  | called stack₁ stack' _ _ queues backlog traffic =>
    have coherent := wf.coherent_of stack₁
    obtain ⟨rfl, _⟩ := coherent.of_deliveries
    rw [stack] at stack₁
    obtain ⟨fs', rfl, rfl⟩ := above_cons stack₁ (by rintro ⟨⟩)
    obtain ⟨rfl, rfl, rfl, rfl⟩ := layout.of_deliveries
    refine ⟨_, traffic, fun _ => .inr ⟨?_, ⟨q, queues.trans open_⟩, backlog.trans seq.backlog, ?_⟩⟩
    · refine ⟨_, _, stack', .handling, ?_⟩
      rw [invocationsOf_append]
      exact List.suffix_append ..
    · rw [invocationsOf_append, submissionsOf_append, seq.calls]
      simp [invocationsOf, submissionsOf, Occurrence.invocation?, Occurrence.submission?]
  | putOff stack₁ _ indirect _ _ traffic =>
    refine ⟨_, traffic, fun _ => ?_⟩
    have top := stack₁
    rw [stack] at stack₁
    obtain ⟨fs', rfl, rfl⟩ := above_cons stack₁ (by rintro ⟨⟩)
    obtain ⟨rfl, rfl, rfl, rfl⟩ := layout.of_deliveries
    exact absurd (direct top) indirect
  | ran stack₁ _ plain _ due _ _ traffic =>
    refine ⟨_, traffic, fun _ => ?_⟩
    rw [stack] at stack₁
    -- Nothing was put off, and the pool is not run by a script.
    obtain rfl | due := due
    · obtain ⟨fs', rfl, _⟩ := above_cons stack₁ (by rintro ⟨⟩)
      exact absurd layout Layout.not_pool
    · exact absurd seq.backlog due
  | left stack₁ stack' _ state _ _ =>
    refine ⟨[], .of_eq (congrArg _ state), fun _ => .inr ?_⟩
    rw [stack] at stack₁
    obtain ⟨fs', rfl, rfl⟩ := above_cons stack₁ (by rintro ⟨⟩)
    obtain ⟨rfl, rfl, rfl, rfl⟩ := layout.of_deliveries
    rw [List.append_nil]
    exact seq.calm stack' .draining suffix (congrArg _ state) (congrArg _ state)
  | fetched stack₁ stack' waiting _ queues backlog traffic =>
    refine ⟨_, traffic, fun _ => .inr ?_⟩
    rw [List.append_nil]
    rw [stack] at stack₁
    cases fs with
    | cons f fs =>
      cases stack₁
      exact absurd layout Layout.not_drain
    | nil =>
      cases stack₁
      rw [open_, Table.get?_set, if_pos rfl] at waiting
      cases waiting
      refine ⟨⟨_, _, stack', .delivering, List.nil_suffix⟩, ?_, backlog.trans seq.backlog,
        seq.calls⟩
      rw [queues, open_, Table.set_set]
      exact ⟨_, rfl⟩
  | closed stack₁ stack' _ _ _ traffic _ _ =>
    refine ⟨_, traffic, fun _ => .inl ?_⟩
    rw [stack] at stack₁
    cases fs with
    | cons f fs =>
      cases stack₁
      exact absurd layout Layout.not_drain
    | nil =>
      cases stack₁
      exact stack'
  | joined stack₁ stack' _ state _ =>
    refine ⟨[], .of_eq (congrArg _ state), fun _ => .inr ?_⟩
    rw [stack] at stack₁
    obtain ⟨fs', rfl, rfl⟩ := above_cons stack₁ (by rintro ⟨⟩)
    rw [List.append_nil]
    exact seq.calm stack' layout.of_join suffix (congrArg _ state) (congrArg _ state)

end Sequence

/-- What is next to be delivered in a drain is called at once. -/
lemma Phase.direct (phase : Phase id t rest m m') (pending : m.pending id t = [])
    {os : List (Occurrence H ε)} (traffic : m.state.Traffic m'.state os)
    (only : Sequential id t os) (above : rest.length < m'.stack.length) {e : Event}
    {x : Subscriber H} {xs : List (Subscriber H)} {base : List (Frame H σ ε)}
    (stack : m'.stack = .deliveries (.queued id) t e (x :: xs) :: base) :
    x.executor = .direct := by
  cases phase with
  | done stack' _ _ => exact absurd stack' (stack_ne_of_above above)
  | failed stack' _ =>
    obtain stack' | stack' := stack'
    · cases stack.symm.trans stack'
    · exact absurd stack' (stack_ne_of_above above)
  | going _ traffic' accounts =>
    cases traffic.unique traffic'
    rw [Accounts, pending, List.nil_append] at accounts
    -- What is pending was dispatched since the drain began.
    have mem : (e, x) ∈ (dispatchesOf id t os).flatMap Pending.deliveries := by
      rw [← accounts, Machine.pending, stack]
      simp [Frame.owed, Pending.deliveries]
    obtain ⟨due, mem, at_⟩ := List.mem_flatMap.1 mem
    obtain ⟨o, mem, dispatched⟩ := List.mem_filterMap.1 mem
    obtain ⟨y, mem', same⟩ := List.mem_map.1 at_
    cases same
    cases o <;> try cases dispatched
    obtain ⟨rfl, rfl, direct⟩ := only.dispatched mem
    rw [Occurrence.dispatch?, if_pos ⟨rfl, rfl⟩] at dispatched
    cases dispatched
    exact direct x mem'

/-- A sequential drain is under way until it has come down to what it stands on. -/
lemma Outermost.sequence (outer : Outermost p id t rest m m₁) (run : Within p rest m₁ m₂)
    (idle : m.state.backlog = []) {os : List (Occurrence H ε)}
    (traffic : m.state.Traffic m₂.state os) (only : Sequential id t os) :
    m₂.stack = rest ∨ Sequence id t rest m.state os m₂ := by
  obtain ⟨first, opening⟩ := outer.opening
  induction run generalizing os with
  | refl =>
    cases traffic.unique opening.traffic
    right
    refine ⟨⟨[], [], outer.stack, .draining, List.nil_suffix⟩, ⟨_, opening.queues⟩,
      opening.backlog.trans idle, rfl⟩
  | tail run above st ih =>
    obtain ⟨os₁, traffic₁⟩ := run.traffic outer.reachable_next
    have traffic₁ := opening.traffic.trans traffic₁
    have wf := (run.reachable outer.reachable_next).wellFormed
    obtain ⟨os₂, traffic₂, _⟩ := wf.accounts_move id t (step_move st)
    cases traffic.unique (traffic₁.trans traffic₂)
    obtain ⟨only₁, only₂⟩ := only.of_append
    obtain stack | seq := ih traffic₁ only₁
    · exact absurd stack (stack_ne_of_above above)
    · have none := outer.reachable.wellFormed.pending_eq_nil outer.outer
      obtain ⟨os₂', traffic₂', goes⟩ := seq.move wf (step_move st)
        ((outer.phase run).direct none traffic₁ only₁ above)
      cases traffic₂.unique traffic₂'
      exact goes only₂

/-- A run above a stack makes its first step, or none. -/
lemma Within.head (run : Within p rest m m') (st : step p m = .going m₁) :
    m' = m ∨ Within p rest m₁ m' := by
  induction run with
  | refl => exact .inl rfl
  | tail _ above st' ih =>
    obtain rfl | run := ih
    · rw [st] at st'
      cases st'
      exact .inr .refl
    · exact .inr (.tail run above st')

/-- Once the stack is down to the rest, the run is over. -/
lemma Within.eq_of_stack (run : Within p rest m m') (stack : m.stack = rest) : m' = m := by
  induction run with
  | refl => rfl
  | tail _ above _ ih =>
    rw [ih] at above
    exact absurd stack (stack_ne_of_above above)

/-- What comes later comes about. -/
lemma Later.reachable (later : Later p m m') (reach : Reachable p m) : Reachable p m' := by
  induction later with
  | refl => exact reach
  | step _ st ih => exact .step ih st
  | next user script _ st ih => exact .next user _ script ih st
  | pool _ st ih => exact .pool ih st

/-- Where nothing was pending, whatever is submitted later was dispatched later. -/
lemma Later.accounts (later : Later p m m') (reach : Reachable p m) (none : m.pending id t = []) :
    ∃ os, m.state.Traffic m'.state os ∧
      (submissionsOf id t os ++ m'.pending id t).Sublist
        ((dispatchesOf id t os).flatMap Pending.deliveries) := by
  induction later with
  | refl =>
    refine ⟨[], .of_eq rfl, ?_⟩
    rw [none]
    exact List.Sublist.refl _
  | step later st ih =>
    obtain ⟨os, traffic, sub⟩ := ih
    have wf := (later.reachable reach).wellFormed
    obtain ⟨os', traffic', accounts | ⟨_, rfl, fewer⟩⟩ := wf.accounts_move id t (step_move st)
    · refine ⟨os ++ os', traffic.trans traffic', ?_⟩
      rw [submissionsOf_append, List.append_assoc, accounts, ← List.append_assoc,
        dispatchesOf_append, List.flatMap_append]
      exact sub.append_right _
    · refine ⟨os ++ [], traffic.trans traffic', ?_⟩
      rw [List.append_nil]
      exact ((List.Sublist.refl _).append fewer).trans sub
  | next user script later st ih =>
    obtain ⟨os, traffic, sub⟩ := ih
    obtain ⟨stack, rfl⟩ := stack_of_ended st
    refine ⟨os, traffic, ?_⟩
    rw [pending, stack] at sub
    exact sub
  | pool later st ih =>
    obtain ⟨os, traffic, sub⟩ := ih
    obtain ⟨stack, rfl⟩ := stack_of_ended st
    refine ⟨os, traffic, ?_⟩
    rw [pending, stack] at sub
    exact sub

/-- Leaving a handler leaves the buses alone. -/
lemma leave_buses (s : State H σ ε) (x : Subscriber H) : (s.leave x).buses = s.buses := by
  obtain ⟨locks, same⟩ := s.leave_state x
  rw [same]

/-- So does closing a queue. -/
lemma closeQueue_buses (s : State H σ ε) (key : Nat × Nat) :
    (s.closeQueue key).buses = s.buses := by
  unfold State.closeQueue
  dsimp only
  split <;> rfl

/-- Without queues a dispatcher is as good as new. -/
lemma unused_eq {s : State H σ ε} (none : ∀ u, s.queues.get? (id, u) = none) :
    s.unused id = s := by
  have same : s.queues.entries.filter (fun e => e.1.1 ≠ id) = s.queues.entries := by
    rw [List.filter_eq_self]
    rintro ⟨⟨d, u⟩, q⟩ mem
    rw [decide_eq_true_eq]
    rintro rfl
    exact Table.find_ne_none mem (none u)
  rw [State.unused, same]

/-- Where a panic ends that starts in a handler of a drain. -/
def fallen (m : Machine H σ ε) (x : Subscriber H) (key : Nat × Nat) (rest : List (Frame H σ ε)) :
    Machine H σ ε :=
  { m with state := (m.state.leave x).closeQueue key, stack := rest }

/-- A drain that is given up loses its queue and does nothing else. -/
lemma fallen_state (m : Machine H σ ε) (x : Subscriber H) (key : Nat × Nat)
    (rest : List (Frame H σ ε)) :
    (m.fallen x key rest).state.queues = m.state.queues.erase key ∧
      m.state.Traffic (m.fallen x key rest).state [] := by
  have calm := m.state.calm_leave x
  obtain ⟨queues, _, traffic⟩ := closeQueue_queues (m.state.leave x) key
  constructor
  · rw [fallen, queues, calm.queues]
  · exact calm.traffic.trans traffic

/-- A panic that starts in a handler of a drain passes the handler, the deliveries and the drain. -/
lemma falls {e e' : Event} {x : Subscriber H} {order : DispatchOrder} {u d v : Nat}
    {xs : List (Subscriber H)} {payload : Payload} (control : m.control = .unwind payload)
    (stack : m.stack = .handling e x :: .deliveries order u e' xs :: .drain d v :: rest) :
    Within p rest m (m.fallen x (d, v) rest) ∧
      ∀ n, Within p rest m n → n.control = .unwind payload ∧ n.state.buses = m.state.buses := by
  let n₁ := { m with state := m.state.leave x
                     stack := .deliveries order u e' xs :: .drain d v :: rest }
  let n₂ := { n₁ with stack := .drain d v :: rest }
  have st₁ : step p m = .going n₁ := by
    rw [step, control]
    dsimp only
    rw [unwind, stack]
  have st₂ : step p n₁ = .going n₂ := by
    rw [step, show n₁.control = .unwind payload from control]
    rfl
  have st₃ : step p n₂ = .going (m.fallen x (d, v) rest) := by
    rw [step, show n₂.control = .unwind payload from control]
    rfl
  constructor
  · refine .tail (.tail (.tail .refl ?_ st₁) ?_ st₂) ?_ st₃
    · rw [stack]
      simp only [List.length_cons]
      omega
    · simp only [n₁, List.length_cons]
      omega
    · simp only [n₂, List.length_cons]
      omega
  · intro n run
    obtain rfl | run := run.head st₁
    · exact ⟨control, rfl⟩
    have buses := leave_buses m.state x
    obtain rfl | run := run.head st₂
    · exact ⟨control, buses⟩
    obtain rfl | run := run.head st₃
    · exact ⟨control, buses⟩
    rw [run.eq_of_stack rfl]
    exact ⟨control, (closeQueue_buses ..).trans buses⟩

/-- A handler that panics in a sequential drain has been called by the drain, as the last one. -/
lemma Sequence.of_handling {s : State H σ ε} {os : List (Occurrence H ε)} {e : Event}
    {x : Subscriber H} {fs : List (Frame H σ ε)} (seq : Sequence id t rest s os m)
    (stack : m.stack = .handling e x :: fs) :
    (∃ e' xs, fs = .deliveries (.queued id) t e' xs :: .drain id t :: rest) ∧
      ∃ made, invocationsOf os = made ++ [(e, x)] := by
  obtain ⟨fs', ys, stack', layout, made, suffix⟩ := seq.layout
  rw [stack'] at stack
  obtain ⟨fs', rfl, rfl⟩ := above_cons stack (by rintro ⟨⟩)
  obtain ⟨rfl, e', xs, rfl⟩ := layout.of_handling
  exact ⟨⟨e', xs, rfl⟩, made, suffix.symm⟩

/-- In a sequential drain, the panic of a handler, or the defect of one that has no view of its
event, unwinds all that stands above the drain and the drain as well, and nothing stops it or
changes a bus. What is left:

* of the deliveries due for the events dispatched until then, those up to the panic have been made,
  in order, and all others are given up;
* whatever the queue submits from then on belongs to events that are dispatched from then on;
* the queues are those from before the outermost dispatch, and unless the dispatcher was being used
  further down, the state is the one where it has never been used. -/
theorem panic_leaves_drain {e : Event} {x : Subscriber H} {fs : List (Frame H σ ε)}
    {payload : Payload} (outer : Outermost p id t rest m m₁) (run : Within p rest m₁ m₂)
    (idle : m.state.backlog = []) (only : Sequential id t (m₂.state.since m.state))
    (stack : m₂.stack = .handling e x :: fs) (control : m₂.control = .unwind payload) :
    (∀ n, Within p rest m₂ n →
      n.control = .unwind payload ∧ n.state.buses = m₂.state.buses) ∧
    ∃ m₃, Within p rest m₂ m₃ ∧ m₃.stack = rest ∧
      (∃ made, invocationsOf (m₃.state.since m.state) = made ++ [(e, x)] ∧
        (dispatchesOf id t (m₃.state.since m.state)).flatMap Pending.deliveries =
          made ++ (e, x) :: m₂.pending id t) ∧
      (∀ n, Later p m₃ n →
        (submissionsOf id t (n.state.since m₃.state)).Sublist
          ((dispatchesOf id t (n.state.since m₃.state)).flatMap Pending.deliveries)) ∧
      m₃.state.queues = m.state.queues ∧
      ((∀ u, .drain id u ∉ rest) → m₃.state.unused id = m₃.state) := by
  obtain ⟨first, opening⟩ := outer.opening
  have reach := run.reachable outer.reachable_next
  obtain ⟨os, traffic⟩ : ∃ os, m.state.Traffic m₂.state os := by
    obtain ⟨os, traffic⟩ := run.traffic outer.reachable_next
    exact ⟨_, opening.traffic.trans traffic⟩
  have only : Sequential id t os := by
    rw [← traffic.since_eq]
    intro o mem
    exact only o (List.mem_filter.1 mem).1
  have seq : Sequence id t rest m.state os m₂ := by
    obtain down | seq := outer.sequence run idle traffic only
    · exact absurd (down.symm.trans stack) (opening.below e x fs)
    · exact seq
  obtain ⟨⟨e', xs, rfl⟩, made, calls⟩ := seq.of_handling stack
  obtain ⟨falling, sure⟩ := falls (p := p) control stack
  obtain ⟨queues, fallen⟩ := m₂.fallen_state x (id, t) rest
  -- On its way down the panic adds no traffic.
  have whole : m.state.Traffic (m₂.fallen x (id, t) rest).state os := by
    simpa using traffic.trans fallen
  have reach₃ := falling.reachable reach
  refine ⟨sure, _, falling, rfl, ⟨made, ?_, ?_⟩, ?_, ?_, ?_⟩
  · rw [whole.invocationsOf_since, calls]
  · cases outer.phase run with
    | done stack' _ _ => exact absurd (stack'.symm.trans stack) (opening.below e x _)
    | failed stack' _ =>
      obtain stack' | stack' := stack'
      · cases stack'.symm.trans stack
      · exact absurd (stack'.symm.trans stack) (opening.below e x _)
    | going _ traffic' accounts =>
      cases traffic.unique traffic'
      rw [Accounts, outer.reachable.wellFormed.pending_eq_nil outer.outer, List.nil_append,
        ← seq.calls, calls, List.append_assoc] at accounts
      rw [whole.dispatchesOf_since, ← accounts]
      rfl
  · intro n later
    have none := reach₃.wellFormed.pending_eq_nil outer.rest_free.1
    obtain ⟨os', traffic', sub⟩ := later.accounts reach₃ none
    rw [traffic'.submissionsOf_since, traffic'.dispatchesOf_since]
    exact (List.sublist_append_left ..).trans sub
  · obtain ⟨q, open_⟩ := seq.queues
    rw [queues, open_, Table.erase_set _ opening.free]
  · intro free
    apply unused_eq
    intro u
    exact reach₃.wellFormed.none_of_not_mem (free u)

/-- Where the first handler of a second note panics, the other one is still due, and no queue is
left. -/
theorem echo_panic_leaves_drain :
    (Echo.machine Echo.alarm 17).pending 0 0 ≠ [] ∧
    ∃ m₃, Within (Echo.program Echo.alarm) Echo.base (Echo.machine Echo.alarm 17) m₃ ∧
      m₃.stack = Echo.base ∧ m₃.state.queues = (Echo.machine Echo.alarm 3).state.queues := by
  have run : Within (Echo.program Echo.alarm) Echo.base (Echo.machine Echo.alarm 4)
      (Echo.machine Echo.alarm 17) :=
    Within.after (n := 4) (k := 13) (by decide +kernel)
  have idle : (Echo.machine Echo.alarm 3).state.backlog = [] := by cbv
  have only : Sequential 0 0
      ((Echo.machine Echo.alarm 17).state.since (Echo.machine Echo.alarm 3).state) := by
    decide +kernel
  obtain ⟨e, x, fs, stack⟩ : ∃ e x fs, (Echo.machine Echo.alarm 17).stack = .handling e x :: fs :=
    ⟨_, _, _, by cbv⟩
  have control : (Echo.machine Echo.alarm 17).control = .unwind (.text "alarm") := by cbv
  constructor
  · cbv
    exact List.cons_ne_nil _ _
  · obtain ⟨_, m₃, falling, down, _, _, queues, _⟩ :=
      panic_leaves_drain (Echo.outermost Echo.alarm) run idle only stack control
    exact ⟨m₃, falling, down, queues⟩

end Machine

end EventBus
