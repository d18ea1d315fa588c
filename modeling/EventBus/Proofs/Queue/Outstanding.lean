import EventBus.Proofs.Queue.Pending

/-!
# Outstanding submissions

All the submissions that a machine has yet to make, for any dispatcher and on any thread: those left
of the events that are being delivered, and those of the events that wait in a queue. A dispatch adds
to them just the subscribers that it was given (`Routed.outstanding_eq`), and a step makes no
submission that it does not take from them (`WellFormed.outstanding_step`). So whatever is submitted
in the course of a run was outstanding before it, or was called for by a dispatch since.
-/

namespace EventBus

variable {H σ ε : Type}

namespace Occurrence

/-- Whether an occurrence is a delivery being submitted. -/
def isSubmission : Occurrence H ε → Bool
  | submitted _ _ _ _ => true
  | _ => false

/-- The submissions that an occurrence calls for, which it does if it is a dispatch. -/
def callsFor : Occurrence H ε → List (Occurrence H ε)
  | dispatched t order e xs => xs.map (.submitted t order e)
  | _ => []

end Occurrence

/-- The submissions among some occurrences, however they are ordered. -/
def submissionsIn (os : List (Occurrence H ε)) : Multiset (Occurrence H ε) :=
  os.filter (·.isSubmission)

/-- The submissions that the dispatches among some occurrences call for. -/
def calledFor (os : List (Occurrence H ε)) : Multiset (Occurrence H ε) :=
  os.flatMap (·.callsFor)

/-- The submissions of an event to its subscribers. -/
def Pending.submissions (order : DispatchOrder) (t : Nat) (p : Pending H) :
    Multiset (Occurrence H ε) :=
  .ofList (p.subscribers.map (Occurrence.submitted t order p.event))

/-- A frame that drives events. -/
def Frame.IsDriving : Frame H σ ε → Prop
  | deliveries _ _ _ _ | drain _ _ => True
  | _ => False

/-- The submissions that a frame has yet to make. The drain of a queue has to make those of all
events that wait in it. -/
def Frame.outstanding (s : State H σ ε) : Frame H σ ε → Multiset (Occurrence H ε)
  | deliveries order t e xs => Pending.submissions order t ⟨e, xs⟩
  | drain d t => ((s.waiting (d, t)).map (Pending.submissions (.queued d) t)).sum
  | _ => 0

/-- The submissions that a stack has yet to make. -/
def State.outstanding (s : State H σ ε) (fs : List (Frame H σ ε)) : Multiset (Occurrence H ε) :=
  (fs.map (Frame.outstanding s)).sum

section Append

variable (os os' : List (Occurrence H ε))

@[simp] lemma submissionsIn_append :
    submissionsIn (os ++ os') = submissionsIn os + submissionsIn os' := by
  rw [submissionsIn, List.filter_append, ← Multiset.coe_add]
  rfl

@[simp] lemma calledFor_append : calledFor (os ++ os') = calledFor os + calledFor os' := by
  rw [calledFor, List.flatMap_append, ← Multiset.coe_add]
  rfl

/-- A dispatch calls for the submission of its event to each subscriber. -/
lemma calledFor_dispatched (t : Nat) (order : DispatchOrder) (e : Event)
    (xs : List (Subscriber H)) :
    calledFor [(.dispatched t order e xs : Occurrence H ε)] =
      Pending.submissions order t ⟨e, xs⟩ := by
  rw [calledFor, List.flatMap_singleton, Occurrence.callsFor, Pending.submissions]

end Append

namespace State.Adds

variable {s s' : State H σ ε} {os : List (Occurrence H ε)}

/-- What was submitted between two states is part of the traffic. -/
lemma filter_submissions_since (traffic : s.Traffic s' os) :
    (s'.since s).filter (·.isSubmission) = os.filter (·.isSubmission) := by
  rw [← traffic.since_eq, List.filter_filter]
  apply List.filter_congr
  intro o _
  cases o <;> rfl

/-- The submissions since a state can be read off the traffic alone. -/
lemma submissionsIn_since (traffic : s.Traffic s' os) :
    submissionsIn (s'.since s) = submissionsIn os :=
  congrArg Multiset.ofList traffic.filter_submissions_since

/-- So are the dispatches. -/
lemma calledFor_since (traffic : s.Traffic s' os) : calledFor (s'.since s) = calledFor os := by
  rw [← traffic.since_eq, calledFor, calledFor]
  congr 1
  induction s'.since s with
  | nil => rfl
  | cons o added ih =>
    rw [List.flatMap_cons, ih]
    cases o <;> rfl

end State.Adds

namespace State

variable {s s' : State H σ ε} {d t : Nat}

@[simp] lemma outstanding_cons (s : State H σ ε) (f : Frame H σ ε) (fs : List (Frame H σ ε)) :
    s.outstanding (f :: fs) = f.outstanding s + s.outstanding fs := by
  rw [outstanding, List.map_cons, List.sum_cons]
  rfl

@[simp] lemma outstanding_append (s : State H σ ε) (fs gs : List (Frame H σ ε)) :
    s.outstanding (fs ++ gs) = s.outstanding fs + s.outstanding gs := by
  rw [outstanding, List.map_append, List.sum_append]
  rfl

@[simp] lemma outstanding_singleton (s : State H σ ε) (f : Frame H σ ε) :
    s.outstanding [f] = f.outstanding s := by
  rw [outstanding, List.map_singleton, List.sum_singleton]

/-- Plain frames have nothing to submit. -/
lemma outstanding_of_plain (s : State H σ ε) {gs : List (Frame H σ ε)}
    (plain : ∀ f ∈ gs, f.IsPlain) : s.outstanding gs = 0 := by
  apply List.sum_eq_zero
  intro owed mem
  obtain ⟨f, listed, rfl⟩ := List.mem_map.1 mem
  have plain := plain f listed
  cases f <;> first | rfl | cases plain

/-- Frames have the same to do where the queues hold the same that they drain. -/
lemma outstanding_congr {fs : List (Frame H σ ε)}
    (same : ∀ d t, .drain d t ∈ fs → s'.waiting (d, t) = s.waiting (d, t)) :
    s'.outstanding fs = s.outstanding fs := by
  rw [outstanding, outstanding]
  congr 1
  apply List.map_congr_left
  intro f mem
  cases f
  case drain d t => rw [Frame.outstanding, same d t mem, Frame.outstanding]
  all_goals rfl

/-- Where the queues stay, the same submissions are outstanding. -/
lemma outstanding_of_queues (queues : s'.queues = s.queues) (fs : List (Frame H σ ε)) :
    s'.outstanding fs = s.outstanding fs :=
  outstanding_congr fun d t _ => Machine.waiting_congr queues (d, t)

/-- A queue makes no difference to frames that do not drain it. -/
lemma outstanding_set {fs : List (Frame H σ ε)} {q : DispatchQueue H}
    (queues : s'.queues = s.queues.set (d, t) q) (undrained : .drain d t ∉ fs) :
    s'.outstanding fs = s.outstanding fs := by
  apply outstanding_congr
  intro d' t' mem
  rw [Machine.waiting_set queues, if_neg]
  rintro ⟨⟩
  exact undrained mem

/-- It makes no difference to them if the queue is taken away. -/
lemma outstanding_erase {fs : List (Frame H σ ε)}
    (queues : s'.queues = s.queues.erase (d, t)) (undrained : .drain d t ∉ fs) :
    s'.outstanding fs = s.outstanding fs := by
  apply outstanding_congr
  intro d' t' mem
  rw [Machine.waiting_erase queues, if_neg]
  rintro ⟨⟩
  exact undrained mem

end State

namespace Machine

variable {p : Program H σ ε} {m m' : Machine H σ ε} {d t : Nat}

/-- The submissions that a machine has yet to make. -/
def outstanding (m : Machine H σ ε) : Multiset (Occurrence H ε) := m.state.outstanding m.stack

/-- What is outstanding is read off the stack. -/
lemma outstanding_of_stack {fs : List (Frame H σ ε)} (stack : m.stack = fs) :
    m.outstanding = m.state.outstanding fs := by
  rw [outstanding, stack]

/-- An event that is put into a queue counts once, as the queue is drained once. -/
lemma Coherent.outstanding_enqueue {u : Nat} {fs : List (Frame H σ ε)} (h : Coherent u fs)
    (drained : .drain d t ∈ fs) {s s' : State H σ ε} {next : Pending H} {q : List (Pending H)}
    (before : s.waiting (d, t) = q)
    (queues : s'.queues = s.queues.set (d, t) ⟨q ++ [next], true⟩) :
    s'.outstanding fs = s.outstanding fs + next.submissions (.queued d) t := by
  -- Whatever stands above the drain is not the drain.
  have above {f : Frame H σ ε} {fs : List (Frame H σ ε)} (other : .drain d t ≠ f)
      (ih : s'.outstanding fs = s.outstanding fs + next.submissions (.queued d) t) :
      s'.outstanding (f :: fs) = s.outstanding (f :: fs) + next.submissions (.queued d) t := by
    have same : s'.outstanding [f] = s.outstanding [f] :=
      State.outstanding_set queues (List.mem_singleton.not.2 other)
    rw [State.outstanding_singleton, State.outstanding_singleton] at same
    rw [State.outstanding_cons, State.outstanding_cons, same, ih, add_assoc]
  induction h with
  | nil => cases drained
  | @plain _ f fs plain _ ih =>
    have other : .drain d t ≠ f := by
      rintro rfl
      cases plain
    exact above other (ih (List.mem_of_ne_of_mem other drained))
  | immediate _ ih | queued _ ih | join _ ih =>
    have rest := List.mem_of_ne_of_mem (by rintro ⟨⟩) drained
    exact above (by rintro ⟨⟩) (ih rest)
  | @drain u d' fs once _ ih =>
    by_cases here : d = d' ∧ t = u
    · obtain ⟨rfl, rfl⟩ := here
      have waiting : s'.waiting (d, t) = q ++ [next] :=
        (waiting_set queues (d, t)).trans (if_pos rfl)
      rw [State.outstanding_cons, State.outstanding_cons, State.outstanding_set queues once,
        Frame.outstanding, Frame.outstanding, waiting, before, List.map_append, List.sum_append,
        List.map_singleton, List.sum_singleton]
      exact add_right_comm _ _ _
    · have other : Frame.drain d t ≠ (.drain d' u : Frame H σ ε) := by
        rintro ⟨⟩
        exact here ⟨rfl, rfl⟩
      exact above other (ih (List.mem_of_ne_of_mem other drained))

/-- Deliveries that are to be made at once add their submissions. -/
lemma outstanding_atOnce {order : DispatchOrder} {u : Nat} {e : Event} {xs : List (Subscriber H)}
    (stack : m'.stack = .deliveries order u e xs :: m.stack)
    (queues : m'.state.queues = m.state.queues) :
    m'.outstanding = m.outstanding + Pending.submissions order u ⟨e, xs⟩ := by
  rw [outstanding_of_stack stack, State.outstanding_cons, State.outstanding_of_queues queues,
    add_comm]
  rfl

/-- So does an event that has to wait. -/
lemma WellFormed.outstanding_waits (wf : WellFormed m) {next : Pending H} {q : List (Pending H)}
    (stack : m'.stack = m.stack) (drained : m.state.queues.get? (d, t) = some ⟨q, true⟩)
    (queues : m'.state.queues = m.state.queues.set (d, t) ⟨q ++ [next], true⟩) :
    m'.outstanding = m.outstanding + next.submissions (.queued d) t := by
  have mem : .drain d t ∈ m.stack := by
    by_contra none
    rw [wf.none_of_not_mem none] at drained
    cases drained
  rw [outstanding_of_stack stack]
  exact wf.coherent.outstanding_enqueue mem (waiting_of_get? drained) queues

/-- So does an event that a queue is opened with. -/
lemma outstanding_opens {next : Pending H} (stack : m'.stack = .drain d t :: m.stack)
    (undrained : .drain d t ∉ m.stack)
    (queues : m'.state.queues = m.state.queues.set (d, t) ⟨[next], true⟩) :
    m'.outstanding = m.outstanding + next.submissions (.queued d) t := by
  rw [outstanding_of_stack stack, State.outstanding_cons,
    State.outstanding_set queues undrained, Frame.outstanding, waiting_set queues, if_pos rfl,
    List.map_singleton, List.sum_singleton]
  exact add_comm _ _

/-- A post leaves outstanding what was outstanding, and what is called for by the dispatch that it
ends with. -/
lemma Routed.outstanding_eq (wf : WellFormed m) (routed : Routed m m') :
    ∃ os, m.state.Traffic m'.state os ∧ submissionsIn os = 0 ∧
      m'.outstanding = m.outstanding + calledFor os := by
  cases routed with
  | silent stack calm =>
    refine ⟨_, calm.traffic, rfl, ?_⟩
    rw [outstanding_of_stack stack, State.outstanding_of_queues calm.queues]
    exact (add_zero _).symm
  | immediate stack queues _ traffic =>
    refine ⟨_, traffic, rfl, ?_⟩
    rw [outstanding_atOnce stack queues, calledFor_dispatched]
  | waits stack drained queues _ traffic =>
    refine ⟨_, traffic, rfl, ?_⟩
    rw [wf.outstanding_waits stack drained queues, calledFor_dispatched]
  | @opens id e xs q stack idle queues _ traffic =>
    refine ⟨_, traffic, rfl, ?_⟩
    -- A queue that is drained below would not be idle.
    have undrained : .drain id m.thread ∉ m.stack := by
      intro mem
      obtain ⟨q, found⟩ := wf.open_of_mem mem
      simp [found] at idle
    obtain rfl : q = [] := by
      obtain ⟨_, rfl⟩ | found := idle
      · rfl
      · rw [wf.none_of_not_mem undrained] at found
        cases found
    rw [outstanding_opens stack undrained queues, calledFor_dispatched]

/-- A machine about to post has as much to submit as before. -/
lemma Posting.outstanding_eq (posting : Posting m m') : m'.outstanding = m.outstanding := by
  cases posting with
  | here stack _ calm =>
    rw [outstanding_of_stack stack, State.outstanding_cons,
      State.outstanding_of_queues calm.queues]
    exact zero_add _
  | elsewhere stack calm =>
    rw [outstanding_of_stack stack, State.outstanding_cons, State.outstanding_cons,
      State.outstanding_of_queues calm.queues]
    exact (zero_add _).trans (zero_add _)

/-- A submission is the next one of the deliveries on top. -/
lemma outstanding_submit {order : DispatchOrder} {u : Nat} {e : Event} {x : Subscriber H}
    {xs : List (Subscriber H)} {base : List (Frame H σ ε)}
    (stack : m.stack = .deliveries order u e (x :: xs) :: base)
    (left : m'.outstanding = m'.state.outstanding (.deliveries order u e xs :: base))
    (queues : m'.state.queues = m.state.queues) :
    {.submitted u order e x} + m'.outstanding = m.outstanding := by
  rw [left, outstanding_of_stack stack, State.outstanding_cons, State.outstanding_cons,
    State.outstanding_of_queues queues, ← add_assoc, Frame.outstanding, Frame.outstanding,
    Pending.submissions, Pending.submissions, List.map_cons, Multiset.singleton_add,
    Multiset.cons_coe]

/-- The next event of a queue is taken out of it to be delivered. -/
lemma WellFormed.outstanding_fetch (wf : WellFormed m) {next : Pending H} {q : List (Pending H)}
    {draining : Bool} {base : List (Frame H σ ε)} (stack : m.stack = .drain d t :: base)
    (stack' : m'.stack = .deliveries (.queued d) t next.event next.subscribers :: .drain d t :: base)
    (waiting : m.state.queues.get? (d, t) = some ⟨next :: q, draining⟩)
    (queues : m'.state.queues = m.state.queues.set (d, t) ⟨q, draining⟩) :
    m'.outstanding = m.outstanding := by
  obtain ⟨_, once, _⟩ := (wf.coherent_of stack).of_drain
  rw [outstanding_of_stack stack, outstanding_of_stack stack', State.outstanding_cons,
    State.outstanding_cons, State.outstanding_cons, State.outstanding_set queues once,
    ← add_assoc]
  congr 1
  simp only [Frame.outstanding]
  rw [waiting_set queues, if_pos rfl, waiting_of_get? waiting, List.map_cons, List.sum_cons]

/-- Where a drain is left, there remains what is outstanding below it. -/
lemma WellFormed.outstanding_close (wf : WellFormed m) {base : List (Frame H σ ε)}
    (stack : m.stack = .drain d t :: base) (stack' : m'.stack = base)
    (queues : m'.state.queues = m.state.queues.erase (d, t)) :
    Frame.outstanding m.state (.drain d t) + m'.outstanding = m.outstanding := by
  obtain ⟨_, once, _⟩ := (wf.coherent_of stack).of_drain
  rw [outstanding_of_stack stack, outstanding_of_stack stack', State.outstanding_cons,
    State.outstanding_erase queues once]

/-- Where any other frame is left, there remains what is outstanding below it. -/
lemma outstanding_leave {f : Frame H σ ε} {base : List (Frame H σ ε)} (stack : m.stack = f :: base)
    (stack' : m'.stack = base) (state : m'.state = m.state) :
    f.outstanding m.state + m'.outstanding = m.outstanding := by
  rw [outstanding_of_stack stack, outstanding_of_stack stack', State.outstanding_cons, state]

/-- No move submits what has not been called for. -/
lemma WellFormed.outstanding_move (wf : WellFormed m) (move : Move m m') :
    ∃ os, m.state.Traffic m'.state os ∧
      submissionsIn os + m'.outstanding ≤ m.outstanding + calledFor os := by
  have quiet (same : m'.outstanding = m.outstanding) :
      (0 : Multiset (Occurrence H ε)) + m'.outstanding ≤ m.outstanding + 0 := by
    rw [same, zero_add, add_zero]
  have given {f : Frame H σ ε} (all : f.outstanding m.state + m'.outstanding = m.outstanding) :
      (0 : Multiset (Occurrence H ε)) + m'.outstanding ≤ m.outstanding + 0 := by
    rw [← all, zero_add, add_zero]
    exact Multiset.le_add_left _ _
  cases move with
  | plain stack stack' popped pushed _ calm =>
    refine ⟨_, calm.traffic, quiet ?_⟩
    rw [outstanding_of_stack stack, outstanding_of_stack stack', State.outstanding_append,
      State.outstanding_append, State.outstanding_of_plain _ popped,
      State.outstanding_of_plain _ (fun f mem => (pushed f mem).isPlain),
      State.outstanding_of_queues calm.queues]
  | posted posting routed _ _ =>
    obtain ⟨os, traffic, none, outstanding⟩ := routed.outstanding_eq (wf.posting posting)
    refine ⟨os, posting.calm.traffic.trans traffic, ?_⟩
    rw [none, outstanding, posting.outstanding_eq, zero_add]
  | called stack stack' _ _ queues _ traffic =>
    obtain ⟨rfl, _⟩ := (wf.coherent_of stack).of_deliveries
    refine ⟨_, traffic, ?_⟩
    have left := (outstanding_of_stack stack').trans
      ((State.outstanding_cons ..).trans (zero_add _))
    rw [← outstanding_submit stack left queues]
    exact Multiset.le_add_right _ _
  | putOff stack stack' _ _ queues traffic =>
    obtain ⟨rfl, _⟩ := (wf.coherent_of stack).of_deliveries
    refine ⟨_, traffic, ?_⟩
    rw [← outstanding_submit stack (outstanding_of_stack stack') queues]
    exact Multiset.le_add_right _ _
  | @ran f f' _ _ _ stack stack' plain plain' _ _ queues traffic =>
    refine ⟨_, traffic, quiet ?_⟩
    have none := State.outstanding_of_plain m.state (List.forall_mem_singleton.2 plain)
    have none' := State.outstanding_of_plain m'.state (List.forall_mem_singleton.2 plain')
    rw [State.outstanding_singleton] at none none'
    rw [outstanding_of_stack stack, outstanding_of_stack stack', State.outstanding_cons,
      State.outstanding_cons, State.outstanding_cons, none, none',
      State.outstanding_of_queues queues]
    exact zero_add _
  | left stack stack' _ state _ _ =>
    refine ⟨[], ?_, given (outstanding_leave stack stack' state)⟩
    rw [state]
    exact .of_eq rfl
  | fetched stack stack' waiting _ queues _ traffic =>
    exact ⟨_, traffic, quiet (wf.outstanding_fetch stack stack' waiting queues)⟩
  | closed stack stack' _ queues _ traffic _ _ =>
    exact ⟨_, traffic, given (wf.outstanding_close stack stack' queues)⟩
  | joined stack stack' _ state _ =>
    refine ⟨[], ?_, given (outstanding_leave stack stack' state)⟩
    rw [state]
    exact .of_eq rfl

/-- What a step submits was outstanding, and what is outstanding after it was so before, or is
called for by what it dispatches. -/
theorem WellFormed.outstanding_step (wf : WellFormed m) (st : step p m = .going m') :
    ∃ os, m.state.Traffic m'.state os ∧
      submissionsIn os + m'.outstanding ≤ m.outstanding + calledFor os :=
  wf.outstanding_move (step_move st)

/-- A panic that gets to deliveries or to a drain gives up what these had yet to make. -/
lemma WellFormed.outstanding_unwind (wf : WellFormed m) {payload : Payload} {f : Frame H σ ε}
    {base : List (Frame H σ ε)} (control : m.control = .unwind payload)
    (stack : m.stack = f :: base) (driving : f.IsDriving) (st : step p m = .going m') :
    m.state.Traffic m'.state [] ∧ f.outstanding m.state + m'.outstanding = m.outstanding := by
  rw [step, control] at st
  dsimp only [unwind] at st
  rw [stack] at st
  cases f with
  | deliveries =>
    cases st
    exact ⟨.of_eq rfl, outstanding_leave stack rfl rfl⟩
  | drain d t =>
    cases st
    obtain ⟨queues, _, traffic⟩ := closeQueue_queues m.state (d, t)
    exact ⟨traffic, wf.outstanding_close stack rfl queues⟩
  | _ => exact driving.elim

end Machine

end EventBus
