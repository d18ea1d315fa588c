import EventBus.Proofs.Machine.Move

/-!
# Runs

The machines that can come about, and the order that their stacks and queues keep. In a `Coherent`
stack every drain and every delivery belongs to the thread that it runs on, the deliveries of a
queued dispatcher stand on the drain of its queue, and no queue is drained twice at a time.
`Reachable.wellFormed` adds that the queues there are are those being drained.
-/

namespace EventBus

variable {H σ ε : Type}

namespace Machine

variable {p : Program H σ ε} {m m' : Machine H σ ε}

/-- A stack in order, for a thread to go on with. -/
inductive Coherent : Nat → List (Frame H σ ε) → Prop where
  | nil {t} : Coherent t []
  | plain {t f fs} :
    f.IsPlain →
    Coherent t fs →
    Coherent t (f :: fs)
  | immediate {t e xs fs} :
    Coherent t fs →
    Coherent t (.deliveries .immediate t e xs :: fs)
  | queued {t d e xs fs} :
    Coherent t (.drain d t :: fs) →
    Coherent t (.deliveries (.queued d) t e xs :: .drain d t :: fs)
  | drain {t d fs} :
    .drain d t ∉ fs →
    Coherent t fs →
    Coherent t (.drain d t :: fs)
  | join {t waiting fs} :
    Coherent waiting fs →
    Coherent t (.join waiting :: fs)

namespace Coherent

variable {t d : Nat} {f : Frame H σ ε} {fs gs : List (Frame H σ ε)}

/-- Below a plain frame the stack is in order for the same thread. -/
lemma of_plain (h : Coherent t (f :: fs)) (plain : f.IsPlain) : Coherent t fs := by
  cases h with
  | plain _ h => exact h
  | immediate _ => cases plain
  | queued _ => cases plain
  | drain _ _ => cases plain
  | join _ => cases plain

/-- So it is below any number of them. -/
lemma of_plain_append (h : Coherent t (gs ++ fs)) (plain : ∀ f ∈ gs, f.IsPlain) :
    Coherent t fs := by
  induction gs with
  | nil => exact h
  | cons f gs ih =>
    obtain ⟨plain_f, plain⟩ := List.forall_mem_cons.1 plain
    exact ih (h.of_plain plain_f) plain

/-- Plain frames may be put on a stack in order. -/
lemma plain_append (h : Coherent t fs) (plain : ∀ f ∈ gs, f.IsPlain) : Coherent t (gs ++ fs) := by
  induction gs with
  | nil => exact h
  | cons f gs ih =>
    obtain ⟨plain_f, plain⟩ := List.forall_mem_cons.1 plain
    exact .plain plain_f (ih plain)

/-- A drain on top is for the thread of the stack and stands there only once. -/
lemma of_drain {u : Nat} (h : Coherent t (.drain d u :: fs)) :
    u = t ∧ .drain d u ∉ fs ∧ Coherent t fs := by
  cases h with
  | plain plain _ => cases plain
  | drain once h => exact ⟨rfl, once, h⟩

/-- Below the frame that waits for a thread, the stack is in order for the thread that waits. -/
lemma of_join {waiting : Nat} (h : Coherent t (.join waiting :: fs)) : Coherent waiting fs := by
  cases h with
  | plain plain _ => cases plain
  | join h => exact h

/-- The deliveries of an event may be replaced by other deliveries of the same dispatcher. -/
lemma of_deliveries {order : DispatchOrder} {u : Nat} {e : Event} {xs : List (Subscriber H)}
    (h : Coherent t (.deliveries order u e xs :: fs)) :
    u = t ∧ Coherent t fs ∧ (∀ d, order = .queued d → ∃ base, fs = .drain d t :: base) ∧
      ∀ e' xs', Coherent t (.deliveries order u e' xs' :: fs) := by
  cases h with
  | plain plain _ => cases plain
  | immediate h => exact ⟨rfl, h, by rintro d ⟨⟩, fun _ _ => .immediate h⟩
  | queued h =>
    refine ⟨rfl, h, ?_, fun _ _ => .queued h⟩
    intro d same
    cases same
    exact ⟨_, rfl⟩

end Coherent

/-- Plain frames on top are no drains. -/
lemma drain_mem_append {d t : Nat} {fs gs : List (Frame H σ ε)} (plain : ∀ f ∈ gs, f.IsPlain) :
    Frame.drain d t ∈ gs ++ fs ↔ Frame.drain d t ∈ fs := by
  rw [List.mem_append]
  constructor
  · rintro (mem | mem)
    · cases plain _ mem
    · exact mem
  · exact .inr

/-- A machine in order: its stack is, and there is a queue just for each drain on the stack. -/
structure WellFormed (m : Machine H σ ε) : Prop where
  coherent : Coherent m.thread m.stack
  open_of_mem : ∀ {d t}, Frame.drain d t ∈ m.stack →
    ∃ q, m.state.queues.get? (d, t) = some ⟨q, true⟩
  none_of_not_mem : ∀ {d t}, Frame.drain d t ∉ m.stack → m.state.queues.get? (d, t) = none

namespace WellFormed

/-- The order of a machine is that of its stack. -/
lemma coherent_of (wf : WellFormed m) {fs : List (Frame H σ ε)} (stack : m.stack = fs) :
    Coherent m.thread fs := by
  rw [← stack]
  exact wf.coherent

/-- The order stays where the drains and the queues stay. -/
lemma congr (wf : WellFormed m) (coherent : Coherent m'.thread m'.stack)
    (drains : ∀ d t, Frame.drain d t ∈ m'.stack ↔ Frame.drain d t ∈ m.stack)
    (queues : m'.state.queues = m.state.queues) : WellFormed m' where
  coherent := coherent
  open_of_mem mem := by
    rw [queues]
    exact wf.open_of_mem ((drains _ _).1 mem)
  none_of_not_mem mem := by
    rw [queues]
    exact wf.none_of_not_mem (fun mem' => mem ((drains _ _).2 mem'))

/-- A machine about to post stays in order. -/
lemma posting (wf : WellFormed m) (posting : Posting m m') : WellFormed m' := by
  cases posting with
  | here stack thread calm =>
    apply wf.congr _ _ calm.queues
    · rw [stack, thread]
      exact .plain trivial wf.coherent
    · simp [stack]
  | elsewhere stack calm =>
    apply wf.congr _ _ calm.queues
    · rw [stack]
      exact .join (.plain trivial wf.coherent)
    · simp [stack]

/-- A queue that holds something else keeps the order, if it is being drained. -/
lemma refill (wf : WellFormed m) {d t : Nat} {q : List (Pending H)}
    (coherent : Coherent m'.thread m'.stack)
    (drains : ∀ d' t', Frame.drain d' t' ∈ m'.stack ↔
      Frame.drain d' t' ∈ m.stack ∨ d' = d ∧ t' = t)
    (queues : m'.state.queues = m.state.queues.set (d, t) ⟨q, true⟩) : WellFormed m' where
  coherent := coherent
  open_of_mem {d' t'} mem := by
    rw [queues, Table.get?_set]
    split
    · exact ⟨q, rfl⟩
    · rename_i other
      obtain mem | ⟨rfl, rfl⟩ := (drains d' t').1 mem
      · exact wf.open_of_mem mem
      · exact absurd rfl other
  none_of_not_mem {d' t'} mem := by
    rw [drains, not_or] at mem
    obtain ⟨mem, other⟩ := mem
    rw [queues, Table.get?_set, if_neg]
    · exact wf.none_of_not_mem mem
    · rintro ⟨⟩
      exact other ⟨rfl, rfl⟩

/-- Whatever becomes of a post, the machine stays in order. -/
lemma routed (wf : WellFormed m) (routed : Routed m m') (thread : m'.thread = m.thread) :
    WellFormed m' := by
  cases routed with
  | silent stack calm =>
    apply wf.congr _ _ calm.queues
    · rw [stack, thread]
      exact wf.coherent
    · simp [stack]
  | immediate stack queues _ _ =>
    apply wf.congr _ _ queues
    · rw [stack, thread]
      exact .immediate wf.coherent
    · simp [stack]
  | @waits id _ _ _ stack drained queues _ _ =>
    apply wf.refill _ _ queues
    · rw [stack, thread]
      exact wf.coherent
    · intro d' t'
      rw [stack, or_iff_left_of_imp]
      rintro ⟨rfl, rfl⟩
      by_contra mem
      simp [wf.none_of_not_mem mem] at drained
  | @opens id _ _ _ stack idle queues _ _ =>
    apply wf.refill _ _ queues
    · rw [stack, thread]
      refine .drain ?_ wf.coherent
      -- A queue that is drained further down would not be idle.
      intro mem
      obtain ⟨q, drained⟩ := wf.open_of_mem mem
      simp [drained] at idle
    · intro d' t'
      rw [stack, List.mem_cons, Frame.drain.injEq, or_comm]

/-- Every move keeps the order. -/
lemma move (wf : WellFormed m) (move : Move m m') : WellFormed m' := by
  cases move with
  | plain stack stack' popped pushed thread calm =>
    have coherent := wf.coherent_of stack
    have pushed := fun f mem => (pushed f mem).isPlain
    apply wf.congr _ _ calm.queues
    · rw [stack', thread]
      exact (coherent.of_plain_append popped).plain_append pushed
    · intro d t
      rw [stack, stack', drain_mem_append popped, drain_mem_append pushed]
  | posted posting routed thread _ => exact (wf.posting posting).routed routed thread
  | called stack stack' _ thread queues _ _ =>
    have coherent := wf.coherent_of stack
    apply wf.congr _ _ queues
    · rw [stack', thread]
      exact .plain trivial (coherent.of_deliveries.2.2.2 _ _)
    · simp [stack, stack']
  | putOff stack stack' _ thread queues _ =>
    have coherent := wf.coherent_of stack
    apply wf.congr _ _ queues
    · rw [stack', thread]
      exact coherent.of_deliveries.2.2.2 _ _
    · simp [stack, stack']
  | @ran f f' _ _ _ stack stack' plain plain' _ thread queues _ =>
    have coherent := wf.coherent_of stack
    apply wf.congr _ _ queues
    · rw [stack', thread]
      exact .plain trivial (.plain plain' (coherent.of_plain plain))
    · intro d t
      have h : Frame.drain d t ≠ f := by rintro rfl; exact plain
      have h' : Frame.drain d t ≠ f' := by rintro rfl; exact plain'
      simp [stack, stack', h, h']
  | left stack stack' thread state _ _ =>
    have coherent := wf.coherent_of stack
    apply wf.congr _ _ (by rw [state])
    · rw [stack', thread]
      exact coherent.of_deliveries.2.1
    · simp [stack, stack']
  | @fetched d t _ _ draining _ stack stack' waiting thread queues _ _ =>
    have coherent := wf.coherent_of stack
    have mem : Frame.drain d t ∈ m.stack := by rw [stack]; exact List.mem_cons_self
    obtain ⟨q, drained⟩ := wf.open_of_mem mem
    rw [waiting] at drained
    cases drained
    apply wf.refill _ _ queues
    · obtain ⟨rfl, _⟩ := coherent.of_drain
      rw [stack', thread]
      exact .queued coherent
    · simp [stack, stack']
  | @closed d t _ stack stack' thread queues _ _ _ _ =>
    have coherent := wf.coherent_of stack
    obtain ⟨rfl, once, coherent⟩ := coherent.of_drain
    constructor
    · rw [stack', thread]
      exact coherent
    -- The drain that is over was the only one of its queue, and the queue goes with it.
    · intro d' t' mem
      rw [stack'] at mem
      rw [queues, Table.get?_erase, if_neg]
      · exact wf.open_of_mem (by rw [stack]; exact List.mem_cons_of_mem _ mem)
      · rintro ⟨⟩
        exact once mem
    · intro d' t' mem
      rw [stack'] at mem
      rw [queues, Table.get?_erase]
      split
      · rfl
      · rename_i other
        apply wf.none_of_not_mem
        rw [stack, List.mem_cons]
        rintro (same | mem')
        · cases same
          exact other rfl
        · exact mem mem'
  | joined stack stack' thread state _ =>
    have coherent := wf.coherent_of stack
    apply wf.congr _ _ (by rw [state])
    · rw [stack', thread]
      exact coherent.of_join
    · simp [stack, stack']

end WellFormed

/-- The machines that come about when scripts are run one after the other, each until it ends, and
the pool now and then. In between, what the handlers keep may be changed and the trace forgotten. -/
inductive Reachable (p : Program H σ ε) : Machine H σ ε → Prop where
  | first (hierarchy : Hierarchy) (user : σ) (script : Script H σ ε) :
    Reachable p (start (.initial hierarchy user) script)
  | step {m₁ m₂ : Machine H σ ε} :
    Reachable p m₁ →
    step p m₁ = .going m₂ →
    Reachable p m₂
  | next {m₁ : Machine H σ ε} {s ending} (user : σ) (trace : Array (Occurrence H ε))
    (script : Script H σ ε) :
    Reachable p m₁ →
    step p m₁ = .ended s ending →
    Reachable p (start { s with user := user, trace := trace } script)
  | pool {m₁ : Machine H σ ε} {s ending} :
    Reachable p m₁ →
    step p m₁ = .ended s ending →
    Reachable p (startPool s)

/-- A script can only end the run on an empty stack. -/
lemma finish_ended {result : Except Failure Unit} {s : State H σ ε} {ending : Ending}
    (st : finish p m result = .ended s ending) : m.stack = [] ∧ s = m.state := by
  unfold finish at st
  split at st
  · rename_i stack
    cases st
    exact ⟨stack, rfl⟩
  · cases result <;> cases st
  · cases st
  · cases st

/-- Invoking a handler is never the end. -/
lemma invoke_ended {e : Event} {x : Subscriber H} {s : State H σ ε} {ending : Ending} :
    invoke p m e x ≠ .ended s ending := by
  unfold invoke
  split <;> rintro ⟨⟩

/-- A step of a script can only end the run on an empty stack. -/
lemma runScript_ended {script : Script H σ ε} {s : State H σ ε} {ending : Ending}
    (st : runScript p m script = .ended s ending) : m.stack = [] ∧ s = m.state := by
  cases script
  case finish result => exact finish_ended st
  case post bus e elsewhere next => cases elsewhere <;> cases st
  all_goals cases st

/-- A machine comes to an end when its stack is empty. -/
lemma stack_of_ended {s : State H σ ε} {ending : Ending} (st : step p m = .ended s ending) :
    m.stack = [] ∧ s = m.state := by
  unfold step at st
  split at st
  · rename_i script _
    exact runScript_ended st
  · unfold goBack at st
    split at st
    · rename_i stack
      cases st
      exact ⟨stack, rfl⟩
    · cases st
    · cases st
    · rename_i x _ _ _
      unfold deliver at st
      dsimp only at st
      cases executor : x.executor with
      | direct =>
        rw [executor] at st
        exact absurd st invoke_ended
      | deferred => rw [executor] at st; cases st
      | pool => rw [executor] at st; cases st
    · split at st <;> cases st
    · cases st
    · dsimp only at st
      split at st
      · exact absurd st invoke_ended
      · cases st
    · split at st
      · exact absurd st invoke_ended
      · cases st
    · exact finish_ended st
    · exact finish_ended st
  · unfold unwind at st
    split at st <;> cases st
    rename_i stack
    exact ⟨stack, rfl⟩

/-- Every machine that comes about is in order. -/
theorem Reachable.wellFormed (reach : Reachable p m) : WellFormed m := by
  induction reach with
  | first => exact ⟨.nil, fun mem => absurd mem List.not_mem_nil, fun _ => Table.get?_empty _⟩
  | step _ st ih => exact ih.move (step_move st)
  | next user trace script _ st ih =>
    obtain ⟨stack, rfl⟩ := stack_of_ended st
    refine ⟨.nil, fun mem => absurd mem List.not_mem_nil, fun _ => ?_⟩
    exact ih.none_of_not_mem (by simp [stack])
  | pool _ st ih =>
    obtain ⟨stack, rfl⟩ := stack_of_ended st
    exact ⟨.plain trivial .nil, by simp [startPool], fun _ => ih.none_of_not_mem (by simp [stack])⟩

/-- The machine after some steps, or where it came to an end before. -/
def after (p : Program H σ ε) (m : Machine H σ ε) : Nat → Machine H σ ε
  | 0 => m
  | n + 1 =>
    match step p (after p m n) with
    | .going m' => m'
    | _ => after p m n

def goesOn (p : Program H σ ε) (m : Machine H σ ε) : Bool :=
  match step p m with
  | .going _ => true
  | _ => false

/-- As long as the machine goes on, it makes the next step. -/
lemma step_after {n : Nat} (going : goesOn p (after p m n)) :
    step p (after p m n) = .going (after p m (n + 1)) := by
  rw [goesOn] at going
  rw [after]
  split at going
  · rename_i st
    rw [st]
  · cases going

/-- What comes about after some steps comes about. -/
lemma Reachable.after (reach : Reachable p m) (n : Nat) : Reachable p (Machine.after p m n) := by
  induction n with
  | zero => exact reach
  | succ n ih =>
    rw [Machine.after]
    split
    · rename_i st
      exact .step ih st
    · exact ih

end Machine

end EventBus
