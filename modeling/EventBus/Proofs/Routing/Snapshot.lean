import EventBus.Proofs.Queue.Outstanding
import EventBus.Proofs.Routing.Registries

/-!
# The subscribers of a post

An event goes to the subscribers that were listed when it was posted. It may have to wait in a
queue, and handlers may register and unregister while it does: the list goes with the event and not
with the bus. `Stage.next` follows one posted event through a run by looking at no more than the
height of the stack, where the machine is going and what is submitted; `Stands` says what the
machine holds of the event at each stage. Every step keeps it (`Stands.step`), and so a whole run
delivers the list as it was. The list is delivered once: the post adds it once to what is outstanding
(`Sent.outstanding_eq`), and all that is submitted besides was outstanding before the post or is due
to later dispatches (`Stands.others`). `post_delivers_snapshot` has it all.
-/

namespace EventBus

variable {H σ ε : Type}

namespace Frame

/-- Whether a frame is the drain of a queue. -/
def isDrain (id t : Nat) : Frame H σ ε → Bool
  | drain d u => d = id ∧ u = t
  | _ => false

end Frame

namespace Machine

/-- How far the dispatcher has come with an event that was posted. -/
inductive Stage (H ε : Type) where
  /-- So many events of the queue come before it. -/
  | waiting (ahead : Nat)
  /-- Some of its deliveries have been submitted. -/
  | underway (made : List (Occurrence H ε))
  /-- Its deliveries are over. -/
  | complete (made : List (Occurrence H ε))
  /-- A panic has given up the rest of them. -/
  | lost (made : List (Occurrence H ε))

namespace Stage

/-- The submissions that were made. -/
def made : Stage H ε → List (Occurrence H ε)
  | waiting _ => []
  | underway made | complete made | lost made => made

/-- What is left at a stage of the submissions of an event. -/
def left (listed : List (Occurrence H ε)) : Stage H ε → List (Occurrence H ε)
  | waiting _ => listed
  | underway made => listed.drop made.length
  | complete _ | lost _ => []

/-- The stage after a step. The deliveries of the event, while there are any to be made, have
`depth` frames below them, and the drain that takes it from its queue is the topmost of these. -/
def next (depth : Nat) (m m' : Machine H σ ε) : Stage H ε → Stage H ε
  | waiting ahead =>
    if m.stack.length = depth then
      match m.control with
      | .back => if ahead = 0 then underway [] else waiting (ahead - 1)
      | .unwind _ => lost []
      | .run _ => waiting ahead
    else waiting ahead
  | underway made =>
    if m.stack.length = depth + 1 then
      match m.control with
      | .back =>
        if m'.stack.length = depth then complete made
        else underway (made ++ (m'.state.since m.state).filter (·.isSubmission))
      | .unwind _ => lost made
      | .run _ => underway made
    else underway made
  | complete made => complete made
  | lost made => lost made

/-- What has been made of an event stays made, and a step adds what it submits, if anything. -/
lemma made_next (stage : Stage H ε) (depth : Nat) (m m' : Machine H σ ε) :
    (stage.next depth m m').made = stage.made ∨
      (stage.next depth m m').made =
        stage.made ++ (m'.state.since m.state).filter (·.isSubmission) := by
  cases stage with
  | waiting ahead =>
    left
    rw [next]
    split
    · cases m.control with
      | back => dsimp only; split <;> rfl
      | _ => rfl
    · rfl
  | underway made =>
    rw [next]
    split
    · cases m.control with
      | back =>
        dsimp only
        split
        · exact .inl rfl
        · exact .inr rfl
      | _ => exact .inl rfl
    · exact .inl rfl
  | complete => exact .inl rfl
  | lost => exact .inl rfl

/-- The height of the stack when it is the turn of the event. -/
def turn (depth : Nat) : Stage H ε → Nat
  | waiting _ => depth
  | _ => depth + 1

/-- Only a panic that gets to the deliveries of an event, or to the drain that it waits for, makes
the event be lost. -/
lemma lost_of_next {stage : Stage H ε} {depth : Nat} {m m' : Machine H σ ε}
    {made : List (Occurrence H ε)} (lost : stage.next depth m m' = .lost made) :
    made = stage.made ∧ (stage = .lost made ∨
      (∃ payload, m.control = .unwind payload) ∧ m.stack.length = stage.turn depth) := by
  cases stage with
  | waiting ahead =>
    rw [next] at lost
    split at lost
    · rename_i height
      cases control : m.control with
      | back =>
        rw [control] at lost
        dsimp only at lost
        split at lost <;> cases lost
      | unwind payload =>
        rw [control] at lost
        cases lost
        exact ⟨rfl, .inr ⟨⟨payload, rfl⟩, height⟩⟩
      | run script =>
        rw [control] at lost
        cases lost
    · cases lost
  | underway made' =>
    rw [next] at lost
    split at lost
    · rename_i height
      cases control : m.control with
      | back =>
        rw [control] at lost
        dsimp only at lost
        split at lost <;> cases lost
      | unwind payload =>
        rw [control] at lost
        cases lost
        exact ⟨rfl, .inr ⟨⟨payload, rfl⟩, height⟩⟩
      | run script =>
        rw [control] at lost
        cases lost
    · cases lost
  | complete made' => cases lost
  | lost made' =>
    cases lost
    exact ⟨rfl, .inl rfl⟩

end Stage

/-- The stage that an event has come to after some steps from a machine where it was at the first
one. -/
def stageAfter (p : Program H σ ε) (depth : Nat) (m : Machine H σ ε) (first : Stage H ε) :
    Nat → Stage H ε
  | 0 => first
  | n + 1 =>
    match step p (after p m n) with
    | .going m' => (stageAfter p depth m first n).next depth (after p m n) m'
    | _ => stageAfter p depth m first n

/-- What a machine holds of an event with its subscribers, at each stage, above the frames `base`:
its place in the queue, then the subscribers that are left. What has been submitted and what is left
make up the list that the event came with. -/
inductive Stands (order : DispatchOrder) (t : Nat) (e : Event) (xs : List (Subscriber H))
    (base : List (Frame H σ ε)) (m : Machine H σ ε) : Stage H ε → Prop where
  | waiting {id rest gs ahead behind} (queued : order = .queued id)
      (drain : base = .drain id t :: rest) (stack : m.stack = gs ++ base)
      (place : m.state.waiting (id, t) = ahead ++ ⟨e, xs⟩ :: behind) :
    Stands order t e xs base m (.waiting ahead.length)
  | underway {gs made left}
      (all : made ++ left.map (.submitted t order e) = xs.map (.submitted t order e))
      (stack : m.stack = gs ++ .deliveries order t e left :: base) :
    Stands order t e xs base m (.underway made)
  | complete {made} (all : made = xs.map (.submitted t order e)) :
    Stands order t e xs base m (.complete made)
  | lost {made} (part : made <+: xs.map (.submitted t order e)) :
    Stands order t e xs base m (.lost made)

/-- Of an event that is to come to some submissions, one machine has come to one stage and a later
one to another: what was made of the event in between has been submitted in between, and everything
else that has been submitted since was outstanding before or was called for by a dispatch. -/
inductive Counts (listed : List (Occurrence H ε)) (m : Machine H σ ε) (stage : Stage H ε)
    (m' : Machine H σ ε) (stage' : Stage H ε) : Prop where
  | intro (os) (traffic : m.state.Traffic m'.state os)
    (made : (stage'.made : Multiset (Occurrence H ε)) ≤ stage.made + submissionsIn os)
    (rest : submissionsIn os + m'.outstanding + (stage.made + stage.left listed) ≤
      m.outstanding + calledFor os + (stage'.made + stage'.left listed))

namespace Counts

variable {listed : List (Occurrence H ε)} {m m' m'' : Machine H σ ε} {stage stage' stage'' : Stage H ε}

/-- A machine that takes no step submits nothing. -/
lemma refl (listed : List (Occurrence H ε)) (m : Machine H σ ε) (stage : Stage H ε) :
    Counts listed m stage m stage := by
  refine ⟨[], .of_eq rfl, Multiset.le_add_right _ _, ?_⟩
  apply add_le_add_left
  exact (zero_add _).trans_le (add_zero _).ge

/-- Two stretches of a run submit what each of them does. -/
lemma trans (h : Counts listed m stage m' stage') (h' : Counts listed m' stage' m'' stage'') :
    Counts listed m stage m'' stage'' := by
  obtain ⟨os, traffic, made, rest⟩ := h
  obtain ⟨os', traffic', made', rest'⟩ := h'
  refine ⟨os ++ os', traffic.trans traffic', ?_, ?_⟩
  · rw [submissionsIn_append, ← add_assoc]
    exact made'.trans (add_le_add_left made _)
  · classical
    rw [submissionsIn_append, calledFor_append]
    rw [Multiset.le_iff_count] at *
    intro o
    have rest := rest o
    have rest' := rest' o
    simp only [Multiset.count_add] at *
    omega

/-- Besides what was made of an event that was added to what had been outstanding, only that has been
submitted which had been outstanding already, or was called for by a dispatch since. -/
lemma others {owed : Multiset (Occurrence H ε)} (h : Counts listed m stage m' stage')
    (unmade : stage.made = []) (whole : stage.left listed = listed)
    (added : m.outstanding = owed + listed)
    (left : (stage'.left listed : Multiset (Occurrence H ε)) ≤ m'.outstanding) :
    ∃ others, submissionsIn (m'.state.since m.state) = stage'.made + others ∧
      others ≤ owed + calledFor (m'.state.since m.state) := by
  obtain ⟨os, traffic, made, rest⟩ := h
  rw [traffic.submissionsIn_since, traffic.calledFor_since]
  rw [unmade] at made
  obtain ⟨others, all⟩ := le_iff_exists_add.1 (made.trans (zero_add _).le)
  refine ⟨others, all, ?_⟩
  classical
  rw [unmade, whole, all, added] at rest
  rw [Multiset.le_iff_count] at *
  intro o
  have rest := rest o
  have left := left o
  simp only [Multiset.count_add, Multiset.coe_nil, Multiset.count_zero] at *
  omega

end Counts

variable {p : Program H σ ε} {m m' : Machine H σ ε}

/-- A turn leaves alone what is under the frame on top. -/
lemma Turn.above_base (turn : Turn p m m') {f : Frame H σ ε} {gs base : List (Frame H σ ε)}
    (stack : m.stack = f :: gs ++ base) : ∃ gs', m'.stack = gs' ++ base := by
  obtain ⟨gs', stack'⟩ | ⟨gs', stack', _⟩ := turn.above (stack.trans (List.cons_append ..))
  · exact ⟨gs' ++ f :: gs, by rw [stack', List.append_assoc]; rfl⟩
  · exact ⟨gs' ++ gs, by rw [stack', List.append_assoc]⟩

/-- A queue that a post is routed past only grows at its end. -/
lemma Routed.waiting_grows (routed : Routed m m') (key : Nat × Nat) :
    ∃ more, m'.state.waiting key = m.state.waiting key ++ more := by
  obtain ⟨os, _, waiting⟩ := routed.waiting key.1 key.2
  exact ⟨_, waiting⟩

/-- Only the drain of a queue, when it is on top, takes anything from the queue. -/
lemma Move.waiting_grows (move : Move m m') (id t : Nat) :
    (∃ more, m'.state.waiting (id, t) = m.state.waiting (id, t) ++ more) ∨
      ∃ base, m.stack = .drain id t :: base := by
  have kept (queues : m'.state.queues = m.state.queues) :
      ∃ more, m'.state.waiting (id, t) = m.state.waiting (id, t) ++ more :=
    ⟨[], by rw [waiting_congr queues, List.append_nil]⟩
  cases move with
  | plain _ _ _ _ _ calm => exact .inl (kept calm.queues)
  | posted posting routed _ _ =>
    left
    obtain ⟨more, grown⟩ := routed.waiting_grows (id, t)
    exact ⟨more, by rw [grown, waiting_congr posting.calm.queues]⟩
  | called _ _ _ _ queues _ _ => exact .inl (kept queues)
  | putOff _ _ _ _ queues _ => exact .inl (kept queues)
  | ran _ _ _ _ _ _ queues _ => exact .inl (kept queues)
  | left _ _ _ state _ _ => exact .inl (kept (by rw [state]))
  | @fetched d u next q draining base stack _ _ _ queues _ _ =>
    by_cases same : (d, u) = (id, t)
    · cases same
      exact .inr ⟨base, stack⟩
    · left
      exact ⟨[], by rw [waiting_set queues, if_neg same, List.append_nil]⟩
  | @closed d u base stack _ _ queues _ _ _ _ =>
    by_cases same : (d, u) = (id, t)
    · cases same
      exact .inr ⟨base, stack⟩
    · left
      exact ⟨[], by rw [waiting_erase queues, if_neg same, List.append_nil]⟩
  | joined _ _ _ state _ => exact .inl (kept (by rw [state]))

/-- A call that comes back at once leaves the queues alone. -/
lemma Acts.calm {t : Nat} {s s' : State H σ ε} {script next : Script H σ ε}
    (acts : Acts t s script s' next) : s.Calm s' := by
  cases acts with
  | note => exact (State.Calm.refl s).emit rfl
  | inspect => exact .refl s
  | update | declare | newDispatcher => exact .of_eq rfl rfl rfl
  | build => exact calm_build ..
  | register => exact calm_register ..
  | unregister => exact calm_unregister ..

/-- What a script does that runs on top of deliveries or of a drain leaves these alone, and the
queues grow at their ends only. -/
lemma Turn.run_above (turn : Turn p m m') {script : Script H σ ε}
    (control : m.control = .run script) {f : Frame H σ ε} {base : List (Frame H σ ε)}
    (stack : m.stack = f :: base) (driving : f.IsDriving) :
    (∃ gs, m'.stack = gs ++ m.stack) ∧
      ∀ key, ∃ more, m'.state.waiting key = m.state.waiting key ++ more := by
  have same (key : Nat × Nat) : ∃ more, m.state.waiting key = m.state.waiting key ++ more :=
    ⟨[], (List.append_nil _).symm⟩
  cases turn with
  | acts _ acts =>
    refine ⟨⟨[], rfl⟩, ?_⟩
    intro key
    exact ⟨[], by rw [waiting_congr acts.calm.queues, List.append_nil]⟩
  | panics _ => exact ⟨⟨[], rfl⟩, same⟩
  | @posts bus e elsewhere next _ =>
    refine ⟨m.post_stack next elsewhere bus e, ?_⟩
    intro key
    obtain ⟨more, grown⟩ := (routed_post (m.putAside next elsewhere) bus e).waiting_grows key
    refine ⟨more, grown.trans ?_⟩
    cases elsewhere <;> rfl
  | runsBacklog _ => exact ⟨⟨[_], rfl⟩, same⟩
  | idles _ _ => exact ⟨⟨[], rfl⟩, same⟩
  | delivered _ stack' | reported _ stack' | joins stack' =>
    cases stack.symm.trans stack'
    exact driving.elim
  | fails fails =>
    cases stack.symm.trans fails.stack
    exact driving.elim
  | resumes back | delivers back | calls back | defers back | handsOff back | fetches back
  | closes back | takes back | ran back | pools back | rests back =>
    cases control.symm.trans back
  | breaks unwinds | leaves unwinds | catches unwinds | survives unwinds | drops unwinds =>
    cases control.symm.trans unwinds

/-- Deliveries on top submit the next one, and the rest of them stay. -/
lemma Turn.submits (turn : Turn p m m') (control : m.control = .back) {order : DispatchOrder}
    {t : Nat} {e : Event} {x : Subscriber H} {xs : List (Subscriber H)}
    {base : List (Frame H σ ε)} (stack : m.stack = .deliveries order t e (x :: xs) :: base) :
    (∃ gs, m'.stack = gs ++ .deliveries order t e xs :: base) ∧
      (m'.state.since m.state).filter (·.isSubmission) = [.submitted m.thread order e x] := by
  have submitted : m.state.Traffic (m.state.emit (.submitted m.thread order e x))
      [.submitted m.thread order e x] :=
    (State.Adds.of_eq (s := m.state) rfl).emit _
  cases turn with
  | calls _ stack' _ =>
    cases stack.symm.trans stack'
    have entered := submitted.trans (State.calm_enter _ m.thread x).traffic
    exact ⟨⟨[_], rfl⟩, (entered.emit (.invoked m.thread e x)).filter_submissions_since⟩
  | defers _ stack' _ =>
    cases stack.symm.trans stack'
    exact ⟨⟨[], rfl⟩, submitted.filter_submissions_since⟩
  | handsOff _ stack' _ =>
    cases stack.symm.trans stack'
    exact ⟨⟨[], rfl⟩, (submitted.emit (.handedOff e x)).filter_submissions_since⟩
  | acts run | panics run | posts run | runsBacklog run | idles run =>
    cases control.symm.trans run
  | fails fails => cases control.symm.trans fails.control
  | delivered _ stack' | reported _ stack' | resumes _ stack' | delivers _ stack'
  | fetches _ stack' | closes _ stack' | joins stack' | takes _ stack' | ran _ stack'
  | pools _ stack' | rests _ stack' => cases stack.symm.trans stack'
  | breaks unwinds | leaves unwinds | catches unwinds | survives unwinds | drops unwinds =>
    cases control.symm.trans unwinds

namespace Stands

variable {order : DispatchOrder} {t : Nat} {e : Event} {xs : List (Subscriber H)}
  {base : List (Frame H σ ε)} {stage : Stage H ε}

/-- A pending entry is fetched in its turn, moves up, or goes with its queue. -/
lemma step_waiting (wf : WellFormed m) {id : Nat} {rest gs : List (Frame H σ ε)}
    {ahead behind : List (Pending H)} (queued : order = .queued id)
    (drain : base = .drain id t :: rest) (stack : m.stack = gs ++ base)
    (place : m.state.waiting (id, t) = ahead ++ ⟨e, xs⟩ :: behind)
    (st : Machine.step p m = .going m') :
    Stands order t e xs base m' (Stage.next base.length m m' (.waiting ahead.length)) := by
  have turn := step_turn st
  have stays (stack' : ∃ gs, m'.stack = gs ++ base)
      (grows : ∃ more, m'.state.waiting (id, t) = m.state.waiting (id, t) ++ more) :
      Stands order t e xs base m' (.waiting ahead.length) := by
    obtain ⟨gs', stack'⟩ := stack'
    obtain ⟨more, grown⟩ := grows
    rw [place, List.append_assoc] at grown
    exact .waiting queued drain stack' grown
  rw [Stage.next]
  cases gs with
  | cons f gs =>
    -- Something runs on top of the drain, which is the only one of its queue.
    rw [if_neg (by simp [stack]; omega)]
    apply stays (turn.above_base stack)
    obtain grows | ⟨base', top⟩ := (step_move st).waiting_grows id t
    · exact grows
    · have coherent := wf.coherent_of top
      obtain ⟨_, once, _⟩ := coherent.of_drain
      rw [top, drain] at stack
      cases stack
      exact absurd (List.mem_append_right _ List.mem_cons_self) once
  | nil =>
    rw [if_pos (by rw [stack]; rfl)]
    have top : m.stack = .drain id t :: rest := stack.trans drain
    cases control : m.control with
    | run script =>
      obtain ⟨stack', grows⟩ := turn.run_above control top trivial
      exact stays (by rwa [stack] at stack') (grows _)
    | unwind payload => exact .lost List.nil_prefix
    | back =>
      obtain ⟨q, drained⟩ := wf.open_of_mem (by rw [top]; exact List.mem_cons_self)
      obtain rfl : q = ahead ++ ⟨e, xs⟩ :: behind := by
        rw [← place, waiting_of_get? drained]
      rw [Machine.step, control] at st
      dsimp only [goBack] at st
      rw [top] at st
      cases ahead with
      | nil =>
        simp only [State.dequeue, drained, List.nil_append] at st
        cases st
        have stack' : .deliveries (.queued id) t e xs :: m.stack =
            [] ++ .deliveries order t e xs :: base := by
          rw [stack, queued]
          rfl
        exact .underway (List.nil_append _) stack'
      | cons next ahead =>
        simp only [State.dequeue, drained, List.cons_append] at st
        cases st
        have stack' : .deliveries (.queued id) t next.event next.subscribers :: m.stack =
            [.deliveries (.queued id) t next.event next.subscribers] ++ base := by
          rw [stack]
          rfl
        exact .waiting queued drain stack' ((waiting_set rfl (id, t)).trans (if_pos rfl))

/-- An entry underway is delivered to its next subscriber, waits for the call above, or is lost. -/
lemma step_underway {gs : List (Frame H σ ε)} {made : List (Occurrence H ε)}
    {left : List (Subscriber H)} (wf : WellFormed m)
    (all : made ++ left.map (.submitted t order e) = xs.map (.submitted t order e))
    (stack : m.stack = gs ++ .deliveries order t e left :: base)
    (st : Machine.step p m = .going m') :
    Stands order t e xs base m' (Stage.next base.length m m' (.underway made)) := by
  have turn := step_turn st
  rw [Stage.next]
  cases gs with
  | cons f gs =>
    rw [if_neg (by simp [stack]; omega)]
    obtain ⟨gs', stack'⟩ := turn.above_base stack
    exact .underway all stack'
  | nil =>
    rw [if_pos (by rw [stack]; rfl)]
    cases control : m.control with
    | run script =>
      obtain ⟨⟨gs', stack'⟩, _⟩ := turn.run_above control stack trivial
      rw [stack] at stack'
      exact .underway all stack'
    | unwind payload => exact .lost ⟨_, all⟩
    | back =>
      cases left with
      | nil =>
        rw [Machine.step, control] at st
        simp only [goBack, stack, List.nil_append] at st
        cases st
        rw [List.map_nil, List.append_nil] at all
        dsimp only
        rw [if_pos rfl]
        exact .complete all
      | cons x left =>
        obtain ⟨⟨gs', stack'⟩, submitted⟩ := turn.submits control stack
        obtain ⟨rfl, _⟩ := (wf.coherent_of stack).of_deliveries
        dsimp only
        rw [if_neg (by simp [stack']; omega), submitted]
        refine .underway ?_ stack'
        rw [List.append_assoc]
        exact all

/-- Every step takes an event from the stage that it has come to to the next. -/
theorem step (wf : WellFormed m) (stands : Stands order t e xs base m stage)
    (st : Machine.step p m = .going m') :
    Stands order t e xs base m' (stage.next base.length m m') := by
  cases stands with
  | waiting queued drain stack place => exact step_waiting wf queued drain stack place st
  | underway all stack => exact step_underway wf all stack st
  | complete all => exact .complete all
  | lost part => exact .lost part

/-- So does a whole run. -/
theorem after (reach : Reachable p m) (stands : Stands order t e xs base m stage) (n : Nat) :
    Stands order t e xs base (Machine.after p m n) (stageAfter p base.length m stage n) := by
  induction n with
  | zero => exact stands
  | succ n ih =>
    rw [Machine.after, stageAfter]
    cases st : Machine.step p (Machine.after p m n) with
    | going m' => exact ih.step (reach.after n).wellFormed st
    | ended s ending => exact ih
    | stuck s => exact ih

/-- An event that waits in a queue is outstanding with the drain of the queue. -/
lemma waiting_le {id : Nat} {ahead behind : List (Pending H)} {next : Pending H}
    (place : m.state.waiting (id, t) = ahead ++ next :: behind) :
    next.submissions (.queued id) t ≤ Frame.outstanding m.state (.drain id t) := by
  rw [Frame.outstanding, place, List.map_append, List.map_cons, List.sum_append, List.sum_cons]
  exact le_add_of_le_right (Multiset.le_add_right _ _)

/-- What is left of an entry underway are the subscribers not yet taken up. -/
lemma left_underway {made : List (Occurrence H ε)} {left : List (Subscriber H)}
    (all : made ++ left.map (.submitted t order e) = xs.map (.submitted t order e)) :
    (Stage.underway made).left (xs.map (.submitted t order e)) =
      left.map (.submitted t order e) := by
  rw [Stage.left, ← all, List.drop_left]

/-- What is left of an event is outstanding. -/
lemma left_le (stands : Stands order t e xs base m stage) :
    (stage.left (xs.map (.submitted t order e)) : Multiset (Occurrence H ε)) ≤ m.outstanding := by
  cases stands with
  | waiting queued drain stack place =>
    subst queued drain
    rw [outstanding_of_stack stack, State.outstanding_append, State.outstanding_cons]
    exact le_add_of_le_right (le_add_of_le_left (waiting_le place))
  | underway all stack =>
    rw [left_underway all, outstanding_of_stack stack, State.outstanding_append,
      State.outstanding_cons]
    exact le_add_of_le_right (Multiset.le_add_right _ _)
  | complete => exact Multiset.zero_le _
  | lost => exact Multiset.zero_le _

/-- Unless it is lost, what was made of an event and what is left of it is all of it. -/
lemma made_append_left (stands : Stands order t e xs base m stage)
    (kept : ∀ made, stage ≠ .lost made) :
    stage.made ++ stage.left (xs.map (.submitted t order e)) = xs.map (.submitted t order e) := by
  cases stands with
  | waiting => rfl
  | underway all _ => rw [left_underway all, Stage.made, all]
  | complete all => rw [Stage.made, Stage.left, all, List.append_nil]
  | lost => exact absurd rfl (kept _)

/-- Where an event gets lost, a panic gives up what was left of it. -/
lemma lost_left (wf : WellFormed m) (stands : Stands order t e xs base m stage)
    (st : Machine.step p m = .going m') {made : List (Occurrence H ε)}
    (lost : stage.next base.length m m' = .lost made) :
    made = stage.made ∧ (stage.left (xs.map (.submitted t order e)) = [] ∨
      m.state.Traffic m'.state [] ∧
        (stage.left (xs.map (.submitted t order e)) : Multiset (Occurrence H ε)) +
          m'.outstanding ≤ m.outstanding) := by
  cases stands with
  | @waiting id rest gs ahead behind queued drain stack place =>
    obtain ⟨rfl, lost | ⟨⟨payload, control⟩, height⟩⟩ := Stage.lost_of_next lost
    · cases lost
    obtain rfl : gs = [] := by simpa [stack, Stage.turn] using height
    subst queued drain
    obtain ⟨traffic, given⟩ := wf.outstanding_unwind control stack trivial st
    rw [← given]
    exact ⟨rfl, .inr ⟨traffic, add_le_add_left (waiting_le place) _⟩⟩
  | @underway gs made' left all stack =>
    obtain ⟨rfl, lost | ⟨⟨payload, control⟩, height⟩⟩ := Stage.lost_of_next lost
    · cases lost
    obtain rfl : gs = [] := by simpa [stack, Stage.turn] using height
    obtain ⟨traffic, given⟩ := wf.outstanding_unwind control stack trivial st
    rw [left_underway all, ← given]
    exact ⟨rfl, .inr ⟨traffic, le_rfl⟩⟩
  | complete => cases lost
  | lost =>
    cases lost
    exact ⟨rfl, .inl rfl⟩

/-- A step submits what it makes of the event, and what else it submits was outstanding. -/
lemma counts_step (wf : WellFormed m) (stands : Stands order t e xs base m stage)
    (st : Machine.step p m = .going m') :
    Counts (xs.map (.submitted t order e)) m stage m' (stage.next base.length m m') := by
  obtain ⟨os, traffic, law⟩ := wf.outstanding_step st
  refine ⟨os, traffic, ?_, ?_⟩
  · rw [submissionsIn, ← traffic.filter_submissions_since, Multiset.coe_add]
    obtain same | more := stage.made_next base.length m m'
    · rw [same]
      exact (List.prefix_append _ _).sublist.subperm
    · rw [more]
  · by_cases lost : ∃ made, stage.next base.length m m' = .lost made
    · obtain ⟨made, lost⟩ := lost
      obtain ⟨rfl, none | ⟨traffic', given⟩⟩ := stands.lost_left wf st lost
      · rw [lost, none]
        exact add_le_add_left law _
      · -- A panic submits nothing.
        obtain rfl := traffic.unique traffic'
        rw [lost]
        calc (0 : Multiset (Occurrence H ε)) + m'.outstanding +
              (stage.made + stage.left (xs.map (.submitted t order e)))
          _ = stage.left (xs.map (.submitted t order e)) + m'.outstanding + stage.made := by abel
          _ ≤ m.outstanding + 0 + (stage.made + 0) := by
            rw [add_zero, add_zero]
            exact add_le_add_left given _
    · have kept : ∀ made, stage ≠ .lost made := by
        rintro made rfl
        exact lost ⟨made, rfl⟩
      have stands' := stands.step wf st
      rw [Multiset.coe_add, stands.made_append_left kept, Multiset.coe_add,
        stands'.made_append_left fun made same => lost ⟨made, same⟩]
      exact add_le_add_left law _

/-- So it is in the course of a whole run. -/
lemma counts (reach : Reachable p m) (stands : Stands order t e xs base m stage) (n : Nat) :
    Counts (xs.map (.submitted t order e)) m stage (Machine.after p m n)
      (stageAfter p base.length m stage n) := by
  induction n with
  | zero => exact .refl ..
  | succ n ih =>
    rw [Machine.after, stageAfter]
    cases st : Machine.step p (Machine.after p m n) with
    | going m' =>
      exact ih.trans ((stands.after reach n).counts_step (reach.after n).wellFormed st)
    | ended s ending => exact ih
    | stuck s => exact ih

/-- What has been submitted is at any time a beginning of the list. -/
lemma made_begins (stands : Stands order t e xs base m stage) :
    stage.made <+: xs.map (.submitted t order e) := by
  cases stands with
  | waiting => exact List.nil_prefix
  | underway all _ => exact ⟨_, all⟩
  | complete all => exact all ▸ List.prefix_refl _
  | lost part => exact part

/-- When an entry is complete, all of the list has been submitted. -/
lemma made_of_complete {made : List (Occurrence H ε)}
    (stands : Stands order t e xs base m (.complete made)) :
    made = xs.map (.submitted t order e) := by
  cases stands with
  | complete all => exact all

/-- Nothing waits and nothing is underway on an empty stack. -/
lemma of_stack_nil (stands : Stands order t e xs base m stage) (stack : m.stack = []) :
    ∃ made, stage = .complete made ∨ stage = .lost made := by
  cases stands with
  | waiting _ drain stack' _ =>
    rw [stack, drain] at stack'
    simp at stack'
  | underway _ stack' =>
    rw [stack] at stack'
    simp at stack'
  | complete => exact ⟨_, .inl rfl⟩
  | lost => exact ⟨_, .inr rfl⟩

end Stands

/-- An entry is lost only by a panic that comes down to it. -/
lemma lost_of_stageAfter {depth : Nat} {first : Stage H ε} (n : Nat)
    {made : List (Occurrence H ε)} (start : first ≠ .lost made)
    (lost : stageAfter p depth m first n = .lost made) :
    ∃ i < n, ∃ payload, (after p m i).control = .unwind payload ∧
      (after p m i).stack.length ≤ depth + 1 := by
  induction n with
  | zero => exact absurd lost start
  | succ n ih =>
    have before (lost : stageAfter p depth m first n = .lost made) :
        ∃ i < n + 1, ∃ payload, (after p m i).control = .unwind payload ∧
          (after p m i).stack.length ≤ depth + 1 := by
      obtain ⟨i, early, panic⟩ := ih lost
      exact ⟨i, Nat.lt_succ_of_lt early, panic⟩
    rw [stageAfter] at lost
    split at lost
    · obtain ⟨_, lost | ⟨⟨payload, control⟩, height⟩⟩ := Stage.lost_of_next lost
      · exact before lost
      · refine ⟨n, Nat.lt_succ_self n, payload, control, height.trans_le ?_⟩
        cases stageAfter p depth m first n <;> simp [Stage.turn]
    · exact before lost

/-- Where an event stands that was just posted on a machine: its deliveries are to be made at once,
or after the events that wait in the queue. -/
def Stage.first (m : Machine H σ ε) : DispatchOrder → Stage H ε
  | .immediate => .underway []
  | .queued id => .waiting (m.state.waiting (id, m.thread)).length

/-- At first nothing has been submitted. -/
lemma Stage.first_made (m : Machine H σ ε) (order : DispatchOrder) :
    (Stage.first m order).made = [] := by
  cases order <;> rfl

/-- At first all of the list is left. -/
lemma Stage.first_left (m : Machine H σ ε) (order : DispatchOrder)
    (listed : List (Occurrence H ε)) : (Stage.first m order).left listed = listed := by
  cases order <;> rfl

/-- At first nothing is lost. -/
lemma Stage.first_ne_lost (order : DispatchOrder) (made : List (Occurrence H ε)) :
    Stage.first m order ≠ .lost made := by
  cases order with
  | immediate => rintro ⟨⟩
  | queued id => rintro ⟨⟩

/-- The frames that will be below the deliveries of an event that is about to be dispatched: those
that are there, if it is delivered at once, and the drain of its queue with all below it, if it has
to wait. Where the queue is not being drained yet, the drain is put on top. -/
def below (m : Machine H σ ε) : DispatchOrder → List (Frame H σ ε)
  | .immediate => m.stack
  | .queued id =>
    match m.stack.dropWhile (!·.isDrain id m.thread) with
    | [] => .drain id m.thread :: m.stack
    | base => base

/-- A stack that has a drain is cut right above it. -/
lemma dropWhile_isDrain {id t : Nat} {fs : List (Frame H σ ε)} (mem : .drain id t ∈ fs) :
    ∃ gs rest, fs.dropWhile (!·.isDrain id t) = .drain id t :: rest ∧
      fs = gs ++ .drain id t :: rest := by
  induction fs with
  | nil => cases mem
  | cons f fs ih =>
    rw [List.dropWhile_cons]
    cases drains : f.isDrain id t with
    | true =>
      cases f with
      | drain d u =>
        obtain ⟨rfl, rfl⟩ := of_decide_eq_true drains
        exact ⟨[], fs, rfl, rfl⟩
      | _ => cases drains
    | false =>
      obtain rfl | mem := List.mem_cons.1 mem
      · simp [Frame.isDrain] at drains
      · obtain ⟨gs, rest, dropped, rfl⟩ := ih mem
        exact ⟨f :: gs, rest, dropped, rfl⟩

/-- Below a post on a thread that drains is that drain. -/
lemma below_of_drain_mem {id : Nat} (drained : .drain id m.thread ∈ m.stack) :
    ∃ gs rest, m.below (.queued id) = .drain id m.thread :: rest ∧
      m.stack = gs ++ m.below (.queued id) := by
  obtain ⟨gs, rest, dropped, whole⟩ := dropWhile_isDrain drained
  have drain : m.below (.queued id) = .drain id m.thread :: rest := by
    rw [below, dropped]
  exact ⟨gs, rest, drain, by rw [drain, whole]⟩

/-- Below a post on a thread that does not drain is a new one. -/
lemma below_of_not_mem {id : Nat} (undrained : .drain id m.thread ∉ m.stack) :
    m.below (.queued id) = .drain id m.thread :: m.stack := by
  have dropped : m.stack.dropWhile (!·.isDrain id m.thread) = [] := by
    rw [List.dropWhile_eq_nil_iff]
    intro f mem
    cases f with
    | drain d u =>
      rw [Bool.not_eq_true', Frame.isDrain, decide_eq_false_iff_not]
      rintro ⟨rfl, rfl⟩
      exact undrained mem
    | _ => rfl
  rw [below, dropped]

/-- What becomes of an event that is dispatched to subscribers: it is delivered at once, opens a
queue, or waits in the queue that is being drained. Nothing else is delivered or waits that did not
do so before. -/
inductive Sent (order : DispatchOrder) (m : Machine H σ ε) (e : Event) (xs : List (Subscriber H))
    (m' : Machine H σ ε) : Prop where
  | atOnce (immediate : order = .immediate)
      (stack : m'.stack = .deliveries .immediate m.thread e xs :: m.stack)
      (queues : m'.state.queues = m.state.queues)
  | opens {id} (queued : order = .queued id) (undrained : .drain id m.thread ∉ m.stack)
      (thread : m'.thread = m.thread) (stack : m'.stack = .drain id m.thread :: m.stack)
      (queues : m'.state.queues = m.state.queues.set (id, m.thread) ⟨[⟨e, xs⟩], true⟩)
  | waits {id q} (queued : order = .queued id) (drained : .drain id m.thread ∈ m.stack)
      (thread : m'.thread = m.thread) (stack : m'.stack = m.stack)
      (found : m.state.queues.get? (id, m.thread) = some ⟨q, true⟩)
      (queues : m'.state.queues = m.state.queues.set (id, m.thread) ⟨q ++ [⟨e, xs⟩], true⟩)

/-- A dispatch sends the arranged list by one frame or one pending entry. -/
lemma sent_dispatch (wf : WellFormed m) {s : State H σ ε} (queues : s.queues = m.state.queues)
    {d : Dispatcher} {e : Event} {xs ys : List (Subscriber H)}
    (arranged : d.arrangement.apply xs = some ys) : Sent d.order m e ys (m.dispatch s d e xs) := by
  have sighted := (s.calm_sight m.thread d e xs).queues.trans queues
  simp only [dispatch, arranged]
  generalize emitted : (s.sight m.thread d e xs).emit (.dispatched m.thread d.order e ys) = s'
  have queues : s'.queues = m.state.queues := by
    rw [← emitted]
    exact sighted
  cases order : d.order with
  | immediate => exact .atOnce rfl rfl queues
  | queued id =>
    by_cases drained : .drain id m.thread ∈ m.stack
    · obtain ⟨q, found⟩ := wf.open_of_mem drained
      simp only [drive, s'.enqueue_of_draining (queues ▸ found)]
      exact .waits rfl drained rfl rfl found (by rw [← queues]; rfl)
    · have none := wf.none_of_not_mem drained
      rw [← queues] at none
      simp only [drive, s'.enqueue_of_idle (.inl ⟨none, rfl⟩)]
      exact .opens rfl drained rfl rfl (by rw [← queues]; rfl)

namespace Sent

variable {order : DispatchOrder} {e : Event} {xs : List (Subscriber H)}

/-- An event that was just dispatched stands above the frames that it was to stand above. -/
lemma stands (sent : Sent order m e xs m') (wf : WellFormed m) :
    Stands order m.thread e xs (m.below order) m' (.first m order) := by
  cases sent with
  | atOnce immediate stack _ =>
    subst immediate
    have stack' : m'.stack = [] ++ .deliveries .immediate m.thread e xs :: m.below .immediate := by
      rw [below, stack]
      rfl
    exact .underway (List.nil_append _) stack'
  | @opens id queued undrained thread stack queues =>
    subst queued
    have drain := below_of_not_mem undrained
    rw [Stage.first, waiting_of_none (wf.none_of_not_mem undrained)]
    have stack' : m'.stack = [] ++ m.below (.queued id) := by
      rw [drain, stack]
      rfl
    have waits : m'.state.waiting (id, m.thread) = [] ++ ⟨e, xs⟩ :: [] :=
      (waiting_set queues _).trans (if_pos rfl)
    exact .waiting rfl drain stack' waits
  | @waits id q queued drained thread stack found queues =>
    subst queued
    obtain ⟨gs, rest, drain, whole⟩ := below_of_drain_mem drained
    have waits : m'.state.waiting (id, m.thread) = q ++ ⟨e, xs⟩ :: [] :=
      (waiting_set queues _).trans (if_pos rfl)
    rw [Stage.first, waiting_of_get? found]
    exact .waiting rfl drain (stack.trans whole) waits

/-- A dispatch adds its submissions to what is outstanding, each of them once. -/
lemma outstanding_eq (sent : Sent order m e xs m') (wf : WellFormed m) :
    m'.outstanding = m.outstanding + Pending.submissions order m.thread ⟨e, xs⟩ := by
  cases sent with
  | atOnce immediate stack queues =>
    subst immediate
    exact outstanding_atOnce stack queues
  | opens queued undrained _ stack queues =>
    subst queued
    exact outstanding_opens stack undrained queues
  | waits queued _ _ stack found queues =>
    subst queued
    exact wf.outstanding_waits stack found queues

/-- In the course of a run, an event that was dispatched is submitted as far as it has come, and all
that is submitted besides was outstanding before or has been called for since. -/
lemma others (sent : Sent order m e xs m') (wf : WellFormed m) (reach : Reachable p m') (n : Nat) :
    ∃ others, submissionsIn ((after p m' n).state.since m'.state) =
        (stageAfter p (m.below order).length m' (.first m order) n).made + others ∧
      others ≤ m.outstanding + calledFor ((after p m' n).state.since m'.state) := by
  have stands := sent.stands wf
  have counts := stands.counts reach n
  exact counts.others (Stage.first_made m order) (Stage.first_left m order _)
    (sent.outstanding_eq wf) (stands.after reach n).left_le

end Sent

/-- What a bus passes on of an event that is posted on it: the event itself, or a dead event around
it where nobody listens to it, with the subscribers that are listed at the time. -/
inductive Passes (h : Hierarchy) (b : Bus H) (e : Event) : Event → List (Subscriber H) → Prop where
  | heard (some : b.registry.resolve h e.type ≠ []) :
    Passes h b e e (b.registry.resolve h e.type)
  | mourned (none : b.registry.resolve h e.type = []) (alive : e.type ≠ .deadEvent)
      (some : b.registry.resolve h .deadEvent ≠ []) :
    Passes h b e (.dead b.handle e e.type) (b.registry.resolve h .deadEvent)

/-- So does the post that decides on it. -/
lemma Course.sent {bus : Nat} {b : Bus H} {e e' : Event} {xs ys : List (Subscriber H)}
    (course : Course m bus b e m') (wf : WellFormed m)
    (passes : Passes m.state.hierarchy b e e' xs)
    (arranged : b.dispatcher.arrangement.apply xs = some ys) :
    Sent b.dispatcher.order m e' ys m' := by
  cases course with
  | heard listed some =>
    cases passes with
    | heard _ =>
      subst listed
      have queues : ((m.state.resolve b e.type).1.emit (.routed b.handle e
          (b.registry.resolve m.state.hierarchy e.type))).queues = m.state.queues :=
        (m.state.calm_resolve b e.type).queues
      exact sent_dispatch wf queues arranged
    | mourned none _ _ => exact absurd (listed.symm.trans none) some
  | dropped none dead =>
    cases passes with
    | heard some => exact absurd none some
    | mourned _ alive _ => exact absurd dead alive
  | mourned none _ listed _ =>
    cases passes with
    | heard some => exact absurd none some
    | mourned _ _ _ =>
      subst listed
      have queues : ((m.state.mourned b bus e).emit (.routed b.handle (.dead b.handle e e.type)
          (b.registry.resolve m.state.hierarchy .deadEvent))).queues = m.state.queues :=
        mourned_queues m.state b bus e
      exact sent_dispatch wf queues arranged
  | forgotten none _ none' =>
    cases passes with
    | heard some => exact absurd none some
    | mourned _ _ some => exact absurd none' some

/-- Of an event that nobody listens to, not even as a dead event, nothing becomes outstanding. -/
lemma Course.outstanding_of_none {bus : Nat} {b : Bus H} {e : Event} (course : Course m bus b e m')
    (none : ∀ e' xs, ¬Passes m.state.hierarchy b e e' xs) : m'.outstanding = m.outstanding := by
  cases course with
  | heard listed some =>
    subst listed
    exact absurd (.heard some) (none _ _)
  | mourned none' alive listed some =>
    subst listed
    exact absurd (.mourned none' alive some) (none _ _)
  | dropped =>
    exact State.outstanding_of_queues (m.state.calm_resolve b e.type).queues m.stack
  | forgotten =>
    exact State.outstanding_of_queues (mourned_queues m.state b bus e) m.stack

/-- A post submits nothing itself, so that all is accounted for that is submitted since. -/
lemma posted_others {order : DispatchOrder} {bus : Nat} {e e' : Event} {xs : List (Subscriber H)}
    {next : Script H σ ε} {elsewhere : Bool}
    (sent : Sent order (m.putAside next elsewhere) e' xs ((m.putAside next elsewhere).post bus e))
    (wf : WellFormed m) (reach : Reachable p ((m.putAside next elsewhere).post bus e)) (n : Nat) :
    let m₁ := (m.putAside next elsewhere).post bus e
    ∃ others, submissionsIn ((after p m₁ n).state.since m.state) =
        (stageAfter p ((m.putAside next elsewhere).below order).length m₁
          (.first (m.putAside next elsewhere) order) n).made + others ∧
      others ≤ m.outstanding + calledFor ((after p m₁ n).state.since m₁.state) := by
  intro m₁
  have wf₀ := wf.putAside next elsewhere
  obtain ⟨_, traffic, _, _⟩ := (sent.stands wf₀).counts reach n
  obtain ⟨_, posted, quiet, _⟩ :=
    (routed_post (m.putAside next elsewhere) bus e).outstanding_eq wf₀
  have aside := (posting_putAside m next elsewhere).calm.traffic
  have silent : submissionsIn ((after p m₁ n).state.since m.state) =
      submissionsIn ((after p m₁ n).state.since m₁.state) := by
    rw [traffic.submissionsIn_since, ((aside.trans posted).trans traffic).submissionsIn_since,
      submissionsIn_append, submissionsIn_append, quiet]
    exact zero_add _
  rw [silent, ← (posting_putAside m next elsewhere).outstanding_eq]
  exact sent.others wf₀ reach n

/-- In every run, an event that is posted on a bus with a queued or an immediate dispatcher is
submitted to the subscribers that are listed for it when it is posted, in that order and to each of
them once, whatever is registered and unregistered before it is delivered and however many events
come first. The post adds these submissions to what is outstanding, and no others. What has been
submitted of them at any time is a part of the list from its beginning; it is the whole list when the
deliveries are over, and they are over when the run has ended, unless a panic got to them or to the
drain that the event was waiting for. Whatever is submitted besides was outstanding before the post,
or is due to a dispatch after it. An event that nobody listens to is not submitted; the same is true
of the dead event that takes its place. -/
theorem post_delivers_snapshot (reach : Reachable p m) {bus : Nat} {e : Event} {elsewhere : Bool}
    {next : Script H σ ε} {b : Bus H} (control : m.control = .run (.post bus e elsewhere next))
    (found : m.state.buses.get? bus = some b) (plain : b.dispatcher.arrangement = .plain) :
    ∃ m₁, step p m = .going m₁ ∧ Course (m.putAside next elsewhere) bus b e m₁ ∧
      ((∀ e' xs, ¬Passes m.state.hierarchy b e e' xs) → m₁.outstanding = m.outstanding) ∧
      ∀ e' xs, Passes m.state.hierarchy b e e' xs →
        let m₀ := m.putAside next elsewhere
        let order := b.dispatcher.order
        let base := m₀.below order
        let listed : List (Occurrence H ε) := xs.map (.submitted m₀.thread order e')
        let stage := stageAfter p base.length m₁ (.first m₀ order)
        (xs.map (·.subscription)).Nodup ∧
        Sent order m₀ e' xs m₁ ∧ m₁.outstanding = m.outstanding + .ofList listed ∧
        (∀ n, Stands order m₀.thread e' xs base (after p m₁ n) (stage n)) ∧
        (∀ n, (stage n).made <+: listed) ∧
        (∀ n made, stage n = .complete made → made = listed) ∧
        (∀ n made, stage n = .lost made → ∃ i < n, ∃ payload,
          (after p m₁ i).control = .unwind payload ∧
            (after p m₁ i).stack.length ≤ base.length + 1) ∧
        (∀ n s ending, step p (after p m₁ n) = .ended s ending →
          ∃ made, stage n = .complete made ∨ stage n = .lost made) ∧
        ∀ n, ∃ others,
          submissionsIn ((after p m₁ n).state.since m.state) = (stage n).made + others ∧
          others ≤ m.outstanding + calledFor ((after p m₁ n).state.since m₁.state) := by
  have st := step_posted (p := p) control
  have course := post_course (m := m.putAside next elsewhere) (by rwa [putAside_buses]) e
  have same := (posting_putAside m next elsewhere).outstanding_eq
  refine ⟨_, st, course, ?_, ?_⟩
  · intro none
    rw [← putAside_hierarchy m next elsewhere] at none
    exact (course.outstanding_of_none none).trans same
  intro e' xs passes m₀ order base listed stage
  have wf : WellFormed m₀ := reach.wellFormed.putAside next elsewhere
  have arranged : b.dispatcher.arrangement.apply xs = some xs := by rw [plain, Arrangement.apply]
  have sent := course.sent wf (putAside_hierarchy m next elsewhere ▸ passes) arranged
  have reach₁ := reach.step st
  have stands := (sent.stands wf).after reach₁
  refine ⟨?_, sent, ?_, stands, fun n => (stands n).made_begins, ?_, ?_, ?_, ?_⟩
  · have orderly := (reach.registry found).orderly
    cases passes with
    | heard => exact orderly.resolve_nodup ..
    | mourned => exact orderly.resolve_nodup ..
  · rw [← same]
    exact sent.outstanding_eq wf
  · intro n made complete
    have all := stands n
    rw [show stageAfter p _ _ _ n = _ from complete] at all
    exact all.made_of_complete
  · intro n made lost
    exact lost_of_stageAfter n (Stage.first_ne_lost order made) lost
  · intro n s ending ended
    exact (stands n).of_stack_nil (stack_of_ended ended).1
  · exact posted_others sent reach.wellFormed reach₁

namespace Fickle

def outer : Event := .free ⟨"Outer"⟩ "Outer" "outer" [] []

def note : Event := .free ⟨"Note"⟩ "Note" "note" [] []

def listener (id : Nat) : Target := ⟨id, "Listener", "listener"⟩

def on (type : EventType) (code : Nat) : List (Binding Nat) :=
  [⟨"on_event", type, .whole, true, none, code⟩]

/-- Puts another listener to notes in the place of the first. -/
def replaces : Script Nat Unit Unit :=
  .unregister 1 (listener 2) (on ⟨"Note"⟩ 1) fun _ =>
  .register 1 (listener 3) (on ⟨"Note"⟩ 1) fun _ => .finish (.ok ())

/-- A handler posts a note, and then replaces the one who listens to it. -/
def program : Program Nat Unit Unit where
  handle
    | 0, _ => .post 1 note false replaces
    | _, _ => .finish (.ok ())
  report _ _ _ := .finish (.ok ())

def script : Script Nat Unit Unit :=
  .build ⟨"bus", .direct, .plain (.queued 0), .log⟩ fun b =>
  .register b.id (listener 1) (on ⟨"Outer"⟩ 0) fun _ =>
  .register b.id (listener 2) (on ⟨"Note"⟩ 1) fun _ =>
  .post b.id outer false (.finish (.ok ()))

def machine (n : Nat) : Machine Nat Unit Unit :=
  after program (start (.initial .empty ()) script) n

/-- The listeners to notes. -/
def listeners (m : Machine Nat Unit Unit) : List Nat :=
  match m.state.buses.get? 1 with
  | some b => (b.registry.resolve m.state.hierarchy note.type).map (·.target.id)
  | none => []

/-- The machine at the post of the note, with what the handler goes on with put aside. -/
def aside : Machine Nat Unit Unit := (machine 6).putAside replaces false

end Fickle

/-- The note reaches the listener that was listed when it was posted, although another one is listed
by the time that it is delivered; and nothing else is submitted. -/
theorem fickle_delivers_snapshot :
    Fickle.listeners (Fickle.machine 6) = [2] ∧ Fickle.listeners (Fickle.machine 10) = [3] ∧
    ∃ m₁ x, step Fickle.program (Fickle.machine 6) = .going m₁ ∧ x.target = Fickle.listener 2 ∧
      stageAfter Fickle.program (Fickle.aside.below (.queued 0)).length m₁ (.waiting 0) 9 =
        .complete [.submitted mainThread (.queued 0) Fickle.note x] ∧
      submissionsIn ((after Fickle.program m₁ 9).state.since (Fickle.machine 6).state) =
        {.submitted mainThread (.queued 0) Fickle.note x} := by
  have reach : Reachable Fickle.program (Fickle.machine 6) := Reachable.after (.first ..) 6
  have control : (Fickle.machine 6).control = .run (.post 1 Fickle.note false Fickle.replaces) := by
    cbv
  obtain ⟨b, x, found, dispatcher, listed, target⟩ : ∃ b x,
      (Fickle.machine 6).state.buses.get? 1 = some b ∧ b.dispatcher = .plain (.queued 0) ∧
      b.registry.resolve (Fickle.machine 6).state.hierarchy Fickle.note.type = [x] ∧
      x.target = Fickle.listener 2 := ⟨_, _, by cbv, by cbv, by cbv, by cbv⟩
  obtain ⟨m₁, st, _, _, delivers⟩ :=
    post_delivers_snapshot reach control found (by rw [dispatcher]; rfl)
  have same : m₁ = Fickle.machine 7 := by
    rw [Fickle.machine, after]
    rw [Fickle.machine] at st
    rw [st]
  have passes := Passes.heard (e := Fickle.note) (by rw [listed]; exact List.cons_ne_nil x [])
  obtain ⟨_, _, _, _, _, complete, _, _, account⟩ := delivers _ _ passes
  have order : b.dispatcher.order = .queued 0 := by
    rw [dispatcher]
    rfl
  rw [order, listed] at complete
  rw [order] at account
  obtain ⟨made, done⟩ : ∃ made, stageAfter Fickle.program (Fickle.aside.below (.queued 0)).length
      (Fickle.machine 7) (.waiting 0) 9 = .complete made := ⟨_, by cbv⟩
  have first : Stage.first Fickle.aside (.queued 0) = .waiting 0 := by cbv
  have thread : Fickle.aside.thread = mainThread := by cbv
  subst same
  have made_eq := complete 9 made (by rw [← done, ← first]; rfl)
  rw [show ((Fickle.machine 6).putAside Fickle.replaces false).thread = mainThread from thread]
    at made_eq
  obtain ⟨others, all, few⟩ := account 9
  -- Nothing was outstanding, and nothing else is dispatched.
  have owed : (Fickle.machine 6).outstanding = 0 := by cbv
  have called : calledFor ((after Fickle.program (Fickle.machine 7) 9).state.since
      (Fickle.machine 7).state) = 0 := by cbv
  rw [owed, called] at few
  obtain rfl := Multiset.le_zero.1 few
  refine ⟨by cbv, by cbv, Fickle.machine 7, x, st, target, ?_, ?_⟩
  · rw [done, made_eq]
    rfl
  · rw [all, show stageAfter _ _ _ (.first _ _) 9 = _ by rw [← Fickle.aside, first, done],
      Stage.made, made_eq]
    rfl

end Machine

end EventBus
