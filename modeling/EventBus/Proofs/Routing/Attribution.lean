import EventBus.Proofs.Failure.Report
import EventBus.Proofs.Routing.Snapshot
import EventBus.Proofs.Routing.Turnover

/-!
# References to buses

A reference to a bus goes a long way: it is kept in a dead event, which may be posted again on
another bus, and it is captured by the subscribers of the bus, from where it gets into the reports
of errors. What is `Underway` in a machine after a step was so before, or the step has sent it
(`Turn.underway`); so every delivery of a run goes back to a post (`Later.sent`).
`references_tell_buses` draws the conclusion: a reference stands for the bus that it stems from, and
dead events and reports name the bus on which the event was posted.
-/

namespace EventBus

variable {H σ ε : Type}

/-- The deliveries that a frame is about to make, or is making. -/
def Frame.charges : Frame H σ ε → List (Event × Subscriber H)
  | deliveries _ _ e xs => xs.map fun x => (e, x)
  | handling e x => [(e, x)]
  | _ => []

namespace State

/-- A reference stems from the bus with a number: it is a copy of the handle of that bus. -/
def Stems (s : State H σ ε) (r : BusRef) (k : Nat) : Prop :=
  ∃ b, s.buses.get? k = some b ∧ b.handle = r

/-- A delivery waits in a queue, or has been put off. -/
inductive Awaits (s : State H σ ε) (e : Event) (x : Subscriber H) : Prop where
  | queued {key q xs} (found : s.queues.get? key = some q) (mem : ⟨e, xs⟩ ∈ q.waiting)
      (listed : x ∈ xs)
  | deferred (mem : ⟨x, e⟩ ∈ s.backlog)
  | handedOff (mem : ⟨x, e⟩ ∈ s.pool)

namespace Awaits

variable {s s' : State H σ ε} {e : Event} {x : Subscriber H}

/-- Where the queues are the same, what waits in them is. -/
lemma of_queues (h : s'.Awaits e x) (queues : s'.queues = s.queues) :
    s.Awaits e x ∨ ⟨x, e⟩ ∈ s'.backlog ∨ ⟨x, e⟩ ∈ s'.pool := by
  cases h with
  | queued found mem listed =>
    rw [queues] at found
    exact .inl (.queued found mem listed)
  | deferred mem => exact .inr (.inl mem)
  | handedOff mem => exact .inr (.inr mem)

/-- A state with the same queues, backlog and pool makes nobody wait who did not. -/
lemma of_eq (h : s'.Awaits e x) (queues : s'.queues = s.queues) (backlog : s'.backlog = s.backlog)
    (pool : s'.pool = s.pool) : s.Awaits e x := by
  obtain awaits | mem | mem := h.of_queues queues
  · exact awaits
  · rw [backlog] at mem
    exact .deferred mem
  · rw [pool] at mem
    exact .handedOff mem

/-- Nor does an occurrence that is told of. -/
lemma of_emit {o : Occurrence H ε} (h : (s.emit o).Awaits e x) : s.Awaits e x :=
  h.of_eq rfl rfl rfl

/-- Nor does the end of a call. -/
lemma of_leave {y : Subscriber H} (h : (s.leave y).Awaits e x) : s.Awaits e x := by
  obtain ⟨locks, same⟩ := s.leave_state y
  rw [same] at h
  exact h.of_eq rfl rfl rfl

/-- Nor does its beginning. -/
lemma of_enter {t : Nat} {y : Subscriber H} (h : (s.enter t y).Awaits e x) : s.Awaits e x := by
  obtain ⟨locks, same⟩ := s.enter_state t y
  rw [same] at h
  exact h.of_eq rfl rfl rfl

/-- Nor does giving up a queue. -/
lemma of_closeQueue {key : Nat × Nat} (h : (s.closeQueue key).Awaits e x) : s.Awaits e x := by
  have closed : ({ s with queues := s.queues.erase key } : State H σ ε).Awaits e x := by
    unfold State.closeQueue at h
    dsimp only at h
    split at h
    · exact h.of_eq rfl rfl rfl
    · exact h
  cases closed with
  | queued found mem listed =>
    rw [Table.get?_erase] at found
    split at found
    · cases found
    · exact .queued found mem listed
  | deferred mem => exact .deferred mem
  | handedOff mem => exact .handedOff mem

/-- To take a dispatch from a queue makes nobody wait. -/
lemma of_dequeue {key : Nat × Nat} {next : Pending H} (dequeued : s.dequeue key = some (s', next))
    (h : s'.Awaits e x) : s.Awaits e x := by
  obtain ⟨q, draining, found, rfl⟩ := Machine.dequeue_eq_some dequeued
  cases h with
  | queued found' mem listed =>
    rw [Table.get?_set] at found'
    split at found'
    · cases found'
      exact .queued found (List.mem_cons_of_mem _ mem) listed
    · exact .queued found' mem listed
  | deferred mem => exact .deferred mem
  | handedOff mem => exact .handedOff mem

/-- Whoever is listed in the dispatch that was fetched was waiting in the queue. -/
lemma of_fetched {key : Nat × Nat} {next : Pending H} (dequeued : s.dequeue key = some (s', next))
    (listed : x ∈ next.subscribers) : s.Awaits next.event x := by
  obtain ⟨q, draining, found, _⟩ := Machine.dequeue_eq_some dequeued
  exact .queued found List.mem_cons_self listed

end Awaits

end State

namespace Machine

/-- The delivery of an event to a subscriber remains to be made, or is being made. -/
inductive Underway (m : Machine H σ ε) (e : Event) (x : Subscriber H) : Prop where
  | charged {f} (mem : f ∈ m.stack) (charge : (e, x) ∈ f.charges)
  | awaited (awaits : m.state.Awaits e x)

/-- The machine is about to post an event on the bus `b`, which has the number `k` and passes `e` on
to `x`. -/
inductive Sends (m : Machine H σ ε) (k : Nat) (b : Bus H) (e : Event) (x : Subscriber H) :
    Prop where
  | posts {e₀ elsewhere next xs ys} (control : m.control = .run (.post k e₀ elsewhere next))
      (found : m.state.buses.get? k = some b) (passes : Passes m.state.hierarchy b e₀ e xs)
      (arranged : b.dispatcher.arrangement.apply xs = some ys) (listed : x ∈ ys)

variable {p : Program H σ ε} {m m' m₀ n : Machine H σ ε} {e : Event} {x : Subscriber H}
  {base : List (Frame H σ ε)}

namespace Underway

/-- The deliveries on top of the stack are underway. -/
lemma of_delivered {order : DispatchOrder} {t : Nat} {xs : List (Subscriber H)}
    (stack : m.stack = .deliveries order t e (x :: xs) :: base) : m.Underway e x := by
  have top : .deliveries order t e (x :: xs) ∈ m.stack := by
    rw [stack]
    exact List.mem_cons_self
  exact .charged top List.mem_cons_self

/-- Nothing gets under way where the frames that are new on the stack have nothing new to deliver,
and nothing new waits. -/
lemma back {fs : List (Frame H σ ε)} (h : m'.Underway e x) (stack' : m'.stack = fs ++ base)
    (sub : ∀ f ∈ base, f ∈ m.stack) (fresh : ∀ f ∈ fs, (e, x) ∈ f.charges → m.Underway e x)
    (waits : m'.state.Awaits e x → m.Underway e x) : m.Underway e x := by
  cases h with
  | charged mem charge =>
    rw [stack'] at mem
    obtain mem | mem := List.mem_append.1 mem
    · exact fresh _ mem charge
    · exact .charged (sub _ mem) charge
  | awaited awaits => exact waits awaits

/-- With the same stack, a delivery that is underway after was underway before if it waited before.
-/
lemma stay (h : m'.Underway e x) (stack' : m'.stack = m.stack)
    (waits : m'.state.Awaits e x → m.state.Awaits e x) : m.Underway e x :=
  h.back (stack'.trans (List.nil_append _).symm) (fun _ => id) (List.forall_mem_nil _)
    fun awaits => .awaited (waits awaits)

/-- A frame that delivers nothing may be put on the stack. -/
lemma push {f : Frame H σ ε} (h : m'.Underway e x) (stack' : m'.stack = f :: m.stack)
    (none : f.charges = []) (waits : m'.state.Awaits e x → m.state.Awaits e x) :
    m.Underway e x := by
  apply h.back (stack'.trans List.singleton_append.symm) (fun _ => id)
  · rw [List.forall_mem_singleton, none]
    exact fun charge => absurd charge List.not_mem_nil
  · exact fun awaits => .awaited (waits awaits)

/-- So it is where a frame was popped. -/
lemma pop {f : Frame H σ ε} (h : m'.Underway e x) (stack : m.stack = f :: base)
    (stack' : m'.stack = base) (waits : m'.state.Awaits e x → m.state.Awaits e x) :
    m.Underway e x := by
  apply h.back (stack'.trans (List.nil_append _).symm)
  · intro g mem
    rw [stack]
    exact List.mem_cons_of_mem _ mem
  · exact List.forall_mem_nil _
  · exact fun awaits => .awaited (waits awaits)

/-- The top of the stack may be replaced by frames that deliver what it does. -/
lemma swap {f : Frame H σ ε} (h : m'.Underway e x) (fs : List (Frame H σ ε))
    (stack : m.stack = f :: base) (stack' : m'.stack = fs ++ base)
    (sub : ∀ g ∈ fs, g.charges ⊆ f.charges) (waits : m'.state.Awaits e x → m.Underway e x) :
    m.Underway e x := by
  apply h.back stack'
  · intro g mem
    rw [stack]
    exact List.mem_cons_of_mem _ mem
  · intro g mem charge
    refine .charged ?_ (sub g mem charge)
    rw [stack]
    exact List.mem_cons_self
  · exact waits

/-- With a call the delivery that is made gets under way, and nothing else. -/
lemma inside {s : State H σ ε} {e' : Event} {y : Subscriber H}
    (h : (m.inside p s e' y).Underway e x) :
    ({ m with state := s } : Machine H σ ε).Underway e x ∨ e = e' ∧ x = y := by
  cases h with
  | charged mem charge =>
    obtain rfl | mem := List.mem_cons.1 mem
    · cases List.mem_singleton.1 charge
      exact .inr ⟨rfl, rfl⟩
    · exact .inl (.charged mem charge)
  | awaited awaits =>
    have entered : (s.enter m.thread y).Awaits e x := awaits.of_emit
    exact .inl (.awaited entered.of_enter)

end Underway

/-- What gets under way with a post has been dispatched. -/
lemma Routed.underway (routed : Routed m m') (backlog : m'.state.backlog = m.state.backlog)
    (pool : m'.state.pool = m.state.pool) (h : m'.Underway e x) :
    m.Underway e x ∨
      ∃ t order xs, .dispatched t order e xs ∈ m'.state.since m.state ∧ x ∈ xs := by
  have kept (queues : m'.state.queues = m.state.queues) (awaits : m'.state.Awaits e x) :
      m.Underway e x := .awaited (awaits.of_eq queues backlog pool)
  -- The only queue that grows gets one event, at its end.
  have grown {id : Nat} {e' : Event} {q : List (Pending H)} {ys : List (Subscriber H)}
      (queues : m'.state.queues = m.state.queues.set (id, m.thread) ⟨q ++ [⟨e', ys⟩], true⟩)
      (old : q = [] ∨ ∃ draining, m.state.queues.get? (id, m.thread) = some ⟨q, draining⟩)
      (traffic : m.state.Traffic m'.state [.dispatched m.thread (.queued id) e' ys])
      (awaits : m'.state.Awaits e x) :
      m.Underway e x ∨
        ∃ t order xs, .dispatched t order e xs ∈ m'.state.since m.state ∧ x ∈ xs := by
    cases awaits with
    | queued found mem listed =>
      rw [queues, Table.get?_set] at found
      split at found
      · cases found
        obtain mem | mem := List.mem_append.1 mem
        · obtain rfl | ⟨draining, found⟩ := old
          · cases mem
          · exact .inl (.awaited (.queued found mem listed))
        · cases List.mem_singleton.1 mem
          exact .inr ⟨_, _, ys, (traffic.mem_since rfl).2 List.mem_cons_self, listed⟩
      · exact .inl (.awaited (.queued found mem listed))
    | deferred mem => exact .inl (.awaited (.deferred (backlog ▸ mem)))
    | handedOff mem => exact .inl (.awaited (.handedOff (pool ▸ mem)))
  cases routed with
  | silent stack calm => exact .inl (h.back (stack.trans (List.nil_append _).symm) (fun _ => id)
      (List.forall_mem_nil _) (kept calm.queues))
  | @immediate e' ys stack queues _ traffic =>
    cases h with
    | charged mem charge =>
      rw [stack] at mem
      obtain rfl | mem := List.mem_cons.1 mem
      · obtain ⟨y, listed, same⟩ := List.mem_map.1 charge
        cases same
        exact .inr ⟨_, _, ys, (traffic.mem_since rfl).2 List.mem_cons_self, listed⟩
      · exact .inl (.charged mem charge)
    | awaited awaits => exact .inl (kept queues awaits)
  | waits stack drained queues _ traffic =>
    cases h with
    | charged mem charge => exact .inl (.charged (stack ▸ mem) charge)
    | awaited awaits => exact grown queues (.inr ⟨_, drained⟩) traffic awaits
  | opens stack idle queues _ traffic =>
    cases h with
    | charged mem charge =>
      rw [stack] at mem
      obtain rfl | mem := List.mem_cons.1 mem
      · cases charge
      · exact .inl (.charged mem charge)
    | awaited awaits =>
      obtain ⟨_, first⟩ | waiting := idle
      · exact grown queues (.inl first) traffic awaits
      · exact grown queues (.inr ⟨_, waiting⟩) traffic awaits

section Post

variable {b : Bus H} {h : Hierarchy} {t : Nat} {os : List (Occurrence H ε)}

/-- What is routed in a post is what the bus passes on. -/
lemma Fate.of_routed {r : BusRef} {e' : Event} {xs : List (Subscriber H)} (fate : Fate h b t e os)
    (mem : .routed r e' xs ∈ os) : r = b.handle ∧ Passes h b e e' xs := by
  cases fate with
  | heard listed some =>
    subst listed
    simp only [List.mem_cons, Dispatcher.mem_passesOn, reduceCtorEq, and_false, exists_false,
      or_false, false_or] at mem
    cases mem
    exact ⟨rfl, .heard some⟩
  | dropped => simp at mem
  | mourned none alive listed some =>
    subst listed
    simp only [List.mem_cons, Dispatcher.mem_passesOn, reduceCtorEq, and_false, exists_false,
      or_false, false_or] at mem
    cases mem
    exact ⟨rfl, .mourned none alive some⟩
  | forgotten => simp at mem

/-- What is dropped in a post is a dead event, the one that was posted or a new one. -/
lemma Fate.of_dropped {r : BusRef} {e' : Event} (fate : Fate h b t e os)
    (mem : .dropped r e' ∈ os) :
    e' = e ∧ e.type = .deadEvent ∨ e' = .dead b.handle e e.type := by
  cases fate with
  | heard => simp [Dispatcher.mem_passesOn] at mem
  | dropped none dead =>
    simp only [List.mem_cons, List.not_mem_nil, reduceCtorEq, or_false, false_or] at mem
    cases mem
    exact .inl ⟨rfl, dead⟩
  | mourned => simp [Dispatcher.mem_passesOn] at mem
  | forgotten none alive _ =>
    simp only [List.mem_cons, List.not_mem_nil, reduceCtorEq, or_false, false_or] at mem
    cases mem
    exact .inr rfl

/-- What is dispatched in a post is what the arrangement of the dispatcher makes of it. -/
lemma Fate.of_dispatched {u : Nat} {order : DispatchOrder} {e' : Event} {ys : List (Subscriber H)}
    (fate : Fate h b t e os) (mem : .dispatched u order e' ys ∈ os) :
    ∃ xs, Passes h b e e' xs ∧ b.dispatcher.arrangement.apply xs = some ys := by
  cases fate with
  | heard listed some =>
    subst listed
    simp only [List.mem_cons, Dispatcher.mem_passesOn, reduceCtorEq, false_or] at mem
    obtain ⟨zs, arranged, same⟩ := mem
    cases same
    exact ⟨_, .heard some, arranged⟩
  | dropped => simp at mem
  | mourned none alive listed some =>
    subst listed
    simp only [List.mem_cons, Dispatcher.mem_passesOn, reduceCtorEq, false_or] at mem
    obtain ⟨zs, arranged, same⟩ := mem
    cases same
    exact ⟨_, .mourned none alive some, arranged⟩
  | forgotten => simp at mem

/-- Whatever a step decides comes of a post or of a failing handler. -/
lemma decision_of_step (st : step p m = .going m') {o : Occurrence H ε}
    (mem : o ∈ m'.state.since m.state) (decision : o.isDecision = true) :
    (∃ k b e₀ elsewhere next os, m.control = .run (.post k e₀ elsewhere next) ∧
      m.state.buses.get? k = some b ∧ m.state.Decides m'.state os ∧
      Fate m.state.hierarchy b (m.putAside next elsewhere).thread e₀ os) ∨
    ∃ failure e x rest, m.Fails failure e x rest ∧
      m' = report p m (m.state.leave x) rest failure e x ∧
      o = .reported failure (x.failureContext e) := by
  cases step_decides st with
  | nothing none => cases (none.mem_since decision).1 mem
  | @posted k e₀ elsewhere next control =>
    left
    cases found : m.state.buses.get? k with
    | none =>
      rw [post_unknown (by rwa [putAside_buses])] at mem
      cases ((m.decides_putAside next elsewhere).mem_since decision).1 mem
    | some b =>
      obtain ⟨os, decides, fate⟩ := posted_fate found e₀ next elsewhere
      exact ⟨k, b, e₀, elsewhere, next, os, control, found, decides, fate⟩
  | @failed failure e x rest fails =>
    right
    have reported := decides_report (p := p) m (decides_leave m.state x) rest failure e x
    have mem := (reported.mem_since decision).1 mem
    exact ⟨failure, e, x, rest, fails, rfl, List.mem_singleton.1 mem⟩

end Post

/-- What is under way after a post was so before, or the post has sent it. -/
lemma underway_post {k : Nat} {e₀ : Event} {elsewhere : Bool} {next : Script H σ ε}
    (control : m.control = .run (.post k e₀ elsewhere next)) (st : step p m = .going m')
    (h : m'.Underway e x) : m.Underway e x ∨ ∃ b, m.Sends k b e x := by
  obtain rfl : (m.putAside next elsewhere).post k e₀ = m' :=
    Progress.going.inj ((step_posted control).symm.trans st)
  obtain ⟨buses, queues, trace, state⟩ := post_state (m.putAside next elsewhere) k e₀
  have routed := routed_post (m.putAside next elsewhere) k e₀
  obtain before | ⟨t, order, ys, mem, listed⟩ :=
    routed.underway (by rw [state]) (by rw [state]) h
  · left
    cases elsewhere with
    | false => exact before.push rfl rfl id
    | true =>
      have aside : ({ m with stack := .resume next :: m.stack } : Machine H σ ε).Underway e x :=
        before.push rfl rfl fun awaits => awaits.of_eq rfl rfl rfl
      exact aside.push rfl rfl id
  · right
    have mem : .dispatched t order e ys ∈
        ((m.putAside next elsewhere).post k e₀).state.since m.state := by
      cases elsewhere <;> exact mem
    obtain ⟨_, b, _, _, _, _, control', found, decides, fate⟩ | ⟨_, _, _, _, _, _, ⟨⟩⟩ :=
      decision_of_step st mem rfl
    cases control.symm.trans control'
    obtain ⟨xs, passes, arranged⟩ := fate.of_dispatched ((decides.mem_since rfl).1 mem)
    exact ⟨b, .posts control found passes arranged listed⟩

/-- What is under way after a turn was so before, or the turn is a post that sends it. -/
theorem Turn.underway (turn : Turn p m m') (h : m'.Underway e x) :
    m.Underway e x ∨ ∃ k b, m.Sends k b e x := by
  cases turn with
  | acts _ acts =>
    obtain ⟨_, backlog, pool⟩ := acts.apart
    exact .inl (h.stay rfl fun awaits => awaits.of_eq acts.calm.queues backlog pool)
  | panics | idles => exact .inl (h.stay rfl id)
  | @posts k _ _ _ control =>
    have sent := underway_post (p := p) control (step_posted control) h
    exact sent.imp_right fun sends => ⟨k, sends⟩
  | runsBacklog => exact .inl (h.push rfl rfl id)
  | delivered _ stack => exact .inl (h.pop stack rfl fun awaits => awaits.of_emit.of_leave)
  | @fails failure e' y rest fails =>
    left
    unfold report at h
    dsimp only at h
    cases policy : y.desk.policy with
    | log =>
      rw [policy] at h
      exact h.pop fails.stack rfl fun awaits => awaits.of_emit.of_emit.of_leave
    | custom code =>
      rw [policy] at h
      exact h.swap [_] fails.stack rfl (by simp [Frame.charges])
        fun awaits => .awaited awaits.of_emit.of_leave
  | @reported result _ _ _ _ stack =>
    cases result with
    | ok _ => exact .inl (h.pop stack rfl id)
    | error _ => exact .inl (h.pop stack rfl fun awaits => awaits.of_emit)
  | resumes _ stack | delivers _ stack | joins stack | ran _ stack | rests _ stack
  | drops _ stack => exact .inl (h.pop stack rfl id)
  | @calls order t e' y ys base _ stack _ =>
    left
    obtain below | ⟨rfl, rfl⟩ := h.inside
    · exact below.swap [_] stack rfl (by simp [Frame.charges])
        fun awaits => .awaited awaits.of_emit
    · exact .of_delivered stack
  | @defers order t e' y ys base _ stack _ =>
    left
    apply h.swap [_] stack rfl (by simp [Frame.charges])
    intro awaits
    obtain awaits | mem | mem := awaits.of_queues (s := m.state) rfl
    · exact .awaited awaits
    · obtain mem | mem := List.mem_append.1 mem
      · exact .awaited (.deferred mem)
      · cases List.mem_singleton.1 mem
        exact .of_delivered stack
    · exact .awaited (.handedOff mem)
  | @handsOff order t e' y ys base _ stack _ =>
    left
    apply h.swap [_] stack rfl (by simp [Frame.charges])
    intro awaits
    obtain awaits | mem | mem := awaits.of_queues (s := m.state) rfl
    · exact .awaited awaits
    · exact .awaited (.deferred mem)
    · obtain mem | mem := List.mem_append.1 mem
      · exact .awaited (.handedOff mem)
      · cases List.mem_singleton.1 mem
        exact .of_delivered stack
  | fetches _ _ dequeued =>
    left
    apply h.back List.singleton_append.symm (fun _ => id)
    · rw [List.forall_mem_singleton]
      intro charge
      obtain ⟨y, listed, same⟩ := List.mem_map.1 charge
      cases same
      exact .awaited (.of_fetched dequeued listed)
    · exact fun awaits => .awaited (awaits.of_dequeue dequeued)
  | takes _ stack taken =>
    left
    obtain ⟨due, fewer, sub, rfl⟩ := takeBacklog_eq_some taken
    obtain below | ⟨rfl, rfl⟩ := h.inside
    · apply below.swap [_] stack rfl (by simp [Frame.charges])
      intro awaits
      obtain awaits | mem | mem := awaits.of_queues (s := m.state) rfl
      · exact .awaited awaits
      · exact .awaited (.deferred (sub _ mem))
      · exact .awaited (.handedOff mem)
    · exact .awaited (.deferred due)
  | pools _ stack taken =>
    left
    obtain ⟨fewer, pool, rfl⟩ := takePool_eq_some taken
    have taken {w : Work H} (mem : w ∈ fewer) : w ∈ m.state.pool := by
      rw [pool]
      exact List.mem_cons_of_mem _ mem
    obtain below | ⟨rfl, rfl⟩ := h.inside
    · apply below.stay (m := m) rfl
      intro awaits
      obtain awaits | mem | mem := awaits.of_queues (s := m.state) rfl
      · exact awaits
      · exact .deferred mem
      · exact .handedOff (taken mem)
    · exact .awaited (.handedOff (by rw [pool]; exact List.mem_cons_self))
  | closes _ stack | breaks _ stack =>
    exact .inl (h.pop stack rfl fun awaits => awaits.of_closeQueue)
  | leaves _ stack => exact .inl (h.pop stack rfl fun awaits => awaits.of_leave)
  | catches _ stack => exact .inl (h.pop stack rfl fun awaits => awaits.of_emit)
  | survives => exact .inl (h.stay rfl fun awaits => awaits.of_emit)

/-- In every run, what is under way has been sent by a post earlier in the run. -/
theorem Later.sent (later : Later p m₀ m) (fresh : ¬m₀.Underway e x) (h : m.Underway e x) :
    ∃ n n' k b, Later p m₀ n ∧ n.Sends k b e x ∧ Machine.step p n = .going n' ∧
      Later p n' m := by
  induction later with
  | refl => exact absurd h fresh
  | step later st ih =>
    obtain before | ⟨k, b, sends⟩ := (step_turn st).underway h
    · obtain ⟨n, n', k, b, before, sends, sent, later⟩ := ih before
      exact ⟨n, n', k, b, before, sends, sent, .step later st⟩
    · exact ⟨_, _, k, b, later, sends, st, .refl⟩
  | next user script _ st ih =>
    obtain ⟨_, rfl⟩ := stack_of_ended st
    cases h with
    | charged mem _ => cases mem
    | awaited awaits =>
      obtain ⟨n, n', k, b, before, sends, sent, later⟩ :=
        ih (.awaited (awaits.of_eq rfl rfl rfl))
      exact ⟨n, n', k, b, before, sends, sent, .next user script later st⟩
  | pool _ st ih =>
    obtain ⟨_, rfl⟩ := stack_of_ended st
    cases h with
    | charged mem charge =>
      cases List.mem_singleton.1 mem
      cases charge
    | awaited awaits =>
      obtain ⟨n, n', k, b, before, sends, sent, later⟩ := ih (.awaited awaits)
      exact ⟨n, n', k, b, before, sends, sent, .pool later st⟩

/-- In a new machine nothing is underway. -/
lemma not_underway_start (hierarchy : Hierarchy) (user : σ) (script : Script H σ ε) :
    ¬(start (.initial hierarchy user) script).Underway e x := by
  intro h
  cases h with
  | charged mem _ => cases mem
  | awaited awaits =>
    cases awaits with
    | queued found _ _ => cases found
    | deferred mem => cases mem
    | handedOff mem => cases mem

/-- A reference stands for the bus with the number `k`, and for no other one that there is in `m` or
will be later. -/
structure Names (p : Program H σ ε) (m : Machine H σ ε) (r : BusRef) (k : Nat) : Prop where
  stems : ∀ n, Later p m n → n.state.Stems r k
  only : ∀ n j b, Later p m n → n.state.buses.get? j = some b → (r.is b = true ↔ j = k)

section Stems

variable {r r' : BusRef} {j k : Nat}

/-- A run keeps every bus under its own number. -/
lemma Reachable.number (reach : Reachable p m) (stems : m.state.Stems r k) : r.id = k := by
  obtain ⟨b, found, rfl⟩ := stems
  exact (reach.lodged.lodging.settled found).number

/-- References are the same where they stem from the same bus, and only there. -/
lemma Reachable.same_iff (reach : Reachable p m) (stems : m.state.Stems r k)
    (stems' : m.state.Stems r' j) : r.same r' = true ↔ k = j := by
  rw [BusRef.same, beq_iff_eq, reach.number stems, reach.number stems']

/-- A bus keeps its handle. -/
lemma Reachable.stems_later (reach : Reachable p m) (stems : m.state.Stems r k)
    (later : Later p m n) : n.state.Stems r k := by
  induction later with
  | refl => exact stems
  | step later st ih =>
    obtain ⟨b, found, rfl⟩ := ih
    obtain ⟨registry, found', _⟩ := (later.reachable reach).turnover st found
    exact ⟨_, found', rfl⟩
  | next user script _ st ih =>
    obtain ⟨_, rfl⟩ := stack_of_ended st
    exact ih
  | pool _ st ih =>
    obtain ⟨_, rfl⟩ := stack_of_ended st
    exact ih

/-- A number names one bus all along a run. -/
lemma Reachable.names (reach : Reachable p m) (stems : m.state.Stems r k) : Names p m r k where
  stems n later := reach.stems_later stems later
  only n j b later found := by
    have same := (later.reachable reach).same_iff (reach.stems_later stems later) ⟨b, found, rfl⟩
    exact same.trans eq_comm

/-- A bus that is built gets a number that no bus has, and its reference is a new one. -/
lemma Reachable.names_build (reach : Reachable p m) {plan : BusPlan H}
    {next : BusRef → Script H σ ε} (control : m.control = .run (.build plan next))
    (st : Machine.step p m = .going m') :
    ∃ r k, m'.control = .run (next r) ∧ Names p m' r k ∧ m.state.buses.get? k = none := by
  have built : m' = { m with state := (build m.state plan).1
                             control := .run (next (build m.state plan).2) } := by
    rw [Machine.step, control] at st
    cases st
    rfl
  refine ⟨(build m.state plan).2, m.state.busCount + 1, by rw [built], ?_, ?_⟩
  · apply (reach.step st).names
    rw [built]
    exact ⟨_, (Table.get?_set ..).trans (if_pos rfl), rfl⟩
  · cases found : m.state.buses.get? (m.state.busCount + 1) with
    | none => rfl
    | some b =>
      have bound := (reach.lodged.lodging.settled found).bound
      omega

/-- Whoever is sent a delivery reports to the bus that it was posted on. -/
lemma Sends.stems {b : Bus H} (sends : m.Sends k b e x) (reach : Reachable p m) :
    m.state.Stems x.desk.bus k := by
  cases sends with
  | @posts e₀ elsewhere next xs ys control found passes arranged listed =>
    obtain ⟨_, _, desk, manned⟩ := reach.lodged.lodging.settled found
    obtain ⟨t, rfl⟩ : ∃ t, b.registry.resolve m.state.hierarchy t = xs := by
      cases passes <;> exact ⟨_, rfl⟩
    have mem := Arrangement.mem_of_apply arranged listed
    obtain ⟨u, _, mem⟩ := List.mem_flatMap.1 mem
    refine ⟨b, found, ?_⟩
    rw [manned u x mem, desk]

end Stems

/-- An error that the handler of `x` has returned is reported, in the step from `m` to `m'` of a run
that began with `m₀`. The delivery that it came up in was posted on the bus `k`. -/
structure Blames (p : Program H σ ε) (m₀ m m' : Machine H σ ε) (failure : Failure)
    (context : FailureContext) (x : Subscriber H) (k : Nat) : Prop where
  fails : ∃ rest, m.Fails failure context.event x rest
  told : context = x.failureContext context.event
  /-- The handler of errors is given that context. -/
  given : ∀ code, x.desk.policy = .custom code →
    m'.control = .run (p.report code failure context)
  /-- The delivery was sent by a post on the bus. -/
  sent : ∃ n n' b, Later p m₀ n ∧ n.Sends k b context.event x ∧ step p n = .going n' ∧
    Later p n' m
  /-- No post on another bus sends anything to the subscriber. -/
  only : ∀ n j b e, Later p m₀ n → n.Sends j b e x → j = k
  /-- The context names the bus. -/
  names : Names p m' context.bus k

/-- Where the references come from that get around in the step from `m` to `m'` of a run that began
with `m₀`. -/
structure Attributes (p : Program H σ ε) (m₀ m m' : Machine H σ ε) : Prop where
  /-- A script that builds a bus is given a reference to it, which is a new one. -/
  built : ∀ plan next, m.control = .run (.build plan next) →
    ∃ r k, m'.control = .run (next r) ∧ Names p m' r k ∧ m.state.buses.get? k = none
  /-- A dead event is made of an event that is posted, and names the bus on which that is done. -/
  died : ∀ r e, .died r e ∈ m'.state.since m.state →
    ∃ k elsewhere next, m.control = .run (.post k e elsewhere next) ∧ Names p m' r k ∧
      (∀ r' e' xs, .routed r' e' xs ∈ m'.state.since m.state → e' = .dead r e e.type) ∧
      ∀ r' e', .dropped r' e' ∈ m'.state.since m.state → e' = .dead r e e.type
  /-- A bus passes on what is posted on it, and the dead events that are, as they are. -/
  routed : ∀ r e' xs, .routed r e' xs ∈ m'.state.since m.state →
    ∃ k b e elsewhere next, m.control = .run (.post k e elsewhere next) ∧
      m.state.buses.get? k = some b ∧ r = b.handle ∧ Names p m' r k ∧
      Passes m.state.hierarchy b e e' xs ∧ (e.type = .deadEvent → e' = e)
  /-- The context of an error names the bus on which the delivery was posted. -/
  reported : ∀ failure context, .reported failure context ∈ m'.state.since m.state →
    ∃ x k, Blames p m₀ m m' failure context x k

/-- A dead event is passed on as it is. -/
lemma Passes.of_dead {h : Hierarchy} {b : Bus H} {e e' : Event} {xs : List (Subscriber H)}
    (passes : Passes h b e e' xs) (dead : e.type = .deadEvent) : e' = e := by
  cases passes with
  | heard => rfl
  | mourned _ alive _ => exact absurd dead alive

/-- An event that nobody hears is passed on as a dead event from the bus it was posted on. -/
lemma Passes.of_unheard {h : Hierarchy} {b : Bus H} {e e' : Event} {xs : List (Subscriber H)}
    (passes : Passes h b e e' xs) (none : b.registry.resolve h e.type = []) :
    e' = .dead b.handle e e.type := by
  cases passes with
  | heard some => exact absurd none some
  | mourned => rfl

/-- A delivery that fails was underway. -/
lemma Fails.underway {failure : Failure} {rest : List (Frame H σ ε)}
    (fails : m.Fails failure e x rest) : m.Underway e x := by
  have top : .handling e x ∈ m.stack := by
    rw [fails.stack]
    exact List.mem_cons_self
  exact .charged top List.mem_cons_self

/-- A failure of a delivery that became underway since then is blamed on a bus of the run. -/
lemma Fails.blames {failure : Failure} {rest : List (Frame H σ ε)}
    (fails : m.Fails failure e x rest) (reach : Reachable p m₀) (later : Later p m₀ m)
    (fresh : ¬m₀.Underway e x) :
    ∃ k, Blames p m₀ m (report p m (m.state.leave x) rest failure e x) failure
      (x.failureContext e) x k := by
  obtain ⟨n, n', k, b, before, sends, sent, after⟩ := later.sent fresh fails.underway
  have reach₁ := before.reachable reach
  have stems := sends.stems reach₁
  have stems' := (reach₁.step sent).stems_later (reach₁.stems_later stems (.step .refl sent))
    (.step after fails.step)
  refine ⟨k, ⟨rest, fails⟩, rfl, ?_, ⟨n, n', b, before, sends, sent, after⟩, ?_, ?_⟩
  · intro code custom
    unfold report
    dsimp only
    rw [custom]
  · intro n₂ j b₂ e₂ later₂ sends₂
    have reach₂ := later₂.reachable reach
    exact (reach₂.number (sends₂.stems reach₂)).symm.trans (reach₁.number stems)
  · exact ((later.reachable reach).step fails.step).names stems'

/-- In every step of a run, dead events and reports of errors name the bus that was posted on. -/
lemma Later.attributes (later : Later p m₀ m) (reach : Reachable p m₀)
    (fresh : ∀ e x, ¬m₀.Underway e x) (st : Machine.step p m = .going m') :
    Attributes p m₀ m m' where
  built plan next control := (later.reachable reach).names_build control st
  died r e mem := by
    obtain ⟨k, b, _, elsewhere, next, os, control, found, decides, fate⟩ | ⟨_, _, _, _, _, _, ⟨⟩⟩ :=
      decision_of_step st mem rfl
    obtain ⟨rfl, rfl, alive, none⟩ := fate.of_died ((decides.mem_since rfl).1 mem)
    have stems := (later.reachable reach).stems_later ⟨b, found, rfl⟩ (.step .refl st)
    refine ⟨k, elsewhere, next, control, ((later.reachable reach).step st).names stems, ?_, ?_⟩
    · intro r' e' xs mem'
      obtain ⟨_, passes⟩ := fate.of_routed ((decides.mem_since rfl).1 mem')
      exact passes.of_unheard none
    · intro r' e' mem'
      obtain ⟨_, dead⟩ | made := fate.of_dropped ((decides.mem_since rfl).1 mem')
      · exact absurd dead alive
      · exact made
  routed r e' xs mem := by
    obtain ⟨k, b, e, elsewhere, next, os, control, found, decides, fate⟩ | ⟨_, _, _, _, _, _, ⟨⟩⟩ :=
      decision_of_step st mem rfl
    obtain ⟨rfl, passes⟩ := fate.of_routed ((decides.mem_since rfl).1 mem)
    have stems := (later.reachable reach).stems_later ⟨b, found, rfl⟩ (.step .refl st)
    exact ⟨k, b, e, elsewhere, next, control, found, rfl,
      ((later.reachable reach).step st).names stems, passes, passes.of_dead⟩
  reported failure context mem := by
    obtain ⟨_, _, _, _, _, _, _, _, decides, fate⟩ | ⟨failure', e, x, rest, fails, rfl, same⟩ :=
      decision_of_step st mem rfl
    · exact absurd ((decides.mem_since rfl).1 mem) (fate.not_reported failure context)
    · cases same
      exact ⟨x, fails.blames reach later (fresh e x)⟩

/-- A handler that is given a dead event is given it as it is. -/
lemma given_dead {r : BusRef} {t : EventType} {v : Event} (given : x.given (.dead r e t) = some v) :
    v = .dead r e t := by
  unfold Subscriber.given at given
  cases intake : x.intake with
  | typed =>
    rw [intake] at given
    dsimp only [Event.project] at given
    split at given
    · exact (Option.some.inj given).symm
    · cases given
  | whole =>
    rw [intake] at given
    exact (Option.some.inj given).symm

/-- In every run, references to buses are equal where they stem from the same bus, and only there;
so a reference is one to a bus where it is equal to the handle of the bus. Whatever happens later,
it goes on to stand for that bus and for no other one. A dead event names the bus on which the event
that it holds was posted, and is passed on and given to handlers as it is when it is posted again;
and an error is reported under the bus on which the delivery was posted in which it came up,
wherever the event that was delivered comes from. -/
theorem references_tell_buses {hierarchy : Hierarchy} {user : σ} {script : Script H σ ε}
    (later : Later p (start (.initial hierarchy user) script) m) :
    (∀ (r : BusRef) (b : Bus H), r.is b = r.same b.handle) ∧
    (∀ r r' k j, m.state.Stems r k → m.state.Stems r' j → (r.same r' = true ↔ k = j)) ∧
    (∀ r k, m.state.Stems r k → Names p m r k) ∧
    (∀ m', step p m = .going m' →
      Attributes p (start (.initial hierarchy user) script) m m') ∧
    ∀ (x : Subscriber H) r e t v, x.given (.dead r e t) = some v → v = .dead r e t := by
  have reach : Reachable p m := later.reachable (.first hierarchy user script)
  refine ⟨fun _ _ => rfl, ?_, ?_, ?_, ?_⟩
  · intro r r' k j stems stems'
    exact reach.same_iff stems stems'
  · intro r k stems
    exact reach.names stems
  · intro m' st
    exact later.attributes (.first hierarchy user script)
      (fun _ _ => not_underway_start hierarchy user script) st
  · intro x r e t v given
    exact given_dead given

namespace Twins

def note : Event := .free ⟨"Note"⟩ "Note" "lost" [] []

def failure : Failure := .ofMessage "no"

def listener : Target := ⟨1, "Listener", "listener"⟩

def on (code : Nat) : List (Binding Nat) := [⟨"on_dead", .deadEvent, .typed, true, none, code⟩]

/-- A handler posts the event that it is given on the second bus, and another one returns an error.
-/
def program : Program Nat Unit Unit where
  handle
    | 0, e => .post 2 e false (.finish (.ok ()))
    | _, _ => .finish (.error failure)
  report _ _ _ := .finish (.ok ())

/-- Two buses that are called the same, with one dispatcher and one listener to dead events. A note
is posted on the first one that nobody listens to. -/
def script : Script Nat Unit Unit :=
  .newDispatcher fun d =>
  .build ⟨"twin", .direct, .plain (.queued d), .log⟩ fun a =>
  .build ⟨"twin", .direct, .plain (.queued d), .custom 0⟩ fun b =>
  .register a.id listener (on 0) fun _ =>
  .register b.id listener (on 1) fun _ =>
  .post a.id note false (.finish (.ok ()))

def first : BusRef := ⟨1, "twin"⟩

def second : BusRef := ⟨2, "twin"⟩

def dead : Event := .dead first note ⟨"Note"⟩

def begin : Machine Nat Unit Unit := start (.initial .empty ()) script

def machine (n : Nat) : Machine Nat Unit Unit := after program begin n

end Twins

/-- The dead event names the first of the buses. The error of the handler that is given it on the
second bus, after it was posted again there, is reported under the second. -/
theorem twins_told_apart :
    Twins.first.identifier = Twins.second.identifier ∧ Twins.first.same Twins.second = false ∧
    (.died Twins.first Twins.note ∈ (Twins.machine 6).state.since (Twins.machine 5).state ∧
      Names Twins.program (Twins.machine 6) Twins.first 1) ∧
    ∃ x, Blames Twins.program Twins.begin (Twins.machine 14) (Twins.machine 15) Twins.failure
      ⟨Twins.second, Twins.dead, x.target, x.handler, x.eventType⟩ x 2 := by
  have later (n : Nat) : Later Twins.program Twins.begin (Twins.machine n) := Later.after _ n
  have st (n : Nat) (going : goesOn Twins.program (Twins.machine n)) :
      step Twins.program (Twins.machine n) = .going (Twins.machine (n + 1)) := step_after going
  refine ⟨rfl, rfl, ?_, ?_⟩
  · have died : .died Twins.first Twins.note ∈
        (Twins.machine 6).state.since (Twins.machine 5).state := by
      apply List.mem_of_getElem? (i := 2)
      cbv
    obtain ⟨_, _, _, attributes, _⟩ := references_tell_buses (later 5)
    obtain ⟨k, elsewhere, next, control, names, _⟩ :=
      (attributes _ (st 5 (by cbv))).died _ _ died
    obtain ⟨next', control'⟩ : ∃ next,
        (Twins.machine 5).control = .run (.post 1 Twins.note false next) := ⟨_, by cbv⟩
    cases control.symm.trans control'
    exact ⟨died, names⟩
  · obtain ⟨x, rest, fails, desk⟩ : ∃ x rest,
        (Twins.machine 14).Fails Twins.failure Twins.dead x rest ∧ x.desk.bus = Twins.second :=
      ⟨_, _, ⟨by cbv, by cbv⟩, by cbv⟩
    obtain ⟨_, _, _, attributes, _⟩ := references_tell_buses (later 14)
    have same : Twins.machine 15 = report Twins.program (Twins.machine 14)
        ((Twins.machine 14).state.leave x) rest Twins.failure Twins.dead x :=
      Progress.going.inj ((st 14 (by cbv)).symm.trans fails.step)
    have reported : .reported Twins.failure (x.failureContext Twins.dead) ∈
        (Twins.machine 15).state.since (Twins.machine 14).state := by
      rw [same]
      have decides := decides_report (p := Twins.program) (Twins.machine 14)
        (decides_leave _ x) rest Twins.failure Twins.dead x
      exact (decides.mem_since rfl).2 List.mem_cons_self
    obtain ⟨y, k, blames⟩ := (attributes _ (st 14 (by cbv))).reported _ _ reported
    obtain ⟨_, fails'⟩ := blames.fails
    cases fails.stack.symm.trans fails'.stack
    have context : x.failureContext Twins.dead =
        ⟨Twins.second, Twins.dead, x.target, x.handler, x.eventType⟩ := by
      rw [Subscriber.failureContext, desk]
    rw [context] at blames
    have reach : Reachable Twins.program (Twins.machine 15) := (Reachable.first ..).after 15
    obtain rfl : 2 = k := reach.number (blames.names.stems _ .refl)
    exact ⟨x, blames⟩

end Machine

end EventBus
