import EventBus.Proofs.Machine.Run

/-!
# Pending deliveries

What a queued dispatcher still owes a thread: the rest of the event that is being delivered, then
the events that wait in the queue. `WellFormed.accounts_move` is the law of every step: what was
submitted and what is pending afterwards make up what was pending before and what was dispatched.
The one exception is a panic that gets to the deliveries or to the drain itself.
-/

namespace EventBus

variable {H σ ε : Type}

/-- The deliveries that a frame still owes for a queue. -/
def Frame.owed (id t : Nat) : Frame H σ ε → List (Event × Subscriber H)
  | deliveries (.queued d) u e xs => if d = id ∧ u = t then Pending.deliveries ⟨e, xs⟩ else []
  | _ => []

/-- The events that wait in a queue. -/
def State.waiting (s : State H σ ε) (key : Nat × Nat) : List (Pending H) :=
  match s.queues.get? key with
  | some q => q.waiting
  | none => []

namespace Machine

variable {p : Program H σ ε} {m m' : Machine H σ ε} {id t : Nat}

/-- The deliveries that a queued dispatcher still owes a thread, in the order of their making. -/
def pending (id t : Nat) (m : Machine H σ ε) : List (Event × Subscriber H) :=
  m.stack.flatMap (Frame.owed id t) ++ (m.state.waiting (id, t)).flatMap Pending.deliveries

/-- A panic is about to give up the deliveries or the drain of a queue. -/
inductive GivesUp (id t : Nat) (m : Machine H σ ε) : Prop where
  | deliveries {payload e xs fs} (control : m.control = .unwind payload)
      (stack : m.stack = .deliveries (.queued id) t e xs :: fs)
  | drain {payload fs} (control : m.control = .unwind payload) (stack : m.stack = .drain id t :: fs)

/-- What was submitted and what is pending make up what was pending and what was dispatched. -/
def Accounts (id t : Nat) (m m' : Machine H σ ε) (os : List (Occurrence H ε)) : Prop :=
  submissionsOf id t os ++ m'.pending id t =
    m.pending id t ++ (dispatchesOf id t os).flatMap Pending.deliveries

namespace Accounts

variable {m'' : Machine H σ ε} {os os' : List (Occurrence H ε)}

/-- Accounts of two stretches make one. -/
lemma trans (h : Accounts id t m m' os) (h' : Accounts id t m' m'' os') :
    Accounts id t m m'' (os ++ os') := by
  unfold Accounts at *
  rw [submissionsOf_append, List.append_assoc, h', ← List.append_assoc, h, dispatchesOf_append,
    List.flatMap_append, List.append_assoc]

end Accounts

/-- Plain frames owe nothing. -/
lemma owed_of_plain (id t : Nat) {gs : List (Frame H σ ε)} (plain : ∀ f ∈ gs, f.IsPlain) :
    gs.flatMap (Frame.owed id t) = [] := by
  rw [List.flatMap_eq_nil_iff]
  intro f mem
  have plain := plain f mem
  cases f <;> first | rfl | cases plain

/-- Deliveries stand on the drain of their queue. -/
lemma Coherent.drain_mem {u : Nat} {fs : List (Frame H σ ε)} {e : Event} {xs : List (Subscriber H)}
    (h : Coherent u fs) (mem : .deliveries (.queued id) t e xs ∈ fs) : .drain id t ∈ fs := by
  induction h with
  | nil => cases mem
  | plain plain _ ih =>
    cases mem with
    | head => cases plain
    | tail _ mem => exact List.mem_cons_of_mem _ (ih mem)
  | immediate _ ih =>
    cases mem with
    | tail _ mem => exact List.mem_cons_of_mem _ (ih mem)
  | queued _ ih =>
    cases mem with
    | head => exact List.mem_cons_of_mem _ List.mem_cons_self
    | tail _ mem => exact List.mem_cons_of_mem _ (ih mem)
  | drain _ _ ih =>
    cases mem with
    | tail _ mem => exact List.mem_cons_of_mem _ (ih mem)
  | join _ ih =>
    cases mem with
    | tail _ mem => exact List.mem_cons_of_mem _ (ih mem)

/-- Where a queue is not being drained, nothing is owed for it. -/
lemma Coherent.owed_eq_nil {u : Nat} {fs : List (Frame H σ ε)} (h : Coherent u fs)
    (mem : .drain id t ∉ fs) : fs.flatMap (Frame.owed id t) = [] := by
  rw [List.flatMap_eq_nil_iff]
  intro f mem'
  cases f
  case deliveries order u e xs =>
    cases order with
    | immediate => rfl
    | queued d =>
      rw [Frame.owed, if_neg]
      rintro ⟨rfl, rfl⟩
      exact mem (h.drain_mem mem')
  all_goals rfl

/-- Where the queues stay, the same events wait. -/
lemma waiting_congr {s s' : State H σ ε} (queues : s'.queues = s.queues) (key : Nat × Nat) :
    s'.waiting key = s.waiting key := by
  rw [State.waiting, State.waiting, queues]

/-- A queue that is set holds what it is set to, and the others what they held. -/
lemma waiting_set {s s' : State H σ ε} {key : Nat × Nat} {q : DispatchQueue H}
    (queues : s'.queues = s.queues.set key q) (key' : Nat × Nat) :
    s'.waiting key' = if key = key' then q.waiting else s.waiting key' := by
  rw [State.waiting, queues, Table.get?_set]
  by_cases same : key = key'
  · rw [if_pos same, if_pos same]
  · rw [if_neg same, if_neg same, State.waiting]

/-- In a queue that is taken away nothing waits. -/
lemma waiting_erase {s s' : State H σ ε} {key : Nat × Nat}
    (queues : s'.queues = s.queues.erase key) (key' : Nat × Nat) :
    s'.waiting key' = if key = key' then [] else s.waiting key' := by
  rw [State.waiting, queues, Table.get?_erase]
  by_cases same : key = key'
  · rw [if_pos same, if_pos same]
  · rw [if_neg same, if_neg same, State.waiting]

/-- In a queue that is there, those wait that it says. -/
lemma waiting_of_get? {s : State H σ ε} {key : Nat × Nat} {q : DispatchQueue H}
    (found : s.queues.get? key = some q) : s.waiting key = q.waiting := by
  rw [State.waiting, found]

/-- In a queue that is not there nothing waits. -/
lemma waiting_of_none {s : State H σ ε} {key : Nat × Nat} (found : s.queues.get? key = none) :
    s.waiting key = [] := by
  rw [State.waiting, found]

/-- The events of a queue, before and after a post. -/
lemma Routed.waiting (routed : Routed m m') (id t : Nat) :
    ∃ os, m.state.Traffic m'.state os ∧
      m'.state.waiting (id, t) = m.state.waiting (id, t) ++ dispatchesOf id t os := by
  have enqueued {d u : Nat} {e : Event} {xs : List (Subscriber H)} {q : List (Pending H)}
      (before : m.state.waiting (d, u) = q)
      (queues : m'.state.queues = m.state.queues.set (d, u) ⟨q ++ [⟨e, xs⟩], true⟩) :
      m'.state.waiting (id, t) = m.state.waiting (id, t) ++
        dispatchesOf id t [(.dispatched u (.queued d) e xs : Occurrence H ε)] := by
    rw [waiting_set queues]
    by_cases same : d = id ∧ u = t
    · obtain ⟨rfl, rfl⟩ := same
      simp [dispatchesOf, Occurrence.dispatch?, before]
    · rw [if_neg]
      · simp [dispatchesOf, Occurrence.dispatch?, same]
      · rintro ⟨⟩
        exact same ⟨rfl, rfl⟩
  cases routed with
  | silent _ calm =>
    exact ⟨_, calm.traffic, (waiting_congr calm.queues _).trans (List.append_nil _).symm⟩
  | immediate _ queues _ traffic =>
    exact ⟨_, traffic, (waiting_congr queues _).trans (List.append_nil _).symm⟩
  | waits _ drained queues _ traffic =>
    exact ⟨_, traffic, enqueued (waiting_of_get? drained) queues⟩
  | opens _ idle queues _ traffic =>
    refine ⟨_, traffic, enqueued ?_ queues⟩
    obtain ⟨fresh, rfl⟩ | idle := idle
    · exact waiting_of_none fresh
    · exact waiting_of_get? idle

/-- Where a queue is not being drained, nothing is pending for it. -/
lemma WellFormed.pending_eq_nil (wf : WellFormed m) (mem : .drain id t ∉ m.stack) :
    m.pending id t = [] := by
  rw [pending, wf.coherent.owed_eq_nil mem, waiting_of_none (wf.none_of_not_mem mem)]
  rfl

/-- An account without submissions and dispatches has the same pending. -/
lemma Accounts.of_eq {os : List (Occurrence H ε)} (submissions : submissionsOf id t os = [])
    (dispatches : dispatchesOf id t os = []) (same : m'.pending id t = m.pending id t) :
    Accounts id t m m' os := by
  rw [Accounts, submissions, dispatches, same, List.nil_append, List.flatMap_nil, List.append_nil]

/-- A dispatch to a queue is pending once. -/
lemma accounts_enqueue {d u : Nat} {e : Event} {xs : List (Subscriber H)} {q : List (Pending H)}
    (owed : m'.stack.flatMap (Frame.owed id t) = m.stack.flatMap (Frame.owed id t))
    (before : m.state.waiting (d, u) = q)
    (queues : m'.state.queues = m.state.queues.set (d, u) ⟨q ++ [⟨e, xs⟩], true⟩) :
    Accounts id t m m' [.dispatched u (.queued d) e xs] := by
  have after := waiting_set queues (id, t)
  by_cases same : d = id ∧ u = t
  · obtain ⟨rfl, rfl⟩ := same
    rw [if_pos rfl] at after
    simp [Accounts, pending, submissionsOf, dispatchesOf, Occurrence.submission?,
      Occurrence.dispatch?, owed, after, before]
  · have other : (d, u) ≠ (id, t) := by
      rintro ⟨⟩
      exact same ⟨rfl, rfl⟩
    rw [if_neg other] at after
    apply Accounts.of_eq
    · rfl
    · simp [dispatchesOf, Occurrence.dispatch?, same]
    · rw [pending, pending, owed, after]

/-- Whatever becomes of a post, there is an account of it. -/
lemma Routed.accounts (id t : Nat) (routed : Routed m m') :
    ∃ os, m.state.Traffic m'.state os ∧ Accounts id t m m' os := by
  cases routed with
  | silent stack calm =>
    refine ⟨_, calm.traffic, .of_eq rfl rfl ?_⟩
    rw [pending, pending, stack, waiting_congr calm.queues]
  | immediate stack queues _ traffic =>
    refine ⟨_, traffic, .of_eq rfl rfl ?_⟩
    rw [pending, pending, stack, waiting_congr queues]
    rfl
  | waits stack drained queues _ traffic =>
    refine ⟨_, traffic, accounts_enqueue ?_ (waiting_of_get? drained) queues⟩
    rw [stack]
  | opens stack idle queues _ traffic =>
    refine ⟨_, traffic, accounts_enqueue ?_ ?_ queues⟩
    · rw [stack]
      rfl
    · obtain ⟨fresh, rfl⟩ | idle := idle
      · exact waiting_of_none fresh
      · exact waiting_of_get? idle

/-- A machine about to post has the same pending. -/
lemma Posting.pending_eq (posting : Posting m m') : m'.pending id t = m.pending id t := by
  cases posting with
  | here stack _ calm =>
    rw [pending, pending, stack, waiting_congr calm.queues]
    rfl
  | elsewhere stack calm =>
    rw [pending, pending, stack, waiting_congr calm.queues]
    rfl

/-- To put aside what comes after a post is calm. -/
lemma Posting.calm (posting : Posting m m') : m.state.Calm m'.state := by
  cases posting with
  | here _ _ calm => exact calm
  | elsewhere _ calm => exact calm

/-- A submission takes the next delivery of the frame on top. -/
lemma accounts_submit {order : DispatchOrder} {u : Nat} {e : Event} {x : Subscriber H}
    {xs : List (Subscriber H)} {base : List (Frame H σ ε)} {os : List (Occurrence H ε)}
    (stack : m.stack = .deliveries order u e (x :: xs) :: base)
    (owed : m'.stack.flatMap (Frame.owed id t) =
      (Frame.deliveries order u e xs :: base).flatMap (Frame.owed id t))
    (queues : m'.state.queues = m.state.queues) (quiet : submissionsOf id t os = [])
    (none : dispatchesOf id t os = []) :
    Accounts id t m m' (.submitted u order e x :: os) := by
  rw [Accounts, pending, pending, owed, stack, waiting_congr queues,
    ← List.singleton_append (l := os), submissionsOf_append, dispatchesOf_append, quiet, none]
  cases order with
  | immediate => simp [submissionsOf, dispatchesOf, Occurrence.submission?, Occurrence.dispatch?,
      Frame.owed]
  | queued d =>
    by_cases same : d = id ∧ u = t
    · simp [submissionsOf, dispatchesOf, Occurrence.submission?, Occurrence.dispatch?, Frame.owed,
        same, Pending.deliveries]
    · simp [submissionsOf, dispatchesOf, Occurrence.submission?, Occurrence.dispatch?, Frame.owed,
        same]

/-- Every move is accounted for, unless a panic gives up what is pending. -/
lemma WellFormed.accounts_move (id t : Nat) (wf : WellFormed m) (move : Move m m') :
    ∃ os, m.state.Traffic m'.state os ∧
      (Accounts id t m m' os ∨
        GivesUp id t m ∧ os = [] ∧ (m'.pending id t).Sublist (m.pending id t)) := by
  cases move with
  | plain stack stack' popped pushed _ calm =>
    refine ⟨_, calm.traffic, .inl (.of_eq rfl rfl ?_)⟩
    rw [pending, pending, stack, stack', waiting_congr calm.queues, List.flatMap_append,
      List.flatMap_append, owed_of_plain id t popped,
      owed_of_plain id t (fun f mem => (pushed f mem).isPlain)]
  | @posted m₀ posting routed _ _ =>
    obtain ⟨os, traffic, accounts⟩ := routed.accounts id t
    refine ⟨os, posting.calm.traffic.trans traffic, .inl ?_⟩
    rw [Accounts, ← posting.pending_eq]
    exact accounts
  | called stack stack' _ _ queues _ traffic =>
    have coherent := wf.coherent_of stack
    obtain ⟨rfl, _⟩ := coherent.of_deliveries
    refine ⟨_, traffic, .inl (accounts_submit stack ?_ queues rfl rfl)⟩
    rw [stack']
    rfl
  | putOff stack stack' _ _ queues traffic =>
    have coherent := wf.coherent_of stack
    obtain ⟨rfl, _⟩ := coherent.of_deliveries
    refine ⟨_, traffic, .inl (accounts_submit stack ?_ queues rfl rfl)⟩
    rw [stack']
  | @ran f f' _ _ _ stack stack' plain plain' _ _ queues traffic =>
    refine ⟨_, traffic, .inl (.of_eq rfl rfl ?_)⟩
    have none := owed_of_plain id t (List.forall_mem_singleton.2 plain)
    have none' := owed_of_plain id t (List.forall_mem_singleton.2 plain')
    rw [List.flatMap_singleton] at none none'
    rw [pending, pending, stack, stack', waiting_congr queues, List.flatMap_cons, List.flatMap_cons,
      List.flatMap_cons, none, none']
    rfl
  | @left order u e xs base stack stack' _ state _ why =>
    refine ⟨[], ?_, ?_⟩
    · rw [state]
      exact .of_eq rfl
    -- Only deliveries for this very queue count.
    by_cases same : order = .queued id ∧ u = t
    · obtain ⟨rfl, rfl⟩ := same
      obtain rfl | ⟨payload, control⟩ := why
      · left
        apply Accounts.of_eq rfl rfl
        rw [pending, pending, stack, stack', state]
        simp [Frame.owed, Pending.deliveries]
      · refine .inr ⟨.deliveries control stack, rfl, ?_⟩
        rw [pending, pending, stack, stack', state, List.flatMap_cons, List.append_assoc]
        exact List.sublist_append_right ..
    · left
      apply Accounts.of_eq rfl rfl
      rw [pending, pending, stack, stack', state, List.flatMap_cons]
      cases order with
      | immediate => rfl
      | queued d =>
        rw [Frame.owed, if_neg]
        · rfl
        · rintro ⟨rfl, rfl⟩
          exact same ⟨rfl, rfl⟩
  | @fetched d u next q draining base stack stack' waiting _ queues _ traffic =>
    refine ⟨_, traffic, .inl (.of_eq rfl rfl ?_)⟩
    rw [pending, pending, stack, stack', waiting_set queues]
    by_cases same : (d, u) = (id, t)
    · cases same
      -- Only the drain on top owes anything for its queue.
      have coherent := wf.coherent_of stack
      obtain ⟨rfl, once, coherent⟩ := coherent.of_drain
      have none := coherent.owed_eq_nil once
      simp [Frame.owed, none, waiting_of_get? waiting]
    · have other : ¬(d = id ∧ u = t) := by
        rintro ⟨rfl, rfl⟩
        exact same rfl
      simp [Frame.owed, same, other]
  | @closed d u base stack stack' _ queues _ traffic _ why =>
    refine ⟨_, traffic, ?_⟩
    by_cases same : (d, u) = (id, t)
    · cases same
      obtain empty | ⟨payload, control⟩ := why
      · left
        apply Accounts.of_eq rfl rfl
        rw [pending, pending, stack, stack', waiting_erase queues, if_pos rfl]
        obtain ⟨q, drained⟩ := wf.open_of_mem (by rw [stack]; exact List.mem_cons_self)
        rw [waiting_of_get? drained, empty _ drained]
        rfl
      · refine .inr ⟨.drain control stack, rfl, ?_⟩
        rw [pending, pending, stack, stack', waiting_erase queues, if_pos rfl, List.flatMap_nil,
          List.append_nil]
        exact List.sublist_append_left ..
    · left
      apply Accounts.of_eq rfl rfl
      rw [pending, pending, stack, stack', waiting_erase queues, if_neg same]
      rfl
  | joined stack stack' _ state _ =>
    refine ⟨[], ?_, .inl (.of_eq rfl rfl ?_)⟩
    · rw [state]
      exact .of_eq rfl
    · rw [pending, pending, stack, stack', state]
      rfl

end Machine

end EventBus
