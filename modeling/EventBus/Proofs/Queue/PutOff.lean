import EventBus.Proofs.Machine.Session

/-!
# Deliveries that are put off

Where no subscriber is called at once, a queued dispatcher is as good as an immediate one. The drain
of a queue only puts deliveries off, so that nothing runs in the course of it, no event comes to
wait behind another, and the queue is gone before anything else is done. The session on queued
dispatchers is followed beside the one on immediate dispatchers: it is behind while it opens a
queue, while it puts off the deliveries of the one event in it, and while it closes the queue.
-/

namespace EventBus

variable {H σ ε : Type}

/-- Whether an occurrence tells of more than the way in which a dispatcher drives an event. -/
def Occurrence.isOutward : Occurrence H ε → Bool
  | built _ _ _ | dispatched _ _ _ _ | queued _ | interrupted _ | submitted _ _ _ _ => false
  | _ => true

namespace Pairing

/-- The second side has immediate dispatchers for the queued ones of the first. -/
def atOnce : Pairing H σ σ ε where
  user := Eq
  lenient := false
  immediate := true
  told := Occurrence.isOutward
  untold_reportFailed := by rintro ⟨⟩
  untold_built _ _ _ _ := rfl
  untold_dispatched _ _ _ _ _ := rfl

end Pairing

/-- States after the same happenings, but for the way in which events were driven, and with the same
registrations. -/
structure SameOutwardly (s s' : State H σ ε) : Prop where
  trace : s'.trace.toList.filter (·.isOutward) = s.trace.toList.filter (·.isOutward)
  registries : ∀ k, (s'.buses.get? k).map (·.registry) = (s.buses.get? k).map (·.registry)

/-- The state in which a queue is being drained, and no other. -/
def State.draining (s : State H σ ε) (d t : Nat) (waiting : List (Pending H)) : State H σ ε :=
  { s with queues := Table.empty.set (d, t) ⟨waiting, true⟩ }

/-- The state after a delivery has been submitted and put off. -/
def State.putOff (s : State H σ ε) (t : Nat) (order : DispatchOrder) (e : Event)
    (x : Subscriber H) : State H σ ε :=
  let s := s.emit (.submitted t order e x)
  match x.executor with
  | .pool =>
    let s := s.emit (.handedOff e x)
    { s with pool := s.pool ++ [⟨x, e⟩] }
  | _ => { s with backlog := s.backlog ++ [⟨x, e⟩] }

/-- A delivery is put off on both sides, whichever way it is driven. -/
lemma Pairing.Alike.putOff {s s' : State H σ ε} (h : Pairing.atOnce.Alike s s') (t d : Nat)
    (e : Event) (x : Subscriber H) :
    Pairing.atOnce.Alike (s.putOff t (.queued d) e x) (s'.putOff t .immediate e x) := by
  have submitted : Pairing.atOnce.Alike (s.emit (.submitted t (.queued d) e x))
      (s'.emit (.submitted t .immediate e x)) := h.emit_untold rfl rfl
  have deferred : Pairing.atOnce.Alike
      { s.emit (.submitted t (.queued d) e x) with backlog := s.backlog ++ [⟨x, e⟩] }
      { s'.emit (.submitted t .immediate e x) with backlog := s'.backlog ++ [⟨x, e⟩] } :=
    { submitted with backlog := congrArg (· ++ [⟨x, e⟩]) h.backlog }
  have handed : Pairing.atOnce.Alike
      { (s.emit (.submitted t (.queued d) e x)).emit (.handedOff e x) with
        pool := s.pool ++ [⟨x, e⟩] }
      { (s'.emit (.submitted t .immediate e x)).emit (.handedOff e x) with
        pool := s'.pool ++ [⟨x, e⟩] } :=
    { submitted.emit (.handedOff e x) with pool := congrArg (· ++ [⟨x, e⟩]) h.pool }
  unfold State.putOff
  cases x.executor with
  | direct => exact deferred
  | deferred => exact deferred
  | pool => exact handed

/-- A queue may be filled before or after a delivery is put off. -/
lemma putOff_draining (s : State H σ ε) (d t : Nat) (q : List (Pending H)) (order : DispatchOrder)
    (e : Event) (x : Subscriber H) :
    (s.draining d t q).putOff t order e x = (s.putOff t order e x).draining d t q := by
  unfold State.putOff
  cases x.executor <;> rfl

/-- The subscribers that are registered on a bus, whatever they are registered for. -/
def State.listed (s : State H σ ε) : List (Subscriber H) :=
  s.buses.values.flatMap fun b => b.registry.lists.values.flatten

/-- A subscriber that is registered is listed. -/
lemma State.Lists.mem_listed {s : State H σ ε} {x : Subscriber H} (lists : s.Lists x) :
    x ∈ s.listed := by
  obtain ⟨k, b, t, found, mem⟩ := lists
  rw [Registry.subscribersFor] at mem
  cases declared : b.registry.lists.get? t with
  | none =>
    rw [declared] at mem
    cases mem
  | some xs =>
    rw [declared] at mem
    exact List.mem_flatMap.2 ⟨b, Table.mem_values found,
      List.mem_flatten.2 ⟨xs, Table.mem_values declared, mem⟩⟩

namespace Session

/-- How far the session on queued dispatchers has come, beside the one on immediate dispatchers. -/
inductive PutsOff : Session H σ ε → Session H σ ε → Prop where
  | abreast {c c'} :
    Pairing.atOnce.Abreast c c' →
    PutsOff c c'
  | opened {s s' t stack stack' tasks tasks' d e xs} :
    Pairing.atOnce.Abreast ⟨⟨s, t, stack, .back⟩, tasks⟩ ⟨⟨s', t, stack', .back⟩, tasks'⟩ →
    (∀ x ∈ xs, x.executor ≠ .direct) →
    PutsOff ⟨⟨s.draining d t [⟨e, xs⟩], t, .drain d t :: stack, .back⟩, tasks⟩
      ⟨⟨s', t, .deliveries .immediate t e xs :: stack', .back⟩, tasks'⟩
  | driving {s s' t stack stack' tasks tasks' d e xs} :
    Pairing.atOnce.Abreast ⟨⟨s, t, stack, .back⟩, tasks⟩ ⟨⟨s', t, stack', .back⟩, tasks'⟩ →
    (∀ x ∈ xs, x.executor ≠ .direct) →
    PutsOff
      ⟨⟨s.draining d t [], t, .deliveries (.queued d) t e xs :: .drain d t :: stack, .back⟩, tasks⟩
      ⟨⟨s', t, .deliveries .immediate t e xs :: stack', .back⟩, tasks'⟩
  | closing {s s' t stack stack' tasks tasks' d} :
    Pairing.atOnce.Abreast ⟨⟨s, t, stack, .back⟩, tasks⟩ ⟨⟨s', t, stack', .back⟩, tasks'⟩ →
    PutsOff ⟨⟨s.draining d t [], t, .drain d t :: stack, .back⟩, tasks⟩
      ⟨⟨s', t, stack', .back⟩, tasks'⟩

namespace PutsOff

variable {p p' : Program H σ ε} {c c' : Session H σ ε} {s s' : State H σ ε} {t d : Nat}
  {stack stack' : List (Frame H σ ε)} {tasks tasks' : List (Task H σ ε)} {e : Event}
  {x : Subscriber H} {xs : List (Subscriber H)}

/-- Sides of which one lags behind are outwardly the same. -/
lemma sameOutwardly (h : PutsOff c c') :
    SameOutwardly c.machine.state c'.machine.state := by
  have of_alike {s s' : State H σ ε} (h : Pairing.atOnce.Alike s s') : SameOutwardly s s' :=
    ⟨h.trace, h.registries⟩
  cases h with
  | abreast h => exact of_alike h.machine.state
  | opened h _ =>
    obtain ⟨trace, registries⟩ := of_alike h.machine.state
    exact ⟨trace, registries⟩
  | driving h _ =>
    obtain ⟨trace, registries⟩ := of_alike h.machine.state
    exact ⟨trace, registries⟩
  | closing h =>
    obtain ⟨trace, registries⟩ := of_alike h.machine.state
    exact ⟨trace, registries⟩

/-- The drain that is opened takes the one event out of its queue. -/
lemma next_opened :
    next p ⟨⟨s.draining d t [⟨e, xs⟩], t, .drain d t :: stack, .back⟩, tasks⟩ =
      ⟨⟨s.draining d t [], t, .deliveries (.queued d) t e xs :: .drain d t :: stack, .back⟩,
        tasks⟩ := by
  have dequeued :
      (s.draining d t [⟨e, xs⟩]).dequeue (d, t) = some (s.draining d t [], ⟨e, xs⟩) := by
    simp only [State.dequeue, State.draining, Table.get?_set, if_true, Table.set_set]
  rw [next, Machine.step]
  dsimp only
  rw [Machine.goBack]
  dsimp only
  rw [dequeued]
  rfl

/-- The drain of an empty queue closes it. -/
lemma next_closing (none : s.queues = .empty) :
    next p ⟨⟨s.draining d t [], t, .drain d t :: stack, .back⟩, tasks⟩ =
      ⟨⟨s, t, stack, .back⟩, tasks⟩ := by
  have dequeued : (s.draining d t []).dequeue (d, t) = Option.none := by
    simp only [State.dequeue, State.draining, Table.get?_set, if_true]
  have closed : (s.draining d t []).closeQueue (d, t) = s := by
    simp only [State.closeQueue, State.draining, Table.get?_set, if_true,
      Table.erase_set _ (Table.get?_empty _)]
    rw [← none]
  rw [next, Machine.step]
  dsimp only
  rw [Machine.goBack]
  dsimp only
  rw [dequeued]
  dsimp only
  rw [closed]

/-- Where no subscriber is called at once, a delivery is put off. -/
lemma next_deliveries {order : DispatchOrder} (indirect : x.executor ≠ .direct) :
    next p ⟨⟨s, t, .deliveries order t e (x :: xs) :: stack, .back⟩, tasks⟩ =
      ⟨⟨s.putOff t order e x, t, .deliveries order t e xs :: stack, .back⟩, tasks⟩ := by
  rw [next, Machine.step]
  dsimp only
  rw [Machine.goBack]
  dsimp only
  rw [Machine.deliver, State.putOff]
  cases executor : x.executor with
  | direct => exact absurd executor indirect
  | deferred => rfl
  | pool => rfl

/-- Both sessions put off the next delivery, or they are done with all of them. -/
lemma next_driving
    (h : Pairing.atOnce.Abreast ⟨⟨s, t, stack, .back⟩, tasks⟩ ⟨⟨s', t, stack', .back⟩, tasks'⟩)
    (indirect : ∀ x ∈ xs, x.executor ≠ .direct) :
    PutsOff
      (next p
        ⟨⟨s.draining d t [], t, .deliveries (.queued d) t e xs :: .drain d t :: stack, .back⟩,
          tasks⟩)
      (next p' ⟨⟨s', t, .deliveries .immediate t e xs :: stack', .back⟩, tasks'⟩) := by
  cases xs with
  | nil => exact .closing h
  | cons x xs =>
    obtain ⟨indirect_x, indirect⟩ := List.forall_mem_cons.1 indirect
    rw [next_deliveries indirect_x, next_deliveries indirect_x, putOff_draining]
    have put := h.machine.state.putOff t d e x
    exact .driving ⟨{ h.machine with state := put }, h.tasks⟩ indirect

/-- A dispatch opens a queue in the one session and drives its event in the other. -/
lemma opens {m m' : Machine H σ ε} (h : Pairing.atOnce.Abreast ⟨m, tasks⟩ ⟨m', tasks'⟩)
    (back : m.control = .back) (indirect : ∀ x ∈ xs, x.executor ≠ .direct) :
    PutsOff ⟨m.drive m.state (.queued d) e xs, tasks⟩
      ⟨m'.drive m'.state .immediate e xs, tasks'⟩ := by
  obtain ⟨s, t, stack, control⟩ := m
  obtain ⟨s', t', stack', control'⟩ := m'
  cases back
  have thread := h.machine.thread
  have like := h.machine.control
  dsimp only at thread like
  subst thread
  cases like
  have idle : s.queues = .empty := h.machine.state.idle rfl
  have opened : s.enqueue (d, t') ⟨e, xs⟩ = (s.draining d t' [⟨e, xs⟩], false) := by
    rw [State.enqueue, idle]
    dsimp only [Table.get?_empty]
    rw [State.draining]
  unfold Machine.drive
  dsimp only
  rw [opened]
  exact .opened h indirect

/-- Sessions abreast go on, and the second side may have something to catch up with. -/
lemma abreast_next (similar : Pairing.atOnce.Similar p p')
    (indirect : ∀ x, c.machine.state.Lists x → x.executor ≠ .direct)
    (h : Pairing.atOnce.Abreast c c') : PutsOff (c.next p) (c'.next p') := by
  have onwards := h.next similar
  generalize c.next p = left at onwards
  generalize c'.next p' = right at onwards
  cases onwards with
  | abreast h => exact .abreast h
  | opens _ h back listed => exact opens h back fun x mem => indirect x (listed x mem)
  | fails lenient _ _ => cases lenient

/-- A step on the first side is matched by one or none on the second. -/
lemma forth (similar : Pairing.atOnce.Similar p p')
    (indirect : ∀ x, c.machine.state.Lists x → x.executor ≠ .direct) (h : PutsOff c c') :
    PutsOff (c.next p) c' ∨ PutsOff (c.next p) (c'.next p') := by
  cases h with
  | abreast h => exact .inr (abreast_next similar indirect h)
  | opened h later =>
    rw [next_opened]
    exact .inl (.driving h later)
  | driving h later => exact .inr (next_driving h later)
  | closing h =>
    rw [next_closing (h.machine.state.idle rfl)]
    exact .inl (.abreast h)

/-- A step on the second side is matched by some on the first. -/
lemma back (similar : Pairing.atOnce.Similar p p')
    (indirect : ∀ x, c.machine.state.Lists x → x.executor ≠ .direct) (h : PutsOff c c') :
    ∃ j, PutsOff ((next p)^[j] c) (c'.next p') := by
  cases h with
  | abreast h => exact ⟨1, abreast_next similar indirect h⟩
  | opened h later =>
    refine ⟨2, ?_⟩
    rw [Function.iterate_succ_apply, next_opened]
    exact next_driving h later
  | driving h later => exact ⟨1, next_driving h later⟩
  | closing h =>
    refine ⟨2, ?_⟩
    rw [Function.iterate_succ_apply, next_closing (h.machine.state.idle rfl)]
    exact abreast_next similar indirect h

end PutsOff

/-- In the course of a session no subscriber is ever registered that is called at once. -/
def Indirect (p : Program H σ ε) (c : Session H σ ε) : Prop :=
  ∀ n x, (c.after p n).Lists x → x.executor ≠ .direct

/-- Subscribers that are not called at once remain so. -/
lemma Indirect.iterate {p : Program H σ ε} {c : Session H σ ε} (h : Indirect p c) (j : Nat) :
    Indirect p ((next p)^[j] c) := by
  intro n x listed
  apply h (n + j) x
  rwa [after, Function.iterate_add_apply]

/-- A session that has come to rest after `N` steps has been seen whole by then. -/
lemma indirect_of_rest {p : Program H σ ε} {c : Session H σ ε} {N : Nat}
    (rest : next p ((next p)^[N] c) = (next p)^[N] c)
    (seen : ∀ n ≤ N, ∀ x ∈ (c.after p n).listed, x.executor ≠ .direct) : Indirect p c := by
  intro n x lists
  obtain before | later := Nat.le_total n N
  · exact seen n before x lists.mem_listed
  · have still : c.after p n = c.after p N := by
      obtain ⟨k, rfl⟩ := Nat.exists_eq_add_of_le' later
      rw [after, after, Function.iterate_add_apply, Function.iterate_fixed rest]
    rw [still] at lists
    exact seen N le_rfl x lists.mem_listed

/-- In a session in which no subscriber is called at once, and every delivery is put off to the pool
or the backlog, it makes no difference whether dispatchers queue events or drive them at once:
handlers are invoked, errors reported, dead events made and all else done in the same order, with
the same registrations at every turn. -/
theorem queued_as_immediate {p p' : Program H σ ε} (similar : Pairing.atOnce.Similar p p')
    {hierarchy : Hierarchy} {user : σ} {script script' : Script H σ ε}
    (same : Pairing.atOnce.Matches script script') {tasks tasks' : List (Task H σ ε)}
    (rest : List.Forall₂ Pairing.atOnce.LikeTask tasks tasks')
    (indirect : Indirect p (start (.initial hierarchy user) script tasks)) :
    (∀ n, ∃ k, SameOutwardly ((start (.initial hierarchy user) script tasks).after p n)
      ((start (.initial hierarchy user) script' tasks').after p' k)) ∧
    ∀ k, ∃ n, SameOutwardly ((start (.initial hierarchy user) script tasks).after p n)
      ((start (.initial hierarchy user) script' tasks').after p' k) := by
  have alike : Pairing.atOnce.Alike (.initial hierarchy user : State H σ ε)
      (.initial hierarchy user) := .initial hierarchy rfl
  have abreast : PutsOff (start (.initial hierarchy user) script tasks)
      (start (.initial hierarchy user) script' tasks') := .abreast ⟨alike.start same, rest⟩
  have both := And.intro indirect abreast
  constructor
  · intro n
    obtain ⟨k, _, h⟩ := iterate_forth (R := fun c c' => Indirect p c ∧ PutsOff c c')
      (fun c c' h => by
        have forth := h.2.forth similar (h.1 0)
        exact forth.imp (⟨h.1.iterate 1, ·⟩) (⟨h.1.iterate 1, ·⟩)) both n
    exact ⟨k, h.sameOutwardly⟩
  · intro k
    obtain ⟨n, _, h⟩ := iterate_back (R := fun c c' => Indirect p c ∧ PutsOff c c')
      (fun c c' h => by
        obtain ⟨j, back⟩ := h.2.back similar (h.1 0)
        exact ⟨j, h.1.iterate j, back⟩) both k
    exact ⟨n, h.sameOutwardly⟩

namespace Relay

/-- A handler that answers a first note with a second one and with an error. -/
def program : Program Unit Unit Unit := Machine.Echo.program Machine.Echo.alarm

def script (order : Nat → DispatchOrder) : Script Unit Unit Unit :=
  .newDispatcher fun d =>
  .build ⟨"bus", .pool, .plain (order d), .log⟩ fun b =>
  .register b.id ⟨1, "Listener", "listener"⟩
    [Machine.Echo.binding "on_note", Machine.Echo.binding "on_any_note"] fun _ =>
  .post b.id (Machine.Echo.note "first") false (.finish (.ok ()))

def session (order : Nat → DispatchOrder) : Session Unit Unit Unit :=
  start (.initial .empty ()) (script order) [.pool]

/-- The program does the same on both sides. -/
lemma similar : Pairing.atOnce.Similar program program where
  handle _ e := by
    unfold program Machine.Echo.program
    dsimp only
    split
    · exact .post (.finish (.inl rfl))
    · exact .panic
  report _ _ _ := .finish (.inl rfl)

/-- So do the scripts. -/
lemma script_matches :
    Pairing.atOnce.Matches (script .queued) (script fun _ => .immediate) :=
  .newDispatcher fun _ => .build fun _ => .register fun _ => .post (.finish (.inl rfl))

/-- The session has no subscriber that is called at once. -/
lemma indirect : Indirect program (session .queued) := by
  have seen : ((List.range 48).all fun n =>
      ((session .queued).after program n).listed.all (·.executor != .direct)) = true := by cbv
  apply indirect_of_rest (N := 47)
  · cbv
  · intro n le x mem
    have all := List.all_eq_true.1 (List.all_eq_true.1 seen n (List.mem_range.2 (by omega))) x mem
    simpa using all

end Relay

/-- On queued dispatchers the pool invokes handlers six times, four of which panic, and so it does
on immediate ones. -/
theorem relay_queued_as_immediate :
    (invocationsOf (((Relay.session .queued).after Relay.program 47).trace.toList)).length = 6 ∧
    ∀ n, ∃ k, SameOutwardly ((Relay.session .queued).after Relay.program n)
      ((Relay.session fun _ => .immediate).after Relay.program k) := by
  have same := queued_as_immediate Relay.similar Relay.script_matches (.cons .pool .nil)
    Relay.indirect
  exact ⟨by cbv, same.1⟩

end Session

end EventBus
