import EventBus.Proofs.Routing.Turnover

/-!
# Locks

A handler that is not marked concurrent is called from inside a lock that belongs to its subscriber.
`Machine.underway` tells which handlers are running on a machine and on which threads; a step leaves
them alone, enters one, through its lock, or leaves the innermost one (`step_passage`). So a lock
that is taken is held by one thread, once for each of the handlers it was taken for
(`Reachable.guards`), and a subscriber is never called on two threads at a time
(`serial_by_subscriber`).
-/

namespace EventBus

variable {H σ ε : Type}

/-- The handlers that are running, innermost first, where the stack is gone on with on a thread. A
thread that waits for another one is further down. -/
def underwayOn : Nat → List (Frame H σ ε) → List (Nat × Event × Subscriber H)
  | _, [] => []
  | t, .handling e x :: fs => (t, e, x) :: underwayOn t fs
  | _, .join waiting :: fs => underwayOn waiting fs
  | t, _ :: fs => underwayOn t fs

/-- Whether a subscriber is called from inside a lock. -/
def Subscriber.guardedBy (x : Subscriber H) (lock : LockKey) : Bool :=
  !x.concurrent && x.lock = lock

/-- The threads of the running handlers that hold a lock, innermost first. -/
def holders (lock : LockKey) (us : List (Nat × Event × Subscriber H)) : List Nat :=
  (us.filter fun u => u.2.2.guardedBy lock).map (·.1)

/-- One more delivery holds its own lock. -/
lemma holders_cons (lock : LockKey) (t : Nat) (e : Event) (x : Subscriber H)
    (us : List (Nat × Event × Subscriber H)) :
    holders lock ((t, e, x) :: us) =
      if x.guardedBy lock then t :: holders lock us else holders lock us := by
  rw [holders, List.filter_cons]
  split <;> rfl

section Cons

variable {lock : LockKey} {t : Nat} {e : Event} {x : Subscriber H}
  {us : List (Nat × Event × Subscriber H)}

/-- A concurrent one holds none. -/
lemma holders_of_concurrent (concurrent : x.concurrent) :
    holders lock ((t, e, x) :: us) = holders lock us := by
  rw [holders_cons, if_neg (by simp [Subscriber.guardedBy, concurrent])]

/-- None but its own. -/
lemma holders_of_ne (other : lock ≠ x.lock) :
    holders lock ((t, e, x) :: us) = holders lock us := by
  rw [holders_cons, if_neg (by simp [Subscriber.guardedBy, other.symm])]

/-- A serial one holds its own once more. -/
lemma holders_of_lock (serial : x.concurrent = false) :
    holders x.lock ((t, e, x) :: us) = t :: holders x.lock us := by
  rw [holders_cons, if_pos (by simp [Subscriber.guardedBy, serial])]

end Cons

/-- Whoever runs a serial subscriber holds its lock. -/
lemma mem_holders {t : Nat} {e : Event} {x : Subscriber H} {us : List (Nat × Event × Subscriber H)}
    (mem : (t, e, x) ∈ us) (serial : x.concurrent = false) : t ∈ holders x.lock us := by
  have guarded : x.guardedBy x.lock := by simp [Subscriber.guardedBy, serial]
  exact List.mem_map.2 ⟨(t, e, x), List.mem_filter.2 ⟨mem, guarded⟩, rfl⟩

/-- The locks are taken by the handlers that are running: each by one thread, as often as it has
entered a handler through it. -/
structure State.Guards (s : State H σ ε) (us : List (Nat × Event × Subscriber H)) : Prop where
  free : ∀ {lock}, s.locks.get? lock = none → holders lock us = []
  held : ∀ {lock held}, s.locks.get? lock = some held →
    0 < held.depth ∧ holders lock us = List.replicate held.depth held.thread

namespace State.Guards

variable {s s' : State H σ ε} {us us' : List (Nat × Event × Subscriber H)} {t : Nat} {e : Event}
  {x : Subscriber H}

/-- The guards depend on the locks alone. -/
lemma congr (h : s.Guards us) (locks : s'.locks = s.locks) : s'.Guards us := by
  constructor
  · intro lock free
    rw [locks] at free
    exact h.free free
  · intro lock held found
    rw [locks] at found
    exact h.held found

/-- And on who holds them. -/
lemma of_holders (h : s.Guards us) (same : ∀ lock, holders lock us' = holders lock us) :
    s.Guards us' := by
  constructor
  · intro lock free
    rw [same]
    exact h.free free
  · intro lock held found
    rw [same]
    exact h.held found

/-- Only the lock that is taken or freed matters. -/
lemma set (h : s.Guards us) {lock : LockKey} {held : Holding}
    (locks : s'.locks = s.locks.set lock held) (some : 0 < held.depth)
    (mine : holders lock us' = List.replicate held.depth held.thread)
    (others : ∀ k, k ≠ lock → holders k us' = holders k us) : s'.Guards us' := by
  constructor
  · intro k free
    rw [locks, Table.get?_set] at free
    split at free
    · cases free
    · rename_i other
      rw [others k (Ne.symm other)]
      exact h.free free
  · intro k held' found
    rw [locks, Table.get?_set] at found
    split at found
    · rename_i same
      subst same
      cases found
      exact ⟨some, mine⟩
    · rename_i other
      rw [others k (Ne.symm other)]
      exact h.held found

/-- A lock that nobody holds may be given up. -/
lemma erase (h : s.Guards us) {lock : LockKey} (locks : s'.locks = s.locks.erase lock)
    (none : holders lock us' = []) (others : ∀ k, k ≠ lock → holders k us' = holders k us) :
    s'.Guards us' := by
  constructor
  · intro k free
    rw [locks, Table.get?_erase] at free
    split at free
    · rename_i same
      rw [← same]
      exact none
    · rename_i other
      rw [others k (Ne.symm other)]
      exact h.free free
  · intro k held found
    rw [locks, Table.get?_erase] at found
    split at found
    · cases found
    · rename_i other
      rw [others k (Ne.symm other)]
      exact h.held found

/-- A thread that is not locked out enters a handler. -/
lemma enter (h : s.Guards us) (e : Event) (enters : x.concurrent ∨ s.lockedOut t x.lock = false) :
    (s.enter t x).Guards ((t, e, x) :: us) := by
  unfold State.enter
  split
  · rename_i concurrent
    exact h.of_holders fun _ => holders_of_concurrent concurrent
  · rename_i serial
    have serial : x.concurrent = false := Bool.eq_false_of_not_eq_true serial
    have admitted := enters.resolve_left (by simp [serial])
    have others (k : LockKey) (other : k ≠ x.lock) :
        holders k ((t, e, x) :: us) = holders k us := holders_of_ne other
    split
    · rename_i held found
      obtain ⟨some, mine⟩ := h.held found
      rw [lockedOut, found] at admitted
      have mine' : holders x.lock ((t, e, x) :: us) =
          List.replicate (held.depth + 1) held.thread := by
        rw [holders_of_lock serial, mine, List.replicate_succ, bne_eq_false_iff_eq.1 admitted]
      exact h.set rfl (Nat.succ_pos _) mine' others
    · rename_i free
      have mine : holders x.lock ((t, e, x) :: us) = List.replicate 1 t := by
        rw [holders_of_lock serial, h.free free]
        rfl
      exact h.set rfl Nat.one_pos mine others

/-- The innermost handler is left. -/
lemma leave (h : s.Guards ((t, e, x) :: us)) : (s.leave x).Guards us := by
  unfold State.leave
  split
  · rename_i concurrent
    exact h.of_holders fun _ => (holders_of_concurrent concurrent).symm
  · rename_i serial
    have serial : x.concurrent = false := Bool.eq_false_of_not_eq_true serial
    have others (k : LockKey) (other : k ≠ x.lock) :
        holders k us = holders k ((t, e, x) :: us) := (holders_of_ne other).symm
    split
    · rename_i u depth found
      obtain ⟨_, mine⟩ := h.held found
      rw [holders_of_lock serial, List.replicate_succ] at mine
      exact h.set rfl (Nat.succ_pos depth) (List.cons.inj mine).2 others
    · rename_i last
      refine h.erase rfl ?_ others
      -- The handler was the only one that held the lock.
      cases found : s.locks.get? x.lock with
      | none =>
        have none := h.free found
        rw [holders_of_lock serial] at none
        cases none
      | some held =>
        obtain ⟨u, depth⟩ := held
        obtain ⟨_, mine⟩ := h.held found
        rw [holders_of_lock serial] at mine
        cases depth with
        | zero => cases mine
        | succ depth =>
          cases depth with
          | zero => exact (List.cons.inj mine).2
          | succ depth => exact absurd found (last u depth)

end State.Guards

namespace Machine

/-- The handlers that are running on a machine, with their threads, innermost first. -/
def underway (m : Machine H σ ε) : List (Nat × Event × Subscriber H) :=
  underwayOn m.thread m.stack

/-- What a step does to the handlers that are running, and to the locks. -/
inductive Passage (m m' : Machine H σ ε) : Prop where
  | stays (locks : m'.state.locks = m.state.locks) (same : m'.underway = m.underway) :
    Passage m m'
  | enters {e x} (enters : x.concurrent ∨ m.state.lockedOut m.thread x.lock = false)
      (locks : m'.state.locks = (m.state.enter m.thread x).locks)
      (more : m'.underway = (m.thread, e, x) :: m.underway) :
    Passage m m'
  | leaves {e x} (locks : m'.state.locks = (m.state.leave x).locks)
      (before : m.underway = (m.thread, e, x) :: m'.underway) :
    Passage m m'

variable {p : Program H σ ε} {m m' : Machine H σ ε}

/-- A queue that is given up keeps its locks. -/
lemma closeQueue_locks (s : State H σ ε) (key : Nat × Nat) :
    (s.closeQueue key).locks = s.locks := by
  unfold State.closeQueue
  dsimp only
  split <;> rfl

/-- A post stops before anybody is called. -/
lemma post_underway (m : Machine H σ ε) (bus : Nat) (e : Event) :
    (m.post bus e).underway = m.underway := by
  have thread := (post_back m bus e).1
  unfold underway
  rw [thread]
  exact (routed_post m bus e).read_stack (fun _ _ _ _ _ => rfl) (fun _ _ _ => rfl)

/-- A handler is called from outside its lock, or on the thread that is inside. -/
lemma invoke_passage {n : Machine H σ ε} {e : Event} {x : Subscriber H}
    (st : invoke p n e x = .going m') (thread : n.thread = m.thread)
    (locks : n.state.locks = m.state.locks) (same : n.underway = m.underway) : Passage m m' := by
  unfold invoke at st
  split at st
  · cases st
  · rename_i admitted
    cases st
    have lockedOut : n.state.lockedOut n.thread x.lock = m.state.lockedOut m.thread x.lock := by
      rw [State.lockedOut, State.lockedOut, locks, thread]
    refine .enters (e := e) (x := x) ?_ ?_ ?_
    · rw [lockedOut] at admitted
      cases concurrent : x.concurrent with
      | true => exact .inl rfl
      | false => simpa [concurrent] using admitted
    · show (n.state.enter n.thread x).locks = _
      unfold State.enter
      rw [locks, thread]
      split
      · exact locks
      · split <;> rfl
    · show (n.thread, e, x) :: n.underway = _
      rw [thread, same]

/-- Every step stays inside the handlers that are running, enters one or leaves the innermost one.
-/
theorem step_passage (st : step p m = .going m') : Passage m m' := by
  have stays (locks : m'.state.locks = m.state.locks) (thread : m'.thread = m.thread)
      (stack : underwayOn m.thread m'.stack = underwayOn m.thread m.stack) : Passage m m' :=
    .stays locks (by rw [underway, thread, stack]; rfl)
  have top {f : Frame H σ ε} {base : List (Frame H σ ε)} (stack : m.stack = f :: base) :
      m.underway = underwayOn m.thread (f :: base) := by rw [underway, stack]
  cases step_turn st with
  | acts _ acts => exact stays acts.apart.1 rfl rfl
  | panics | idles => exact stays rfl rfl rfl
  | @posts bus e elsewhere next _ =>
    obtain ⟨buses, queues, trace, same⟩ := post_state (m.putAside next elsewhere) bus e
    refine .stays ?_ ((post_underway ..).trans ?_)
    · rw [same]
      cases elsewhere <;> rfl
    · cases elsewhere <;> rfl
  | runsBacklog => exact stays rfl rfl rfl
  | delivered _ stack => exact .leaves rfl (top stack)
  | @fails failure e x rest fails =>
    have locks : (report p m (m.state.leave x) rest failure e x).state.locks =
        (m.state.leave x).locks := by
      unfold report
      cases x.desk.policy <;> rfl
    have same : (report p m (m.state.leave x) rest failure e x).underway =
        underwayOn m.thread rest := by
      unfold report
      cases x.desk.policy <;> rfl
    refine .leaves (e := e) locks ?_
    rw [same]
    exact top fails.stack
  | @reported result _ _ _ _ stack =>
    cases result <;> exact stays rfl rfl (by rw [stack]; rfl)
  | resumes _ stack | delivers _ stack | ran _ stack | rests _ stack | catches _ stack =>
    exact stays rfl rfl (by rw [stack]; rfl)
  | defers _ stack _ | handsOff _ stack _ => exact stays rfl rfl (by rw [stack]; rfl)
  | @fetches _ _ s _ _ _ stack dequeued =>
    obtain ⟨q, draining, _, rfl⟩ := dequeue_eq_some dequeued
    exact stays rfl rfl rfl
  | closes _ stack _ | breaks _ stack =>
    exact stays (closeQueue_locks ..) rfl (by rw [stack]; rfl)
  | joins stack => exact .stays rfl (top stack).symm
  | survives => exact stays rfl rfl rfl
  | leaves _ stack => exact .leaves rfl (top stack)
  | @drops _ f base _ stack lost =>
    refine stays rfl rfl ?_
    rw [stack]
    cases f <;> first | rfl | cases lost
  | calls control stack direct =>
    rw [step, control] at st
    simp only [goBack, stack, deliver, direct] at st
    exact invoke_passage st rfl rfl (top stack).symm
  | @takes limit newestFirst done next s w base control stack taken =>
    rw [step, control] at st
    simp only [goBack, stack] at st
    split at st
    · rename_i s' w' taken'
      have taken' : m.state.takeBacklog newestFirst = some (s', w') := by
        revert taken'
        split <;> simp
      obtain ⟨_, fewer, _, rfl⟩ := takeBacklog_eq_some taken'
      exact invoke_passage st rfl rfl (top stack).symm
    · -- The stack of a machine that is inside a handler is longer.
      have height := congrArg (fun m => m.stack.length) (Progress.going.inj st)
      simp only [Machine.inside, List.length_cons] at height
      omega
  | @pools s w base control stack taken =>
    rw [step, control] at st
    simp only [goBack, stack, taken] at st
    obtain ⟨fewer, _, rfl⟩ := takePool_eq_some taken
    exact invoke_passage st rfl rfl (top stack).symm

/-- A passage keeps the guards. -/
lemma Passage.guards (passage : Passage m m') (h : m.state.Guards m.underway) :
    m'.state.Guards m'.underway := by
  cases passage with
  | stays locks same =>
    rw [same]
    exact h.congr locks
  | @enters e x enters locks more =>
    rw [more]
    exact (h.enter e enters).congr locks
  | leaves locks before =>
    rw [before] at h
    exact h.leave.congr locks

/-- In every run, the locks are taken by the handlers that are running. -/
theorem Reachable.guards (reach : Reachable p m) : m.state.Guards m.underway := by
  -- Nothing is running on a machine that has come to an end.
  have idle {m : Machine H σ ε} (h : m.state.Guards m.underway) (stack : m.stack = []) :
      m.state.Guards [] := by
    rwa [underway, stack] at h
  induction reach with
  | first => exact ⟨fun _ => rfl, by rintro lock held ⟨⟩⟩
  | step _ st ih => exact (step_passage st).guards ih
  | next user trace script _ st ih =>
    obtain ⟨stack, rfl⟩ := stack_of_ended st
    exact (idle ih stack).congr rfl
  | pool _ st ih =>
    obtain ⟨stack, rfl⟩ := stack_of_ended st
    have guards := idle ih stack
    exact guards

end Machine

/-- A subscriber is subscribed: the bus that it was registered on has it for its type. -/
def State.Subscribed (s : State H σ ε) (x : Subscriber H) : Prop :=
  ∃ b, s.buses.get? x.desk.bus.id = some b ∧ x ∈ b.registry.subscribersFor x.eventType

namespace Machine

variable {p : Program H σ ε} {m m' : Machine H σ ε}

/-- Of the subscribers of a bus for a type, at most one is a given handler. -/
lemma eq_of_subscribed (reach : Reachable p m) {x y : Subscriber H} (same : x.same y)
    (bus : x.desk.bus.id = y.desk.bus.id) (type : x.eventType = y.eventType)
    (subscribed : m.state.Subscribed x) (subscribed' : m.state.Subscribed y) : x = y := by
  obtain ⟨b, found, mem⟩ := subscribed
  obtain ⟨b', found', mem'⟩ := subscribed'
  rw [bus] at found
  cases found.symm.trans found'
  rw [type] at mem
  apply List.inj_on_of_nodup_map ((reach.registry found').orderly.distinct _) mem mem'
  rw [Subscriber.same, Subscriber.isFor, Bool.and_eq_true, beq_iff_eq, beq_iff_eq] at same
  rw [Subscriber.subscription, Subscriber.subscription, type, same.1, same.2]

/-- In every run, whatever handlers register and unregister and however posts from fresh threads are
nested, a subscriber that is not marked concurrent is called on one thread at a time. So when two
threads are inside handlers of one name of one listener, neither of which is marked concurrent, these
are two subscribers: on different buses, for different types, or with one of them unregistered by
now. -/
theorem serial_by_subscriber (reach : Reachable p m) {t u : Nat} {e f : Event} {x y : Subscriber H}
    (inside : (t, e, x) ∈ m.underway) (inside' : (u, f, y) ∈ m.underway)
    (serial : x.concurrent = false) (serial' : y.concurrent = false) :
    (x.lock = y.lock → t = u) ∧
    (t ≠ u → x.same y →
      x.desk.bus.id ≠ y.desk.bus.id ∨ x.eventType ≠ y.eventType ∨
        ¬m.state.Subscribed x ∨ ¬m.state.Subscribed y) := by
  have one : x.lock = y.lock → t = u := by
    intro lock
    have guards := reach.guards
    have holds := mem_holders inside serial
    have holds' := mem_holders inside' serial'
    rw [lock] at holds
    cases found : m.state.locks.get? y.lock with
    | none =>
      rw [guards.free found] at holds
      cases holds
    | some held =>
      obtain ⟨_, all⟩ := guards.held found
      rw [all] at holds holds'
      exact (List.eq_of_mem_replicate holds).trans (List.eq_of_mem_replicate holds').symm
  refine ⟨one, ?_⟩
  intro other same
  by_contra all
  simp only [not_or, not_not] at all
  obtain ⟨bus, type, subscribed, subscribed'⟩ := all
  have equal := eq_of_subscribed reach same bus type subscribed subscribed'
  exact other (one (congrArg _ equal))

namespace Overlap

def listener : Target := ⟨1, "Listener", "listener"⟩

def on (type : EventType) : Binding Unit := ⟨"on_note", type, .whole, false, none, ()⟩

def bindings : List (Binding Unit) := [on ⟨"Note"⟩, on ⟨"Memo"⟩]

def note (tag : String) : Event := .free ⟨"Note"⟩ "Note" tag [] []

def memo : Event := .free ⟨"Memo"⟩ "Memo" "memo" [] []

/-- A handler that is given a first note has its listener registered anew and posts a second one from
a fresh thread; given that, it posts a memo from another one. -/
def program : Program Unit Unit Unit where
  handle _ e :=
    match e with
    | .free _ _ "first" _ _ =>
      .unregister 1 listener bindings fun _ => .register 1 listener bindings fun _ =>
      .post 1 (note "second") true (.finish (.ok ()))
    | .free _ _ "second" _ _ => .post 1 memo true (.finish (.ok ()))
    | _ => .finish (.ok ())
  report _ _ _ := .finish (.ok ())

def script : Script Unit Unit Unit :=
  .build ⟨"bus", .direct, .plain .immediate, .log⟩ fun b =>
  .register b.id listener bindings fun _ =>
  .post b.id (note "first") false (.finish (.ok ()))

def machine (n : Nat) : Machine Unit Unit Unit :=
  after program (start (.initial .empty ()) script) n

/-- What a registration makes of the binding for a type. -/
def subscriber (type : EventType) (serial : Nat) : Subscriber Unit :=
  ⟨listener, "on_note", type, .whole, false, .direct, (), ⟨⟨1, "bus"⟩, .log⟩, ⟨1, serial⟩⟩

def first : Subscriber Unit := subscriber ⟨"Note"⟩ 0

def second : Subscriber Unit := subscriber ⟨"Note"⟩ 2

def third : Subscriber Unit := subscriber ⟨"Memo"⟩ 3

end Overlap

/-- Three threads are inside handlers of one name of one listener that are not marked concurrent: the
one that was registered at first, the one that took its place, and the one for memos. -/
theorem overlap_runs :
    Reachable Overlap.program (Overlap.machine 10) ∧
    (Overlap.machine 10).underway =
      [(3, Overlap.memo, Overlap.third), (2, Overlap.note "second", Overlap.second),
        (0, Overlap.note "first", Overlap.first)] ∧
    Overlap.first.same Overlap.second ∧ Overlap.second.same Overlap.third ∧
    Overlap.first.concurrent = false ∧ Overlap.second.concurrent = false ∧
    Overlap.third.concurrent = false :=
  ⟨Reachable.after (.first ..) 10, by cbv, by decide, by decide, rfl, rfl, rfl⟩

/-- The first two are registered for the same type on the same bus; one of them is no longer. -/
theorem overlap_unsubscribed :
    Overlap.first.lock ≠ Overlap.second.lock ∧
    (¬(Overlap.machine 10).state.Subscribed Overlap.first ∨
      ¬(Overlap.machine 10).state.Subscribed Overlap.second) := by
  have reach : Reachable Overlap.program (Overlap.machine 10) := Reachable.after (.first ..) 10
  have running : (Overlap.machine 10).underway =
      [(3, Overlap.memo, Overlap.third), (2, Overlap.note "second", Overlap.second),
        (0, Overlap.note "first", Overlap.first)] := by cbv
  have first : (0, Overlap.note "first", Overlap.first) ∈ (Overlap.machine 10).underway := by
    rw [running]
    exact .tail _ (.tail _ (.head _))
  have second : (2, Overlap.note "second", Overlap.second) ∈ (Overlap.machine 10).underway := by
    rw [running]
    exact .tail _ (.head _)
  obtain ⟨one, apart⟩ := serial_by_subscriber reach first second rfl rfl
  refine ⟨fun lock => absurd (one lock) (by decide), ?_⟩
  obtain bus | type | left := apart (by decide) (by decide)
  · exact absurd rfl bus
  · exact absurd rfl type
  · exact left

end Machine

end EventBus
