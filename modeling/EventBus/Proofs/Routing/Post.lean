import EventBus.Proofs.Machine.Turn
import EventBus.Proofs.Queue.Panic

/-!
# The course of a post

What a bus does with an event that is posted on it. `post_course` says that a post comes to one of
four ends: the event is given to the dispatcher, or a dead event around it is, or one of the two is
dropped. `post_routes` draws the conclusions for whole runs: a post wraps its event once at most,
only where nobody listens to it, and never one that is a dead event already.
-/

namespace EventBus

variable {H σ ε : Type}

namespace Registry

variable (r : Registry H) (h : Hierarchy) (t u : EventType)

/-- What is remembered of one type agrees with the closure of every type. -/
lemma closureOf_remember : (r.remember h t).closureOf h u = r.closureOf h u := by
  unfold remember
  split
  · rfl
  · rename_i none
    rw [closureOf, closureOf, Table.get?_set]
    split
    · rename_i same
      rw [← same, none]
      rfl
    · rfl

/-- A closure that is kept changes no look-up. -/
lemma resolve_remember : (r.remember h t).resolve h u = r.resolve h u := by
  have same : (r.remember h t).subscribersFor = r.subscribersFor := by
    unfold remember
    split <;> rfl
  rw [resolve, resolve, closureOf_remember, same]

end Registry

/-- Whoever is kept was there. -/
lemma mem_of_mem_keepFirst {x : Subscriber H} {xs : List (Subscriber H)} (mem : x ∈ keepFirst xs) :
    x ∈ xs := by
  induction xs with
  | nil => exact mem
  | cons y ys ih =>
    obtain rfl | mem := List.mem_cons.1 mem
    · exact List.mem_cons_self
    · exact List.mem_cons_of_mem _ (ih (List.mem_filter.1 mem).1)

/-- No arrangement adds a subscriber. -/
lemma Arrangement.mem_of_apply {a : Arrangement} {xs ys : List (Subscriber H)}
    (arranged : a.apply xs = some ys) {x : Subscriber H} (mem : x ∈ ys) : x ∈ xs := by
  cases a with
  | plain => cases arranged; exact mem
  | record => cases arranged; exact mem
  | reverse => cases arranged; exact List.mem_reverse.1 mem
  | unique => cases arranged; exact mem_of_mem_keepFirst mem
  | drop => cases arranged

namespace Occurrence

/-- Whether an occurrence tells what a bus does about an event posted on it or about an error. -/
def isDecision : Occurrence H ε → Bool
  | resolved _ _ _ | routed _ _ _ | died _ _ | dropped _ _ | dispatched _ _ _ _
  | reported _ _ => true
  | _ => false

def isResolution : Occurrence H ε → Bool
  | resolved _ _ _ => true
  | _ => false

/-- Whether an occurrence is noted in passing, and tells nothing of what becomes of an event. -/
def isRoutine : Occurrence H ε → Bool
  | built _ _ _ | considered _ _ _ | registered _ _ _ | removed _ | unregistered _ _ _
  | closureKept _ _ | sighted _ _ | queued _ | interrupted _ | noted _ => true
  | _ => false

/-- What is routine is no decision. -/
lemma not_isDecision_of_isRoutine {o : Occurrence H ε} (routine : o.isRoutine) :
    o.isDecision = false := by
  cases o <;> first | rfl | cases routine

end Occurrence

/-- What a dispatcher passes on of an event on a thread. -/
def Dispatcher.passesOn (d : Dispatcher) (t : Nat) (e : Event) (xs : List (Subscriber H)) :
    List (Occurrence H ε) :=
  match d.arrangement.apply xs with
  | none => []
  | some arranged => [.dispatched t d.order e arranged]

/-- What a dispatcher tells of passing on an event is its arranged dispatch and nothing else. -/
lemma Dispatcher.mem_passesOn {d : Dispatcher} {t : Nat} {e : Event} {xs : List (Subscriber H)}
    {o : Occurrence H ε} : o ∈ d.passesOn t e xs ↔
      ∃ ys, d.arrangement.apply xs = some ys ∧ o = .dispatched t d.order e ys := by
  unfold passesOn
  cases d.arrangement.apply xs <;> simp

namespace State

/-- Between two states the trace grew, and `os` are the decisions in what was added. -/
abbrev Decides (s s' : State H σ ε) (os : List (Occurrence H ε)) : Prop :=
  Adds (·.isDecision) s s' os

variable (s : State H σ ε) (b : Bus H) (t : EventType)

/-- A look-up decides one thing, whom it lists. -/
lemma decides_resolve : s.Decides (s.resolve b t).1
    [.resolved b.handle t (b.registry.resolve s.hierarchy t)] := by
  have kept : s.Decides s [] := .of_eq rfl
  unfold resolve
  cases b.registry.closures.get? t with
  | some _ => exact kept.emit (.resolved ..)
  | none =>
    have set : s.Decides (s.setBus { b with registry := b.registry.remember s.hierarchy t }) [] :=
      .of_eq rfl
    exact (set.emit (.closureKept ..)).emit (.resolved ..)

/-- It leaves the declarations of types as they are. -/
lemma hierarchy_resolve : (s.resolve b t).1.hierarchy = s.hierarchy := by
  unfold resolve
  cases b.registry.closures.get? t <;> rfl

/-- A bus that has looked up subscribers is the same bus, and goes on to list the same ones. -/
lemma bus_resolve {bus : Nat} (found : s.buses.get? bus = some b) :
    ∃ r, (s.resolve b t).1.buses.get? bus = some { b with registry := r } ∧
      ∀ u, r.resolve s.hierarchy u = b.registry.resolve s.hierarchy u := by
  unfold resolve
  cases b.registry.closures.get? t with
  | some _ => exact ⟨b.registry, found, fun _ => rfl⟩
  | none =>
    show ∃ r, (s.buses.set _ _).get? bus = _ ∧ _
    rw [Table.get?_set]
    split
    · exact ⟨_, rfl, fun u => b.registry.resolve_remember ..⟩
    · exact ⟨b.registry, found, fun _ => rfl⟩

/-- The state after a bus has found nobody for an event, and has looked up who listens to dead
events instead. -/
def mourned (bus : Nat) (e : Event) : State H σ ε :=
  let s := (s.resolve b e.type).1.emit (.died b.handle e)
  (s.resolve ((s.buses.get? bus).getD b) .deadEvent).1

/-- A post that nobody hears decides three things: two look-ups and a death. -/
lemma decides_mourned {bus : Nat} (found : s.buses.get? bus = some b) (e : Event) :
    s.Decides (s.mourned b bus e)
      [.resolved b.handle e.type (b.registry.resolve s.hierarchy e.type), .died b.handle e,
        .resolved b.handle .deadEvent (b.registry.resolve s.hierarchy .deadEvent)] := by
  obtain ⟨r, same, listed⟩ := s.bus_resolve b e.type found
  have again := decides_resolve ((s.resolve b e.type).1.emit (.died b.handle e))
    { b with registry := r } .deadEvent
  rw [show ((s.resolve b e.type).1.emit (.died b.handle e)).hierarchy = s.hierarchy from
    s.hierarchy_resolve b e.type, listed] at again
  have all := ((s.decides_resolve b e.type).emit (.died b.handle e)).trans again
  unfold mourned
  dsimp only
  rw [show ((s.resolve b e.type).1.emit (.died b.handle e)).buses =
    (s.resolve b e.type).1.buses from rfl, same, Option.getD_some]
  exact all

end State

namespace Machine

/-- What becomes of an event that is posted on a bus. -/
inductive Course (m : Machine H σ ε) (bus : Nat) (b : Bus H) (e : Event) :
    Machine H σ ε → Prop where
  /-- Somebody listens to it. -/
  | heard {xs} (listed : b.registry.resolve m.state.hierarchy e.type = xs) (some : xs ≠ []) :
    Course m bus b e (m.dispatch ((m.state.resolve b e.type).1.emit (.routed b.handle e xs))
      b.dispatcher e xs)
  /-- It is a dead event that nobody listens to. -/
  | dropped (none : b.registry.resolve m.state.hierarchy e.type = []) (dead : e.type = .deadEvent) :
    Course m bus b e (m.returning ((m.state.resolve b e.type).1.emit (.dropped b.handle e)))
  /-- Nobody listens to it, but somebody does to dead events. -/
  | mourned {xs} (none : b.registry.resolve m.state.hierarchy e.type = [])
      (alive : e.type ≠ .deadEvent)
      (listed : b.registry.resolve m.state.hierarchy .deadEvent = xs) (some : xs ≠ []) :
    Course m bus b e (m.dispatch
      ((m.state.mourned b bus e).emit (.routed b.handle (.dead b.handle e e.type) xs))
      b.dispatcher (.dead b.handle e e.type) xs)
  /-- Nobody listens to it, nor to dead events. -/
  | forgotten (none : b.registry.resolve m.state.hierarchy e.type = [])
      (alive : e.type ≠ .deadEvent) (none' : b.registry.resolve m.state.hierarchy .deadEvent = []) :
    Course m bus b e (m.returning
      ((m.state.mourned b bus e).emit (.dropped b.handle (.dead b.handle e e.type))))

variable {p : Program H σ ε} {m m' : Machine H σ ε} {bus : Nat} {b : Bus H}

/-- The second look-up of such a post lists the subscribers of dead events. -/
lemma mourned_listed (found : m.state.buses.get? bus = some b) (e : Event) {s : State H σ ε}
    {xs : List (Subscriber H)}
    (again : ((m.state.resolve b e.type).1.emit (.died b.handle e)).resolve
      ((((m.state.resolve b e.type).1.emit (.died b.handle e)).buses.get? bus).getD b)
      .deadEvent = (s, xs)) :
    s = m.state.mourned b bus e ∧ b.registry.resolve m.state.hierarchy .deadEvent = xs := by
  constructor
  · exact (congrArg Prod.fst again).symm
  · obtain ⟨r, same, listed⟩ := m.state.bus_resolve b e.type found
    have listed' : (((m.state.resolve b e.type).1.buses.get? bus).getD b).registry.resolve
        (m.state.resolve b e.type).1.hierarchy .deadEvent = xs := congrArg Prod.snd again
    rwa [same, Option.getD_some, m.state.hierarchy_resolve, listed] at listed'

section Routine

variable {keep : Occurrence H ε → Bool}

/-- The end of a call adds nothing to any account. -/
lemma adds_leave (s : State H σ ε) (x : Subscriber H) : State.Adds keep s (s.leave x) [] := by
  obtain ⟨locks, same⟩ := s.leave_state x
  rw [same]
  exact .of_eq rfl

/-- Nor does its beginning. -/
lemma adds_enter (s : State H σ ε) (t : Nat) (x : Subscriber H) :
    State.Adds keep s (s.enter t x) [] := by
  obtain ⟨locks, same⟩ := s.enter_state t x
  rw [same]
  exact .of_eq rfl

variable (routine : ∀ o, o.isRoutine → keep o = false)
include routine

/-- Nor does an entry in a queue. -/
lemma adds_enqueue (s : State H σ ε) (key : Nat × Nat) (next : Pending H) :
    State.Adds keep s (s.enqueue key next).1 [] := by
  have set (q : DispatchQueue H) : State.Adds keep s { s with queues := s.queues.set key q } [] :=
    .of_eq rfl
  unfold State.enqueue
  split
  · dsimp only
    split
    · exact (set _).skip (routine _ rfl)
    · exact set _
  · exact set _

/-- Nor does driving an event by itself. -/
lemma adds_drive (m : Machine H σ ε) (s : State H σ ε) (order : DispatchOrder) (e : Event)
    (xs : List (Subscriber H)) : State.Adds keep s (m.drive s order e xs).state [] := by
  cases order with
  | immediate => exact .of_eq rfl
  | queued id =>
    have enqueued := adds_enqueue routine s (id, m.thread) ⟨e, xs⟩
    unfold drive
    dsimp only
    split
    · rename_i waits
      rw [waits] at enqueued
      exact enqueued
    · rename_i opens
      rw [opens] at enqueued
      exact enqueued

/-- Nor does the sight of a dispatch. -/
lemma adds_sight (s : State H σ ε) (t : Nat) (d : Dispatcher) (e : Event)
    (xs : List (Subscriber H)) : State.Adds keep s (s.sight t d e xs) [] := by
  have same : State.Adds keep s s [] := .of_eq rfl
  unfold State.sight
  cases d.arrangement
  case plain => exact same
  all_goals exact same.skip (routine _ rfl)

/-- Nor does a queue that is given up. -/
lemma adds_closeQueue (s : State H σ ε) (key : Nat × Nat) :
    State.Adds keep s (s.closeQueue key) [] := by
  have closed : State.Adds keep s { s with queues := s.queues.erase key } [] := .of_eq rfl
  unfold State.closeQueue
  dsimp only
  split
  · exact closed.skip (routine _ rfl)
  · exact closed

/-- Nor does a call that comes back at once. -/
lemma Acts.adds {t : Nat} {s s' : State H σ ε} {script next : Script H σ ε}
    (acts : Acts t s script s' next) : State.Adds keep s s' [] := by
  have same : State.Adds keep s s [] := .of_eq rfl
  have set (b : Bus H) : State.Adds keep s (s.setBus b) [] := .of_eq rfl
  cases acts with
  | note => exact same.skip (routine _ rfl)
  | inspect => exact same
  | update => exact .of_eq rfl
  | declare => exact .of_eq rfl
  | newDispatcher => exact .of_eq rfl
  | @build plan next =>
    have built : State.Adds keep s ({ s with busCount := s.busCount + 1 }.setBus
      ⟨(Machine.build s plan).2, .empty plan.executor ⟨(Machine.build s plan).2, plan.policy⟩,
        plan.dispatcher⟩) [] :=
      .of_eq rfl
    exact built.skip (routine _ rfl)
  | @register bus target bs next =>
    unfold Machine.register
    split
    · exact same
    · apply State.Adds.skip _ (routine _ rfl)
      apply (set _).skipAll
      intro o mem
      obtain ⟨a, _, rfl⟩ := List.mem_map.1 mem
      exact routine _ rfl
  | @unregister bus target bs next =>
    unfold Machine.unregister
    split
    · exact same
    · split
      · exact same
      · exact ((set _).skip (routine _ rfl)).skip (routine _ rfl)

end Routine

/-- A dispatch decides to pass the event on to the subscribers in the arranged order. -/
lemma decides_dispatch (m : Machine H σ ε) (s : State H σ ε) (d : Dispatcher) (e : Event)
    (xs : List (Subscriber H)) :
    s.Decides (m.dispatch s d e xs).state (d.passesOn m.thread e xs) := by
  have routine (o : Occurrence H ε) : o.isRoutine → o.isDecision = false :=
    Occurrence.not_isDecision_of_isRoutine
  have sighted := adds_sight routine s m.thread d e xs
  unfold dispatch Dispatcher.passesOn
  cases d.arrangement.apply xs with
  | none => exact sighted
  | some arranged => exact (sighted.emit (.dispatched ..)).trans (adds_drive routine ..)

/-- A post, told by the subscribers that the bus has from the start. -/
theorem post_eq (found : m.state.buses.get? bus = some b) (e : Event) :
    m.post bus e =
      match b.registry.resolve m.state.hierarchy e.type with
      | x :: xs =>
        m.dispatch ((m.state.resolve b e.type).1.emit (.routed b.handle e (x :: xs))) b.dispatcher e
          (x :: xs)
      | [] =>
        if e.type = .deadEvent then
          m.returning ((m.state.resolve b e.type).1.emit (.dropped b.handle e))
        else
          match b.registry.resolve m.state.hierarchy .deadEvent with
          | x :: xs =>
            m.dispatch ((m.state.mourned b bus e).emit
              (.routed b.handle (.dead b.handle e e.type) (x :: xs))) b.dispatcher
              (.dead b.handle e e.type) (x :: xs)
          | [] =>
            m.returning
              ((m.state.mourned b bus e).emit (.dropped b.handle (.dead b.handle e e.type))) := by
  rw [post, found]
  dsimp only
  split
  · rename_i s x xs resolved
    obtain rfl : (m.state.resolve b e.type).1 = s := congrArg Prod.fst resolved
    rw [show b.registry.resolve m.state.hierarchy e.type = x :: xs from congrArg Prod.snd resolved]
  · rename_i s resolved
    obtain rfl : (m.state.resolve b e.type).1 = s := congrArg Prod.fst resolved
    rw [show b.registry.resolve m.state.hierarchy e.type = [] from congrArg Prod.snd resolved]
    dsimp only
    split
    · rfl
    · split
      · rename_i s x xs again
        obtain ⟨rfl, listed⟩ := mourned_listed found e again
        rw [listed]
      · rename_i s again
        obtain ⟨rfl, listed⟩ := mourned_listed found e again
        rw [listed]

/-- A post on a bus that exists takes one of the courses. -/
theorem post_course (found : m.state.buses.get? bus = some b) (e : Event) :
    Course m bus b e (m.post bus e) := by
  rw [post_eq found]
  split
  · rename_i x xs listed
    exact .heard listed (List.cons_ne_nil x xs)
  · rename_i none
    split
    · rename_i dead
      exact .dropped none dead
    · rename_i alive
      split
      · rename_i x xs listed
        exact .mourned none alive listed (List.cons_ne_nil x xs)
      · rename_i none'
        exact .forgotten none alive none'

/-- What is routine and what a bus decides is all that there is to a post. -/
lemma adds_post {keep : Occurrence H ε → Bool} (routine : ∀ o, o.isRoutine → keep o = false)
    (decision : ∀ o, o.isDecision → keep o = false) (m : Machine H σ ε) (bus : Nat) (e : Event) :
    State.Adds keep m.state (m.post bus e).state [] := by
  have resolved (s : State H σ ε) (b : Bus H) (t : EventType) :
      State.Adds keep s (s.resolve b t).1 [] := by
    have same : State.Adds keep s s [] := .of_eq rfl
    unfold State.resolve
    cases b.registry.closures.get? t with
    | some _ => exact same.skip (decision _ rfl)
    | none =>
      have set : State.Adds keep s
          (s.setBus { b with registry := b.registry.remember s.hierarchy t }) [] := .of_eq rfl
      exact (set.skip (routine _ rfl)).skip (decision _ rfl)
  have dispatched {s : State H σ ε} (h : State.Adds keep m.state s []) (b : Bus H) (e : Event)
      (xs : List (Subscriber H)) :
      State.Adds keep m.state
        (m.dispatch (s.emit (.routed b.handle e xs)) b.dispatcher e xs).state [] := by
    have sighted := (h.skip (decision (.routed b.handle e xs) rfl)).trans
      (adds_sight routine _ m.thread b.dispatcher e xs)
    unfold dispatch
    cases b.dispatcher.arrangement.apply xs with
    | none => exact sighted
    | some arranged => exact (sighted.skip (decision _ rfl)).trans (adds_drive routine ..)
  cases found : m.state.buses.get? bus with
  | none =>
    unfold post
    rw [found]
    exact .of_eq rfl
  | some b =>
    have looked := resolved m.state b e.type
    have mourned : State.Adds keep m.state (m.state.mourned b bus e) [] :=
      (looked.skip (decision (.died b.handle e) rfl)).trans (resolved ..)
    have course := post_course found e
    generalize m.post bus e = m' at course
    cases course with
    | heard => exact dispatched looked ..
    | dropped => exact looked.skip (decision _ rfl)
    | mourned => exact dispatched mourned ..
    | forgotten => exact mourned.skip (decision _ rfl)

/-- The end of a call decides nothing. -/
lemma decides_leave (s : State H σ ε) (x : Subscriber H) : s.Decides (s.leave x) [] :=
  adds_leave s x

/-- Nor does to step inside a handler. -/
lemma decides_inside {s : State H σ ε} (before : m.state.Decides s []) (n : Machine H σ ε)
    (e : Event) (x : Subscriber H) : m.state.Decides (n.inside p s e x).state [] :=
  (before.trans (adds_enter s n.thread x)).skip rfl

/-- A report decides that one failure goes to the exception handler. -/
lemma decides_report (m : Machine H σ ε) {s : State H σ ε} (before : m.state.Decides s [])
    (rest : List (Frame H σ ε)) (failure : Failure) (e : Event) (x : Subscriber H) :
    m.state.Decides (report p m s rest failure e x).state
      [.reported failure (x.failureContext e)] := by
  have reported := before.emit (.reported failure (x.failureContext e))
  unfold report
  cases x.desk.policy with
  | log => exact reported.skip rfl
  | custom code => exact reported

/-- What a step decides. -/
inductive Decided (p : Program H σ ε) (m : Machine H σ ε) : Machine H σ ε → Prop where
  | nothing {n} (none : m.state.Decides n.state []) :
    Decided p m n
  | posted {bus e elsewhere next} (control : m.control = .run (.post bus e elsewhere next)) :
    Decided p m ((m.putAside next elsewhere).post bus e)
  | failed {failure e x rest} (fails : m.Fails failure e x rest) :
    Decided p m (report p m (m.state.leave x) rest failure e x)

/-- Only a post and a failing handler call for decisions. -/
theorem step_decides (st : step p m = .going m') : Decided p m m' := by
  have routine (o : Occurrence H ε) : o.isRoutine → o.isDecision = false :=
    Occurrence.not_isDecision_of_isRoutine
  have same : m.state.Decides m.state [] := .of_eq rfl
  cases step_turn st with
  | acts _ acts => exact .nothing (acts.adds routine)
  | panics _ => exact .nothing same
  | posts control => exact .posted control
  | runsBacklog _ => exact .nothing same
  | delivered _ _ => exact .nothing ((decides_leave ..).skip rfl)
  | fails fails => exact .failed fails
  | @reported result _ _ _ _ _ =>
    cases result with
    | ok _ => exact .nothing same
    | error _ => exact .nothing (same.skip rfl)
  | idles _ _ => exact .nothing same
  | resumes _ _ => exact .nothing same
  | delivers _ _ => exact .nothing same
  | calls _ _ _ => exact .nothing (decides_inside (same.skip rfl) ..)
  | defers _ _ _ => exact .nothing (same.skip rfl)
  | handsOff _ _ _ => exact .nothing ((same.skip rfl).skip rfl)
  | fetches _ _ dequeued =>
    obtain ⟨q, draining, _, rfl⟩ := dequeue_eq_some dequeued
    exact .nothing (.of_eq rfl)
  | closes _ _ _ => exact .nothing (adds_closeQueue routine ..)
  | joins _ => exact .nothing same
  | takes _ _ taken =>
    obtain ⟨_, fewer, _, rfl⟩ := takeBacklog_eq_some taken
    have before : m.state.Decides { m.state with backlog := fewer } [] := .of_eq rfl
    exact .nothing (decides_inside before ..)
  | ran _ _ => exact .nothing same
  | pools _ _ taken =>
    obtain ⟨fewer, _, rfl⟩ := takePool_eq_some taken
    have before : m.state.Decides { m.state with pool := fewer } [] := .of_eq rfl
    exact .nothing (decides_inside before ..)
  | rests _ _ => exact .nothing same
  | breaks _ _ => exact .nothing (adds_closeQueue routine ..)
  | leaves _ _ => exact .nothing (decides_leave ..)
  | catches _ _ => exact .nothing (same.skip rfl)
  | survives _ _ => exact .nothing (same.skip rfl)
  | drops _ _ => exact .nothing same

/-- What a bus decides about an event posted on it from a thread: the look-ups, the call of the
dispatcher and what it passes on, the dead event if there is one, and what is dropped. -/
inductive Fate (h : Hierarchy) (b : Bus H) (t : Nat) (e : Event) :
    List (Occurrence H ε) → Prop where
  | heard {xs} (listed : b.registry.resolve h e.type = xs) (some : xs ≠ []) :
    Fate h b t e (.resolved b.handle e.type xs :: .routed b.handle e xs ::
      b.dispatcher.passesOn t e xs)
  | dropped (none : b.registry.resolve h e.type = []) (dead : e.type = .deadEvent) :
    Fate h b t e [.resolved b.handle e.type [], .dropped b.handle e]
  | mourned {xs} (none : b.registry.resolve h e.type = []) (alive : e.type ≠ .deadEvent)
      (listed : b.registry.resolve h .deadEvent = xs) (some : xs ≠ []) :
    Fate h b t e (.resolved b.handle e.type [] :: .died b.handle e ::
      .resolved b.handle .deadEvent xs :: .routed b.handle (.dead b.handle e e.type) xs ::
      b.dispatcher.passesOn t (.dead b.handle e e.type) xs)
  | forgotten (none : b.registry.resolve h e.type = []) (alive : e.type ≠ .deadEvent)
      (none' : b.registry.resolve h .deadEvent = []) :
    Fate h b t e [.resolved b.handle e.type [], .died b.handle e, .resolved b.handle .deadEvent [],
      .dropped b.handle (.dead b.handle e e.type)]

/-- The course of a post says what is decided. -/
lemma Course.fate (found : m.state.buses.get? bus = some b) {e : Event}
    (course : Course m bus b e m') :
    ∃ os, m.state.Decides m'.state os ∧ Fate m.state.hierarchy b m.thread e os := by
  have looked := m.state.decides_resolve b e.type
  have mourned := m.state.decides_mourned b found e
  cases course with
  | @heard xs listed some =>
    refine ⟨_, ?_, .heard listed some⟩
    rw [listed] at looked
    exact (looked.emit (.routed b.handle e xs)).trans (decides_dispatch m _ b.dispatcher e xs)
  | dropped none dead =>
    refine ⟨_, ?_, .dropped none dead⟩
    rw [none] at looked
    exact looked.emit (.dropped b.handle e)
  | @mourned xs none alive listed some =>
    refine ⟨_, ?_, .mourned none alive listed some⟩
    rw [none, listed] at mourned
    exact (mourned.emit (.routed b.handle (.dead b.handle e e.type) xs)).trans
      (decides_dispatch m _ b.dispatcher _ xs)
  | forgotten none alive none' =>
    refine ⟨_, ?_, .forgotten none alive none'⟩
    rw [none, none'] at mourned
    exact mourned.emit (.dropped b.handle (.dead b.handle e e.type))

namespace Fate

variable {h : Hierarchy} {t : Nat} {e : Event} {os : List (Occurrence H ε)}

/-- A post looks up twice at most. -/
lemma resolutions (fate : Fate h b t e os) : (os.filter (·.isResolution)).length ≤ 2 := by
  have none (e : Event) (xs : List (Subscriber H)) :
      (b.dispatcher.passesOn t e xs : List (Occurrence H ε)).filter (·.isResolution) = [] := by
    unfold Dispatcher.passesOn
    cases b.dispatcher.arrangement.apply xs <;> rfl
  cases fate with
  | @heard xs _ _ =>
    show (.resolved b.handle e.type xs :: (b.dispatcher.passesOn t e xs).filter _).length ≤ 2
    rw [none]
    exact Nat.le_succ 1
  | dropped => exact Nat.le_succ 1
  | @mourned xs _ _ _ _ =>
    show (.resolved b.handle e.type [] :: .resolved b.handle .deadEvent xs ::
      (b.dispatcher.passesOn t (.dead b.handle e e.type) xs).filter _).length ≤ 2
    rw [none]
    exact Nat.le_refl 2
  | forgotten => exact Nat.le_refl 2

/-- What a bus finds dead is the event that was posted on it, which is no dead event and which
nobody listens to. -/
lemma of_died (fate : Fate h b t e os) {r : BusRef} {e' : Event} (mem : .died r e' ∈ os) :
    r = b.handle ∧ e' = e ∧ e.type ≠ .deadEvent ∧ b.registry.resolve h e.type = [] := by
  cases fate with
  | heard => simp [Dispatcher.mem_passesOn] at mem
  | dropped => simp at mem
  | mourned none alive =>
    simp only [List.mem_cons, Dispatcher.mem_passesOn, reduceCtorEq, and_false, exists_false,
      or_false, false_or] at mem
    cases mem
    exact ⟨rfl, rfl, alive, none⟩
  | forgotten none alive _ =>
    simp only [List.mem_cons, List.not_mem_nil, reduceCtorEq, or_false, false_or] at mem
    cases mem
    exact ⟨rfl, rfl, alive, none⟩

end Fate

/-- A post on a bus that does not exist returns at once. -/
lemma post_unknown (none : m.state.buses.get? bus = none) (e : Event) :
    m.post bus e = m.returning m.state := by
  unfold post
  rw [none]

section PutAside

variable (m : Machine H σ ε) (next : Script H σ ε) (elsewhere : Bool)

@[simp] lemma putAside_buses : (m.putAside next elsewhere).state.buses = m.state.buses := by
  cases elsewhere <;> rfl

@[simp] lemma putAside_hierarchy :
    (m.putAside next elsewhere).state.hierarchy = m.state.hierarchy := by
  cases elsewhere <;> rfl

/-- To put work aside decides nothing. -/
lemma decides_putAside : m.state.Decides (m.putAside next elsewhere).state [] := by
  cases elsewhere <;> exact .of_eq rfl

end PutAside

/-- A thread that puts aside what it goes on with is about to post. -/
lemma posting_putAside (m : Machine H σ ε) (next : Script H σ ε) (elsewhere : Bool) :
    Posting m (m.putAside next elsewhere) := by
  cases elsewhere with
  | false => exact .here rfl rfl (.refl _)
  | true => exact .elsewhere rfl (.of_eq rfl rfl rfl)

/-- It keeps the machine well-formed. -/
lemma WellFormed.putAside (wf : WellFormed m) (next : Script H σ ε) (elsewhere : Bool) :
    WellFormed (m.putAside next elsewhere) :=
  wf.posting (posting_putAside m next elsewhere)

/-- The step at a post makes it. -/
lemma step_posted {e : Event} {elsewhere : Bool} {next : Script H σ ε}
    (control : m.control = .run (.post bus e elsewhere next)) :
    step p m = .going ((m.putAside next elsewhere).post bus e) := by
  rw [step, control]
  cases elsewhere <;> rfl

/-- A post on a bus comes to the fate of its event. -/
lemma posted_fate (found : m.state.buses.get? bus = some b) (e : Event) (next : Script H σ ε)
    (elsewhere : Bool) :
    ∃ os, m.state.Decides ((m.putAside next elsewhere).post bus e).state os ∧
      Fate m.state.hierarchy b (m.putAside next elsewhere).thread e os := by
  have found' : (m.putAside next elsewhere).state.buses.get? bus = some b := by
    rwa [putAside_buses]
  obtain ⟨os, decides, fate⟩ := (post_course found' e).fate found'
  rw [putAside_hierarchy] at fate
  exact ⟨os, (m.decides_putAside next elsewhere).trans decides, fate⟩

/-- The trace of a machine begins with the trace of the one before. -/
lemma step_grows (st : step p m = .going m') :
    ∃ added, m'.state.trace.toList = m.state.trace.toList ++ added := by
  have grown {os : List (Occurrence H ε)} (decides : m.state.Decides m'.state os) :
      ∃ added, m'.state.trace.toList = m.state.trace.toList ++ added := by
    obtain ⟨added, grown, _⟩ := decides
    exact ⟨added, grown⟩
  cases step_decides st with
  | nothing none => exact grown none
  | failed fails => exact grown (decides_report m (decides_leave ..) ..)
  | @posted bus e elsewhere next _ =>
    cases found : m.state.buses.get? bus with
    | none =>
      rw [post_unknown (by rwa [putAside_buses])] at grown ⊢
      exact grown (m.decides_putAside next elsewhere)
    | some b =>
      obtain ⟨os, decides, _⟩ := posted_fate found e next elsewhere
      exact grown decides

/-- The trace after a step is the trace before and what the step adds. -/
lemma trace_of_step (st : step p m = .going m') :
    m'.state.trace.toList = m.state.trace.toList ++ m'.state.since m.state := by
  obtain ⟨added, grown⟩ := step_grows st
  rw [State.since, grown, List.drop_left]

/-- Whatever is found dead after a step was dead before, or it is not a dead event. -/
lemma Decided.alive (decided : Decided p m m') {r : BusRef} {e : Event}
    (mem : .died r e ∈ m'.state.trace.toList) :
    .died r e ∈ m.state.trace.toList ∨ e.type ≠ .deadEvent := by
  have new {os : List (Occurrence H ε)} (decides : m.state.Decides m'.state os) :
      .died r e ∈ m.state.trace.toList ∨ .died r e ∈ os := by
    obtain ⟨added, grown, rfl⟩ := decides
    rw [grown, List.mem_append] at mem
    exact mem.imp_right fun mem => List.mem_filter.2 ⟨mem, rfl⟩
  cases decided with
  | nothing none => exact (new none).imp_right fun mem => absurd mem List.not_mem_nil
  | @posted bus e' elsewhere next control =>
    cases found : m.state.buses.get? bus with
    | none =>
      rw [post_unknown (by rwa [putAside_buses])] at new
      have old := new (m.decides_putAside next elsewhere)
      exact old.imp_right fun mem => absurd mem List.not_mem_nil
    | some b =>
      obtain ⟨os, decides, fate⟩ := posted_fate found e' next elsewhere
      obtain mem | mem := new decides
      · exact .inl mem
      · obtain ⟨_, rfl, alive, _⟩ := fate.of_died mem
        exact .inr alive
  | failed fails =>
    obtain mem | mem := new (decides_report m (decides_leave ..) ..)
    · exact .inl mem
    · simp at mem

/-- In every run, a bus decides about each event that is posted on it in one step, and looks up
subscribers twice at most for it. Where somebody listens to the event, the dispatcher is called
once, with the event. Where nobody does, one dead event is made that holds the bus, the event and
its type; the dispatcher is called with it if somebody listens to dead events, and it is dropped
otherwise. An event that is a dead event already is dropped instead, so that nothing a bus wraps is
a dead event. No other step routes anything. -/
theorem post_routes {hierarchy : Hierarchy} {user : σ} {script : Script H σ ε}
    (later : Later p (start (.initial hierarchy user) script) m) :
    (∀ r e, .died r e ∈ m.state.trace.toList → e.type ≠ .deadEvent) ∧
    (∀ bus b e elsewhere next, m.control = .run (.post bus e elsewhere next) →
      m.state.buses.get? bus = some b →
      ∃ m' os, step p m = .going m' ∧ Course (m.putAside next elsewhere) bus b e m' ∧
        m.state.Decides m'.state os ∧
        Fate m.state.hierarchy b (m.putAside next elsewhere).thread e os ∧
        (os.filter (·.isResolution)).length ≤ 2) ∧
    (∀ m', (∀ bus e elsewhere next, m.control ≠ .run (.post bus e elsewhere next)) →
      step p m = .going m' →
      ∃ os, m.state.Decides m'.state os ∧
        ∀ o ∈ os, ∃ failure context, o = .reported failure context) := by
  refine ⟨?_, ?_, ?_⟩
  · induction later with
    | refl => simp [start, State.initial]
    | step _ st ih =>
      intro r e mem
      exact ((step_decides st).alive mem).elim (ih r e) id
    | next user script _ st ih =>
      obtain ⟨_, rfl⟩ := stack_of_ended st
      exact ih
    | pool _ st ih =>
      obtain ⟨_, rfl⟩ := stack_of_ended st
      exact ih
  · intro bus b e elsewhere next control found
    have st : step p m = .going ((m.putAside next elsewhere).post bus e) := by
      rw [step, control]
      cases elsewhere <;> rfl
    obtain ⟨os, decides, fate⟩ := posted_fate found e next elsewhere
    refine ⟨_, os, st, post_course (by rwa [putAside_buses]) e, decides, fate, fate.resolutions⟩
  · intro m' other st
    cases step_decides st with
    | nothing none => exact ⟨[], none, by simp⟩
    | posted control => exact absurd control (other _ _ _ _)
    | failed fails =>
      exact ⟨_, decides_report m (decides_leave ..) .., by simp⟩

/-- What is later than a later machine is later. -/
lemma Later.trans {m'' : Machine H σ ε} (later : Later p m m') (later' : Later p m' m'') :
    Later p m m'' := by
  induction later' with
  | refl => exact later
  | step _ st ih => exact .step ih st
  | next user script _ st ih => exact .next user script ih st
  | pool _ st ih => exact .pool ih st

/-- The machine after so many steps is later. -/
lemma Later.after (m : Machine H σ ε) (n : Nat) : Later p m (after p m n) := by
  induction n with
  | zero => exact .refl
  | succ n ih =>
    rw [Machine.after]
    split
    · rename_i st
      exact .step ih st
    · exact ih

namespace Relay

def note : Event := .free ⟨"Note"⟩ "Note" "lost" [] []

/-- Handlers post the events they are given on the second bus. -/
def program : Program Unit Unit Unit where
  handle _ e := .post 2 e false (.finish (.ok ()))
  report _ _ _ := .finish (.ok ())

/-- Two buses, of which the first has a handler of dead events. A note is posted on it that nobody
listens to. -/
def script : Script Unit Unit Unit :=
  .build ⟨"first", .direct, .plain .immediate, .log⟩ fun b =>
  .build ⟨"second", .direct, .plain .immediate, .log⟩ fun _ =>
  .register b.id ⟨1, "Listener", "listener"⟩
    [⟨"on_dead", .deadEvent, .typed, true, none, ()⟩] fun _ =>
  .post b.id note false (.finish (.ok ()))

def machine (n : Nat) : Machine Unit Unit Unit :=
  after program (start (.initial .empty ()) script) n

def first : BusRef := ⟨1, "first"⟩

def second : BusRef := ⟨2, "second"⟩

def dead : Event := .dead first note ⟨"Note"⟩

end Relay

/-- A dead event of the first bus, posted on the second one by the handler that was given it, is
dropped there and not wrapped again. -/
theorem relay_drops :
    (∀ r e, .died r e ∈ (Relay.machine 5).state.trace.toList → e.type ≠ .deadEvent) ∧
    ∃ m', step Relay.program (Relay.machine 5) = .going m' ∧
      (Relay.machine 5).state.Decides m'.state
        [.resolved Relay.second .deadEvent [], .dropped Relay.second Relay.dead] := by
  have later : Later Relay.program (start (.initial .empty ()) Relay.script) (Relay.machine 5) :=
    Later.after _ 5
  have control : (Relay.machine 5).control =
    .run (.post 2 Relay.dead false (.finish (.ok ()))) := by cbv
  obtain ⟨b, found, none⟩ : ∃ b, (Relay.machine 5).state.buses.get? 2 = some b ∧
      b.handle = Relay.second ∧
      b.registry.resolve (Relay.machine 5).state.hierarchy .deadEvent = [] :=
    ⟨_, by cbv, by cbv⟩
  obtain ⟨alive, posts, _⟩ := post_routes later
  obtain ⟨m', os, st, _, decides, fate, _⟩ := posts 2 b _ _ _ control found
  refine ⟨alive, m', st, ?_⟩
  cases fate with
  | heard listed some => exact absurd (listed.symm.trans none.2) some
  | dropped => rwa [none.1] at decides
  | mourned _ alive _ _ => exact absurd rfl alive
  | forgotten _ alive _ => exact absurd rfl alive

end Machine

end EventBus
