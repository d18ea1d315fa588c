import EventBus.Proofs.Machine.Run

/-!
# Turns

The steps of the machine one by one. Where a `Move` tells what a step does to the stack, the queues
and the traffic, a `Turn` names the machine that comes out of it. `step_turn` says that every step
is a turn; what scripts, reports and states have to do with each other is proved from the turns.
-/

namespace EventBus

variable {H σ ε : Type}

namespace Frame

/-- A frame that stands for a script that is running. -/
def IsBody : Frame H σ ε → Prop
  | handling _ _ | reporting _ _ => True
  | _ => False

/-- A frame that a panic just gives up. -/
def IsLost : Frame H σ ε → Prop
  | resume _ | deliveries _ _ _ _ | backlog _ _ _ _ => True
  | _ => False

end Frame

namespace Machine

/-- What a script does that makes a call which comes back at once: the state and the rest of the
script afterwards. -/
inductive Acts (t : Nat) (s : State H σ ε) :
    Script H σ ε → State H σ ε → Script H σ ε → Prop where
  | note {entry next} : Acts t s (.note entry next) (s.emit (.noted entry)) next
  | inspect {next} : Acts t s (.inspect next) s (next s t)
  | update {change next} :
    Acts t s (.update change next) { s with user := change s.user } next
  | declare {types next} :
    Acts t s (.declare types next)
      { s with hierarchy := types.foldl (fun h d => h.declare d.1 d.2) s.hierarchy } next
  | newDispatcher {next} :
    Acts t s (.newDispatcher next) { s with dispatcherCount := s.dispatcherCount + 1 }
      (next s.dispatcherCount)
  | build {plan next} :
    Acts t s (.build plan next) (build s plan).1 (next (build s plan).2)
  | register {bus target bs next} :
    Acts t s (.register bus target bs next) (register s bus target bs).1
      (next (register s bus target bs).2)
  | unregister {bus target bs next} :
    Acts t s (.unregister bus target bs next) (unregister s bus target bs).1
      (next (unregister s bus target bs).2)

/-- The machine that posts an event, on its own thread or on a fresh one, has put aside what it goes
on with afterwards. -/
def putAside (m : Machine H σ ε) (next : Script H σ ε) : Bool → Machine H σ ε
  | false => { m with stack := .resume next :: m.stack }
  | true =>
    { m with state := { m.state with threadCount := m.state.threadCount + 1 }
             thread := m.state.threadCount
             stack := .join m.thread :: .resume next :: m.stack }

/-- How the handler of a subscriber starts with an event. -/
def opening (p : Program H σ ε) (e : Event) (x : Subscriber H) : Control H σ ε :=
  match x.given e with
  | some v => .run (p.handle x.code v)
  | none => .unwind (.text (x.defect e).message)

/-- The machine inside a handler that it has called from another one with state `s`. -/
def inside (p : Program H σ ε) (m : Machine H σ ε) (s : State H σ ε) (e : Event)
    (x : Subscriber H) : Machine H σ ε :=
  { m with state := (s.enter m.thread x).emit (.invoked m.thread e x)
           stack := .handling e x :: m.stack
           control := opening p e x }

/-- The state after a report has ended by itself. -/
def reported (s : State H σ ε) (failure : Failure) (context : FailureContext) :
    Except Failure Unit → State H σ ε
  | .ok () => s
  | .error secondary => s.emit (.reportFailed secondary failure context)

/-- What is running has come to its end with a result. -/
def HasEnded (m : Machine H σ ε) (result : Except Failure Unit) : Prop :=
  m.control = .run (.finish result) ∨ m.control = .back ∧ result = .ok ()

/-- A handler returns an error, and goes back to `rest`. -/
structure Fails (m : Machine H σ ε) (failure : Failure) (e : Event) (x : Subscriber H)
    (rest : List (Frame H σ ε)) : Prop where
  control : m.control = .run (.finish (.error failure))
  stack : m.stack = .handling e x :: rest

/-- The machines that one step comes to. -/
inductive Turn (p : Program H σ ε) (m : Machine H σ ε) : Machine H σ ε → Prop where
  /-- A script makes a call that comes back at once. -/
  | acts {script s next} (control : m.control = .run script)
      (acts : Acts m.thread m.state script s next) :
      Turn p m { m with state := s, control := .run next }
  | panics {payload} (control : m.control = .run (.panic payload)) :
      Turn p m { m with control := .unwind payload }
  | posts {bus e elsewhere next} (control : m.control = .run (.post bus e elsewhere next)) :
      Turn p m (post (m.putAside next elsewhere) bus e)
  | runsBacklog {limit newestFirst next}
      (control : m.control = .run (.runBacklog limit newestFirst next)) :
      Turn p m
        { m with stack := .backlog limit newestFirst 0 next :: m.stack, control := .back }
  /-- A handler is done. -/
  | delivered {e x rest} (ended : m.HasEnded (.ok ())) (stack : m.stack = .handling e x :: rest) :
      Turn p m { m with state := (m.state.leave x).emit (.delivered e x), stack := rest
                        control := .back }
  | fails {failure e x rest} (fails : m.Fails failure e x rest) :
      Turn p m (report p m (m.state.leave x) rest failure e x)
  /-- A report is done. -/
  | reported {result failure context rest} (ended : m.HasEnded result)
      (stack : m.stack = .reporting failure context :: rest) :
      Turn p m { m with state := reported m.state failure context result, stack := rest
                        control := .back }
  /-- A script ends that was run for neither. -/
  | idles {result f rest} (control : m.control = .run (.finish result))
      (stack : m.stack = f :: rest) :
      Turn p m { m with control := .back }
  | resumes {next rest} (control : m.control = .back) (stack : m.stack = .resume next :: rest) :
      Turn p m { m with stack := rest, control := .run next }
  /-- The deliveries of an event are over. -/
  | delivers {order t e rest} (control : m.control = .back)
      (stack : m.stack = .deliveries order t e [] :: rest) :
      Turn p m { m with stack := rest }
  /-- A handler is called at once. -/
  | calls {order t e x xs base} (control : m.control = .back)
      (stack : m.stack = .deliveries order t e (x :: xs) :: base) (direct : x.executor = .direct) :
      Turn p m ({ m with stack := .deliveries order t e xs :: base }.inside p
        (m.state.emit (.submitted m.thread order e x)) e x)
  | defers {order t e x xs base} (control : m.control = .back)
      (stack : m.stack = .deliveries order t e (x :: xs) :: base)
      (deferred : x.executor = .deferred) :
      Turn p m
        { m with state := { m.state.emit (.submitted m.thread order e x) with
                   backlog := m.state.backlog ++ [⟨x, e⟩] }
                 stack := .deliveries order t e xs :: base }
  | handsOff {order t e x xs base} (control : m.control = .back)
      (stack : m.stack = .deliveries order t e (x :: xs) :: base) (pool : x.executor = .pool) :
      Turn p m
        { m with
          state := { (m.state.emit (.submitted m.thread order e x)).emit (.handedOff e x) with
            pool := m.state.pool ++ [⟨x, e⟩] }
          stack := .deliveries order t e xs :: base }
  /-- The next event is taken from a queue. -/
  | fetches {d t s next base} (control : m.control = .back) (stack : m.stack = .drain d t :: base)
      (dequeued : m.state.dequeue (d, t) = some (s, next)) :
      Turn p m (m.entering s (.deliveries (.queued d) t next.event next.subscribers))
  | closes {d t base} (control : m.control = .back) (stack : m.stack = .drain d t :: base)
      (empty : m.state.dequeue (d, t) = none) :
      Turn p m { m with state := m.state.closeQueue (d, t), stack := base }
  | joins {waiting base} (stack : m.stack = .join waiting :: base) :
      Turn p m { m with thread := waiting, stack := base }
  /-- A delivery that was put off is made. -/
  | takes {limit newestFirst done next s w base} (control : m.control = .back)
      (stack : m.stack = .backlog limit newestFirst done next :: base)
      (taken : m.state.takeBacklog newestFirst = some (s, w)) :
      Turn p m ({ m with stack := .backlog limit newestFirst (done + 1) next :: base }.inside p s
        w.event w.subscriber)
  | ran {limit newestFirst done next base} (control : m.control = .back)
      (stack : m.stack = .backlog limit newestFirst done next :: base) :
      Turn p m { m with stack := base, control := .run (next done) }
  /-- The pool makes a delivery. -/
  | pools {s w base} (control : m.control = .back) (stack : m.stack = .pool :: base)
      (taken : m.state.takePool = some (s, w)) :
      Turn p m (m.inside p s w.event w.subscriber)
  | rests {base} (control : m.control = .back) (stack : m.stack = .pool :: base) :
      Turn p m { m with stack := base }
  /-- A panic gives up a drain. -/
  | breaks {payload d t base} (control : m.control = .unwind payload)
      (stack : m.stack = .drain d t :: base) :
      Turn p m { m with state := m.state.closeQueue (d, t), stack := base }
  /-- A panic leaves a handler. -/
  | leaves {payload e x base} (control : m.control = .unwind payload)
      (stack : m.stack = .handling e x :: base) :
      Turn p m { m with state := m.state.leave x, stack := base }
  /-- A report panics. -/
  | catches {payload failure context base} (control : m.control = .unwind payload)
      (stack : m.stack = .reporting failure context :: base) :
      Turn p m { m with state := m.state.emit (.reportPanicked payload failure context)
                        stack := base, control := .back }
  /-- A delivery panics on the pool. -/
  | survives {payload base} (control : m.control = .unwind payload)
      (stack : m.stack = .pool :: base) :
      Turn p m { m with state := m.state.emit (.poolPanicked payload), control := .back }
  /-- A panic gives up what was to be gone on with. -/
  | drops {payload f base} (control : m.control = .unwind payload) (stack : m.stack = f :: base)
      (lost : f.IsLost) :
      Turn p m { m with stack := base }

variable {p : Program H σ ε} {m m' : Machine H σ ε}

/-- A handler that is invoked has the machine inside it. -/
lemma invoke_turn {e : Event} {x : Subscriber H} (st : invoke p m e x = .going m') :
    m' = m.inside p m.state e x := by
  unfold invoke at st
  split at st
  · cases st
  · cases st
    rfl

/-- The end of a script is a turn. -/
lemma finish_turn {result : Except Failure Unit} (ended : m.HasEnded result)
    (top : m.control = .back → ∃ f rest, m.stack = f :: rest ∧ f.IsBody)
    (st : finish p m result = .going m') : Turn p m m' := by
  unfold finish at st
  split at st
  · cases st
  · rename_i stack
    cases result with
    | ok _ =>
      cases st
      exact .delivered ended stack
    | error failure =>
      cases st
      obtain control | ⟨_, ⟨⟩⟩ := ended
      exact .fails ⟨control, stack⟩
  · rename_i stack
    cases st
    cases result with
    | ok _ =>
      have done : Turn p m
          { m with state := reported m.state _ _ (.ok ()), stack := _, control := .back } :=
        .reported ended stack
      exact done
    | error secondary => exact .reported ended stack
  · rename_i f rest other other' stack
    cases st
    obtain control | ⟨control, _⟩ := ended
    · exact .idles control stack
    · obtain ⟨f, rest, stack', body⟩ := top control
      rw [stack] at stack'
      cases stack'
      cases f with
      | handling e x => exact absurd rfl (other e x)
      | reporting failure context => exact absurd rfl (other' failure context)
      | _ => cases body

/-- A step of a script is a turn. -/
lemma runScript_turn {script : Script H σ ε} (control : m.control = .run script)
    (st : runScript p m script = .going m') : Turn p m m' := by
  cases script with
  | finish result =>
    exact finish_turn (.inl control) (by simp [control]) st
  | panic payload =>
    cases st
    exact .panics control
  | note entry next =>
    cases st
    exact .acts control .note
  | inspect next =>
    cases st
    exact .acts control .inspect
  | update change next =>
    cases st
    exact .acts control .update
  | declare types next =>
    cases st
    exact .acts control .declare
  | newDispatcher next =>
    cases st
    exact .acts control .newDispatcher
  | build plan next =>
    cases st
    exact .acts control .build
  | register bus target bs next =>
    cases st
    exact .acts control .register
  | unregister bus target bs next =>
    cases st
    exact .acts control .unregister
  | post bus e elsewhere next =>
    cases elsewhere with
    | false =>
      cases st
      exact .posts control
    | true =>
      cases st
      exact .posts control
  | runBacklog limit newestFirst next =>
    cases st
    exact .runsBacklog control

/-- Making a delivery is a turn. -/
lemma deliver_turn {order : DispatchOrder} {t : Nat} {e : Event} {x : Subscriber H}
    {xs : List (Subscriber H)} {base : List (Frame H σ ε)} (control : m.control = .back)
    (stack : m.stack = .deliveries order t e (x :: xs) :: base)
    (st : deliver p { m with stack := .deliveries order t e xs :: base } order e x = .going m') :
    Turn p m m' := by
  unfold deliver at st
  cases executor : x.executor with
  | direct =>
    simp only [executor] at st
    rw [invoke_turn st]
    exact .calls control stack executor
  | deferred =>
    simp only [executor] at st
    cases st
    rw [returning, ← control]
    exact .defers control stack executor
  | pool =>
    simp only [executor] at st
    cases st
    rw [returning, ← control]
    exact .handsOff control stack executor

/-- Going back to the frame on top is a turn. -/
lemma goBack_turn (control : m.control = .back) (st : goBack p m = .going m') : Turn p m m' := by
  unfold goBack at st
  split at st
  · cases st
  · rename_i stack
    cases st
    exact .resumes control stack
  · rename_i stack
    cases st
    exact .delivers control stack
  · rename_i stack
    exact deliver_turn control stack st
  · rename_i stack
    split at st
    · rename_i dequeued
      cases st
      exact .fetches control stack dequeued
    · rename_i empty
      cases st
      exact .closes control stack empty
  · rename_i stack
    cases st
    exact .joins stack
  · rename_i limit newestFirst done next rest stack
    dsimp only at st
    split at st
    · rename_i s w taken
      have taken : m.state.takeBacklog newestFirst = some (s, w) := by
        revert taken
        split <;> simp
      rw [invoke_turn st]
      exact .takes control stack taken
    · cases st
      exact .ran control stack
  · rename_i rest stack
    split at st
    · rename_i s w taken
      rw [invoke_turn st]
      exact .pools control stack taken
    · cases st
      exact .rests control stack
  · rename_i stack
    exact finish_turn (.inr ⟨control, rfl⟩) (fun _ => ⟨_, _, stack, trivial⟩) st
  · rename_i stack
    exact finish_turn (.inr ⟨control, rfl⟩) (fun _ => ⟨_, _, stack, trivial⟩) st

/-- Giving up the frame on top is a turn. -/
lemma unwind_turn {payload : Payload} (control : m.control = .unwind payload)
    (st : unwind m payload = .going m') : Turn p m m' := by
  unfold unwind at st
  split at st <;> cases st
  · rename_i stack
    exact .breaks control stack
  · rename_i stack
    exact .leaves control stack
  · rename_i stack
    exact .catches control stack
  · rename_i stack
    exact .joins stack
  · rename_i stack
    exact .survives control stack
  · rename_i stack
    exact .drops control stack trivial
  · rename_i stack
    exact .drops control stack trivial
  · rename_i stack
    exact .drops control stack trivial

/-- Every step is a turn. -/
theorem step_turn (st : step p m = .going m') : Turn p m m' := by
  unfold step at st
  cases control : m.control with
  | run script =>
    rw [control] at st
    exact runScript_turn control st
  | back =>
    rw [control] at st
    exact goBack_turn control st
  | unwind payload =>
    rw [control] at st
    exact unwind_turn control st

/-- Whatever becomes of a post is put on the stack. -/
lemma Routed.stack_eq (routed : Routed m m') : ∃ gs, m'.stack = gs ++ m.stack := by
  cases routed with
  | silent stack _ => exact ⟨[], stack⟩
  | immediate stack _ _ _ => exact ⟨[_], stack⟩
  | waits stack _ _ _ _ => exact ⟨[], stack⟩
  | opens stack _ _ _ _ => exact ⟨[_], stack⟩

/-- What passes over deliveries and drains reads the same off the stack after a post. -/
lemma Routed.read_stack (routed : Routed m m') {A : Type} {read : List (Frame H σ ε) → A}
    (deliveries : ∀ order t e xs fs, read (.deliveries order t e xs :: fs) = read fs)
    (drain : ∀ d t fs, read (.drain d t :: fs) = read fs) : read m'.stack = read m.stack := by
  cases routed with
  | silent stack _ => rw [stack]
  | immediate stack _ _ _ => rw [stack, deliveries]
  | waits stack _ _ _ _ => rw [stack]
  | opens stack _ _ _ _ => rw [stack, drain]

/-- So is what the machine goes on with after a post. -/
lemma putAside_stack (m : Machine H σ ε) (next : Script H σ ε) (elsewhere : Bool) :
    ∃ gs, (m.putAside next elsewhere).stack = gs ++ m.stack := by
  cases elsewhere with
  | false => exact ⟨[_], rfl⟩
  | true => exact ⟨[_, _], rfl⟩

/-- Whatever comes of a post stands above all that was there. -/
lemma post_stack (m : Machine H σ ε) (next : Script H σ ε) (elsewhere : Bool) (bus : Nat) (e : Event) :
    ∃ gs, (post (m.putAside next elsewhere) bus e).stack = gs ++ m.stack := by
  obtain ⟨gs, above⟩ := (routed_post (m.putAside next elsewhere) bus e).stack_eq
  obtain ⟨gs', aside⟩ := m.putAside_stack next elsewhere
  exact ⟨gs ++ gs', by rw [above, aside, List.append_assoc]⟩

/-- A turn changes the stack at its top only, and goes back when it is done with a report. -/
lemma Turn.above (turn : Turn p m m') {f : Frame H σ ε} {base : List (Frame H σ ε)}
    (stack : m.stack = f :: base) :
    (∃ gs, m'.stack = gs ++ f :: base) ∨
      ∃ gs, m'.stack = gs ++ base ∧
        ∀ failure context, f = .reporting failure context → gs = [] ∧ m'.control = .back := by
  have kept : m'.stack = m.stack → (∃ gs, m'.stack = gs ++ f :: base) :=
    fun same => ⟨[], same.trans stack⟩
  cases turn with
  | acts _ _ => exact .inl (kept rfl)
  | panics _ => exact .inl (kept rfl)
  | @posts bus e elsewhere next _ =>
    obtain ⟨gs, above⟩ := m.post_stack next elsewhere bus e
    exact .inl ⟨gs, by rw [above, stack]⟩
  | runsBacklog _ => exact .inl ⟨[_], congrArg _ stack⟩
  | delivered _ stack' =>
    cases stack.symm.trans stack'
    exact .inr ⟨[], rfl, by rintro _ _ ⟨⟩⟩
  | @fails failure e x rest fails =>
    cases stack.symm.trans fails.stack
    right
    unfold report
    dsimp only
    cases x.desk.policy with
    | log => exact ⟨[], rfl, by rintro _ _ ⟨⟩⟩
    | custom code => exact ⟨[_], rfl, by rintro _ _ ⟨⟩⟩
  | reported _ stack' =>
    cases stack.symm.trans stack'
    exact .inr ⟨[], rfl, fun _ _ _ => ⟨rfl, rfl⟩⟩
  | idles _ _ => exact .inl (kept rfl)
  | resumes _ stack' =>
    cases stack.symm.trans stack'
    exact .inr ⟨[], rfl, by rintro _ _ ⟨⟩⟩
  | delivers _ stack' =>
    cases stack.symm.trans stack'
    exact .inr ⟨[], rfl, by rintro _ _ ⟨⟩⟩
  | calls _ stack' _ =>
    cases stack.symm.trans stack'
    exact .inr ⟨[_, _], rfl, by rintro _ _ ⟨⟩⟩
  | defers _ stack' _ =>
    cases stack.symm.trans stack'
    exact .inr ⟨[_], rfl, by rintro _ _ ⟨⟩⟩
  | handsOff _ stack' _ =>
    cases stack.symm.trans stack'
    exact .inr ⟨[_], rfl, by rintro _ _ ⟨⟩⟩
  | fetches _ _ _ => exact .inl ⟨[_], congrArg _ stack⟩
  | closes _ stack' _ =>
    cases stack.symm.trans stack'
    exact .inr ⟨[], rfl, by rintro _ _ ⟨⟩⟩
  | joins stack' =>
    cases stack.symm.trans stack'
    exact .inr ⟨[], rfl, by rintro _ _ ⟨⟩⟩
  | takes _ stack' _ =>
    cases stack.symm.trans stack'
    exact .inr ⟨[_, _], rfl, by rintro _ _ ⟨⟩⟩
  | ran _ stack' =>
    cases stack.symm.trans stack'
    exact .inr ⟨[], rfl, by rintro _ _ ⟨⟩⟩
  | pools _ stack' _ => exact .inl ⟨[_], congrArg _ stack⟩
  | rests _ stack' =>
    cases stack.symm.trans stack'
    exact .inr ⟨[], rfl, by rintro _ _ ⟨⟩⟩
  | breaks _ stack' =>
    cases stack.symm.trans stack'
    exact .inr ⟨[], rfl, by rintro _ _ ⟨⟩⟩
  | leaves _ stack' =>
    cases stack.symm.trans stack'
    exact .inr ⟨[], rfl, by rintro _ _ ⟨⟩⟩
  | catches _ stack' =>
    cases stack.symm.trans stack'
    exact .inr ⟨[], rfl, fun _ _ _ => ⟨rfl, rfl⟩⟩
  | survives _ _ => exact .inl (kept rfl)
  | drops _ stack' lost =>
    cases stack.symm.trans stack'
    refine .inr ⟨[], rfl, ?_⟩
    rintro _ _ rfl
    exact lost.elim

end Machine

end EventBus
