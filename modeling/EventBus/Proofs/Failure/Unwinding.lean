import EventBus.Proofs.Failure.Desk
import EventBus.Proofs.Routing.Turnover

/-!
# How far a panic goes

Where every event is delivered at once, by an immediate dispatcher to handlers that are called
directly, a stack is made of scripts that wait, deliveries, handlers, and reports, and a handler or a
report stands right on the deliveries of its event (`Nested`). A panic gives up one frame after the
other, and nothing happens meanwhile, until it comes to a report of an error: the report contains it,
whether the panic is its own or comes from a handler of an event that it posted
(`panic_stops_at_report`). Only where there is no report on its way does it leave the outermost post.
-/

namespace EventBus

variable {H σ ε : Type}

namespace Frame

def IsReport : Frame H σ ε → Prop
  | reporting _ _ => True
  | _ => False

/-- A script that waits for something that it has called for. -/
def IsWaiting : Frame H σ ε → Prop
  | resume _ | join _ | backlog _ _ _ _ => True
  | _ => False

end Frame

/-- Whether an occurrence is no dispatch, or one by an immediate dispatcher to subscribers that are
called directly. -/
def Occurrence.isImmediate : Occurrence H ε → Bool
  | dispatched _ order _ xs => decide (order = .immediate) && xs.all (·.executor = .direct)
  | _ => true

namespace Machine

/-- Every event is dispatched at once, to subscribers that are called directly. -/
def AllImmediate (os : List (Occurrence H ε)) : Prop :=
  ∀ o ∈ os, o.isImmediate

instance (os : List (Occurrence H ε)) : Decidable (AllImmediate os) :=
  inferInstanceAs (Decidable (∀ o ∈ os, o.isImmediate))

/-- A stack on which every event is delivered at once. -/
inductive Nested : List (Frame H σ ε) → Prop where
  | nil : Nested []
  | waiting {f fs} :
    f.IsWaiting →
    Nested fs →
    Nested (f :: fs)
  | deliveries {t e xs fs} :
    (∀ x ∈ xs, x.executor = .direct) →
    Nested fs →
    Nested (.deliveries .immediate t e xs :: fs)
  | handling {e x t xs fs} :
    Nested (.deliveries .immediate t e xs :: fs) →
    Nested (.handling e x :: .deliveries .immediate t e xs :: fs)
  | reporting {failure context t xs fs} :
    Nested (.deliveries .immediate t context.event xs :: fs) →
    Nested (.reporting failure context :: .deliveries .immediate t context.event xs :: fs)

/-- A machine on which every event is delivered at once. Its pool has nothing to do. -/
structure Immediately (m : Machine H σ ε) : Prop where
  stack : Nested m.stack ∨ m.stack = [.pool] ∧ m.control = .back
  backlog : m.state.backlog = []
  pool : m.state.pool = []

variable {p : Program H σ ε} {m m' : Machine H σ ε}

namespace Nested

variable {f : Frame H σ ε} {fs : List (Frame H σ ε)}

/-- Below its top, a nested stack is nested. -/
lemma tail (h : Nested (f :: fs)) : Nested fs := by
  cases h with
  | waiting _ h => exact h
  | deliveries _ h => exact h
  | handling h => exact h
  | reporting h => exact h

/-- So it is below any frames. -/
lemma of_append {gs : List (Frame H σ ε)} (h : Nested (gs ++ fs)) : Nested fs := by
  induction gs with
  | nil => exact h
  | cons g gs ih => exact ih h.tail

/-- Nested deliveries are immediate, and to subscribers that are called at once. -/
lemma of_deliveries {order : DispatchOrder} {t : Nat} {e : Event} {xs : List (Subscriber H)}
    (h : Nested (.deliveries order t e xs :: fs)) :
    order = .immediate ∧ ∀ x ∈ xs, x.executor = .direct := by
  cases h with
  | waiting waiting _ => cases waiting
  | deliveries direct _ => exact ⟨rfl, direct⟩

/-- A nested handler stands on immediate deliveries. -/
lemma of_handling {e : Event} {x : Subscriber H} (h : Nested (.handling e x :: fs)) :
    ∃ t xs base, fs = .deliveries .immediate t e xs :: base := by
  cases h with
  | waiting waiting _ => cases waiting
  | handling _ => exact ⟨_, _, _, rfl⟩

/-- A nested report stands on the deliveries of its event. -/
lemma of_reporting {failure : Failure} {context : FailureContext}
    (h : Nested (.reporting failure context :: fs)) :
    ∃ t xs base, fs = .deliveries .immediate t context.event xs :: base := by
  cases h with
  | waiting waiting _ => cases waiting
  | reporting _ => exact ⟨_, _, _, rfl⟩

/-- No drain is nested. -/
lemma not_drain {d t : Nat} : ¬Nested (.drain d t :: fs : List (Frame H σ ε)) := by
  intro h
  cases h with
  | waiting waiting _ => cases waiting

/-- The pool is not nested. -/
lemma not_pool : ¬Nested (.pool :: fs : List (Frame H σ ε)) := by
  intro h
  cases h with
  | waiting waiting _ => cases waiting

end Nested

/-- What was dispatched between two states is in the trace of the later one. -/
lemma mem_trace_of_traffic {s s' : State H σ ε} {os : List (Occurrence H ε)}
    (traffic : s.Traffic s' os) {o : Occurrence H ε} (mem : o ∈ os) : o ∈ s'.trace.toList := by
  obtain ⟨added, grown, rfl⟩ := traffic
  rw [grown]
  exact List.mem_append_right _ (List.mem_filter.1 mem).1

/-- Where all is immediate, each dispatch is, and to subscribers that are called at once. -/
lemma AllImmediate.dispatched {os : List (Occurrence H ε)} (all : AllImmediate os) {t : Nat}
    {order : DispatchOrder} {e : Event} {xs : List (Subscriber H)}
    (mem : .dispatched t order e xs ∈ os) :
    order = .immediate ∧ ∀ x ∈ xs, x.executor = .direct := by
  have immediate := all _ mem
  simpa only [Occurrence.isImmediate, Bool.and_eq_true, decide_eq_true_eq, List.all_eq_true]
    using immediate

/-- An event that is posted is delivered at once. -/
lemma Routed.nested (routed : Routed m m') (h : Nested m.stack)
    (all : AllImmediate m'.state.trace.toList) : Nested m'.stack := by
  cases routed with
  | silent stack _ =>
    rw [stack]
    exact h
  | immediate stack _ _ traffic =>
    rw [stack]
    have direct := (all.dispatched (mem_trace_of_traffic traffic List.mem_cons_self)).2
    exact .deliveries direct h
  | waits _ _ _ _ traffic =>
    cases (all.dispatched (mem_trace_of_traffic traffic List.mem_cons_self)).1
  | opens _ _ _ _ traffic =>
    cases (all.dispatched (mem_trace_of_traffic traffic List.mem_cons_self)).1

/-- Leaving a handler leaves the backlog and the pool alone. -/
lemma leave_stores (s : State H σ ε) (x : Subscriber H) :
    (s.leave x).backlog = s.backlog ∧ (s.leave x).pool = s.pool := by
  obtain ⟨locks, same⟩ := s.leave_state x
  rw [same]
  exact ⟨rfl, rfl⟩

/-- So does entering one. -/
lemma enter_stores (s : State H σ ε) (t : Nat) (x : Subscriber H) :
    (s.enter t x).backlog = s.backlog ∧ (s.enter t x).pool = s.pool := by
  obtain ⟨locks, same⟩ := s.enter_state t x
  rw [same]
  exact ⟨rfl, rfl⟩

namespace Immediately

/-- While a script runs, the stack is nested. -/
lemma nested_of_run (h : m.Immediately) {script : Script H σ ε}
    (control : m.control = .run script) : Nested m.stack := by
  obtain nested | ⟨_, back⟩ := h.stack
  · exact nested
  · cases control.symm.trans back

/-- While a panic goes on, it is as well. -/
lemma nested_of_unwind (h : m.Immediately) {payload : Payload}
    (control : m.control = .unwind payload) : Nested m.stack := by
  obtain nested | ⟨_, back⟩ := h.stack
  · exact nested
  · cases control.symm.trans back

/-- Under any frame but the pool it is nested. -/
lemma nested_of_stack (h : m.Immediately) {f : Frame H σ ε} {base : List (Frame H σ ε)}
    (stack : m.stack = f :: base) (other : f ≠ .pool) : Nested (f :: base) := by
  obtain nested | ⟨pool, _⟩ := h.stack
  · rwa [← stack]
  · rw [stack] at pool
    cases pool
    exact absurd rfl other

/-- The machine goes on with another stack. -/
lemma goOn (h : m.Immediately) (nested : Nested m'.stack)
    (backlog : m'.state.backlog = m.state.backlog) (pool : m'.state.pool = m.state.pool) :
    m'.Immediately :=
  ⟨.inl nested, backlog.trans h.backlog, pool.trans h.pool⟩

end Immediately

/-- A turn is immediate if its dispatches are. -/
lemma Turn.immediately (turn : Turn p m m') (h : m.Immediately)
    (all : AllImmediate m'.state.trace.toList) : m'.Immediately := by
  cases turn with
  | acts control acts =>
    obtain ⟨_, backlog, pool⟩ := acts.apart
    exact h.goOn (h.nested_of_run control) backlog pool
  | panics control => exact h.goOn (h.nested_of_run control) rfl rfl
  | @posts bus e elsewhere next control =>
    have nested := h.nested_of_run control
    have aside : Nested (m.putAside next elsewhere).stack := by
      cases elsewhere with
      | false => exact .waiting trivial nested
      | true => exact .waiting trivial (.waiting trivial nested)
    obtain ⟨buses, queues, trace, same⟩ := post_state (m.putAside next elsewhere) bus e
    refine h.goOn ((routed_post ..).nested aside all) ?_ ?_
    · rw [same]
      cases elsewhere <;> rfl
    · rw [same]
      cases elsewhere <;> rfl
  | runsBacklog control =>
    exact h.goOn (.waiting trivial (h.nested_of_run control)) rfl rfl
  | @delivered e x rest _ stack =>
    obtain ⟨backlog, pool⟩ := leave_stores m.state x
    exact h.goOn (h.nested_of_stack stack (by rintro ⟨⟩)).tail backlog pool
  | @fails failure e x rest fails =>
    obtain ⟨backlog, pool⟩ := leave_stores m.state x
    have nested := h.nested_of_stack fails.stack (by rintro ⟨⟩)
    unfold report
    dsimp only
    cases x.desk.policy with
    | log => exact h.goOn nested.tail backlog pool
    | custom code =>
      obtain ⟨t, xs, base, rfl⟩ := nested.of_handling
      have below : Nested (.reporting failure (x.failureContext e) ::
          .deliveries .immediate t e xs :: base) := .reporting nested.tail
      exact h.goOn below backlog pool
  | @reported result _ _ _ _ stack =>
    cases result <;> exact h.goOn (h.nested_of_stack stack (by rintro ⟨⟩)).tail rfl rfl
  | idles control stack => exact h.goOn (h.nested_of_run control) rfl rfl
  | resumes _ stack | delivers _ stack | ran _ stack =>
    exact h.goOn (h.nested_of_stack stack (by rintro ⟨⟩)).tail rfl rfl
  | @calls order t e x xs base _ stack _ =>
    have nested := h.nested_of_stack stack (by rintro ⟨⟩)
    obtain ⟨rfl, direct⟩ := nested.of_deliveries
    obtain ⟨backlog, pool⟩ :=
      enter_stores (m.state.emit (.submitted m.thread .immediate e x)) m.thread x
    have below : Nested (.deliveries .immediate t e xs :: base) :=
      .deliveries (fun y mem => direct y (List.mem_cons_of_mem x mem)) nested.tail
    exact h.goOn (.handling below) backlog pool
  | defers _ stack deferred =>
    have direct := (h.nested_of_stack stack (by rintro ⟨⟩)).of_deliveries.2 _ List.mem_cons_self
    cases direct.symm.trans deferred
  | handsOff _ stack pool =>
    have direct := (h.nested_of_stack stack (by rintro ⟨⟩)).of_deliveries.2 _ List.mem_cons_self
    cases direct.symm.trans pool
  | fetches _ stack _ | closes _ stack _ | breaks _ stack =>
    exact absurd (h.nested_of_stack stack (by rintro ⟨⟩)) Nested.not_drain
  | joins stack => exact h.goOn (h.nested_of_stack stack (by rintro ⟨⟩)).tail rfl rfl
  | @takes _ newestFirst _ _ s w base _ _ taken =>
    exact absurd h.backlog (List.ne_nil_of_mem (takeBacklog_eq_some taken).1)
  | pools _ _ taken =>
    obtain ⟨fewer, pool, _⟩ := takePool_eq_some taken
    cases h.pool.symm.trans pool
  | @rests base _ stack =>
    obtain nested | ⟨pool, _⟩ := h.stack
    · rw [stack] at nested
      exact absurd nested Nested.not_pool
    · cases stack.symm.trans pool
      exact h.goOn .nil rfl rfl
  | @leaves _ _ x _ _ stack =>
    obtain ⟨backlog, pool⟩ := leave_stores m.state x
    exact h.goOn (h.nested_of_stack stack (by rintro ⟨⟩)).tail backlog pool
  | catches _ stack => exact h.goOn (h.nested_of_stack stack (by rintro ⟨⟩)).tail rfl rfl
  | survives control stack =>
    have nested := h.nested_of_unwind control
    rw [stack] at nested
    exact absurd nested Nested.not_pool
  | drops control stack _ =>
    have nested := h.nested_of_unwind control
    rw [stack] at nested
    exact h.goOn nested.tail rfl rfl

/-- So is all that comes later. -/
lemma Later.immediately {m₀ : Machine H σ ε} (later : Later p m₀ m) (h : m₀.Immediately)
    (all : AllImmediate m.state.trace.toList) : m.Immediately := by
  induction later with
  | refl => exact h
  | step _ st ih =>
    obtain ⟨added, grown⟩ := step_grows st
    have before := all
    rw [grown] at before
    exact (step_turn st).immediately (ih (List.forall_mem_append.1 before).1) all
  | next user script _ st ih =>
    obtain ⟨_, rfl⟩ := stack_of_ended st
    have before := ih all
    exact ⟨.inl .nil, before.backlog, before.pool⟩
  | pool _ st ih =>
    obtain ⟨_, rfl⟩ := stack_of_ended st
    have before := ih all
    exact ⟨.inr ⟨rfl, rfl⟩, before.backlog, before.pool⟩

/-- A script panics, or a typed handler is called that has no view of the event. The stack is the
one that the panic starts on. -/
inductive Panics (m : Machine H σ ε) : Payload → List (Frame H σ ε) → Prop where
  | raised {payload} (control : m.control = .run (.panic payload)) : Panics m payload m.stack
  | defect {order t e x xs base} (control : m.control = .back)
      (stack : m.stack = .deliveries order t e (x :: xs) :: base) (none : x.given e = none) :
    Panics m (.text (x.defect e).message) (.handling e x :: .deliveries order t e xs :: base)

/-- For so many steps a panic gives up one frame a step, and nothing else happens. -/
def Unwinds (p : Program H σ ε) (payload : Payload) (n : Nat) (m : Machine H σ ε) : Prop :=
  ∀ k ≤ n, (after p m k).control = .unwind payload ∧ (after p m k).stack = m.stack.drop k ∧
    (after p m k).state.trace = m.state.trace

/-- A step first and then some more are as many and one more. -/
lemma after_of_step (st : step p m = .going m') (n : Nat) : after p m (n + 1) = after p m' n := by
  induction n with
  | zero => simp only [after, st]
  | succ n ih => rw [after, ih, after]

section Unwinding

variable {payload : Payload} {f : Frame H σ ε} {fs base : List (Frame H σ ε)}

/-- A panic gives up a frame, unless that catches it, and a drain gives up its queue. -/
lemma unwind_step (control : m.control = .unwind payload) (stack : m.stack = f :: base)
    (report : ¬f.IsReport) (pool : f ≠ .pool) :
    ∃ m₁, step p m = .going m₁ ∧ m₁.control = .unwind payload ∧ m₁.stack = base ∧
      (m₁.state.trace = m.state.trace ∨
        ∃ d t, f = .drain d t ∧ m₁.state = m.state.closeQueue (d, t)) := by
  rw [step, control]
  dsimp only
  unfold unwind
  rw [stack]
  cases f with
  | handling e x =>
    obtain ⟨locks, same⟩ := m.state.leave_state x
    exact ⟨_, rfl, control, rfl, .inl (by rw [same])⟩
  | resume | deliveries | join | backlog => exact ⟨_, rfl, control, rfl, .inl rfl⟩
  | drain d t => exact ⟨_, rfl, control, rfl, .inr ⟨d, t, rfl, rfl⟩⟩
  | pool => exact absurd rfl pool
  | reporting => exact absurd trivial report

/-- A panic gives up nested frames one by one, if none of them reports. -/
lemma unwinds_of_nested (control : m.control = .unwind payload) (stack : m.stack = fs ++ base)
    (nested : Nested (fs ++ base)) (others : ∀ f ∈ fs, ¬f.IsReport) :
    Unwinds p payload fs.length m := by
  induction fs generalizing m with
  | nil =>
    intro k low
    obtain rfl := Nat.le_zero.1 low
    exact ⟨control, rfl, rfl⟩
  | cons f fs ih =>
    obtain ⟨other, others⟩ := List.forall_mem_cons.1 others
    obtain ⟨m₁, st, control₁, stack₁, silent⟩ := unwind_step (p := p) control stack other
      (by rintro rfl; exact Nested.not_pool nested)
    have trace₁ : m₁.state.trace = m.state.trace := by
      obtain trace₁ | ⟨d, t, rfl, _⟩ := silent
      · exact trace₁
      · exact absurd nested Nested.not_drain
    have rest := ih control₁ stack₁ nested.tail others
    intro k low
    cases k with
    | zero => exact ⟨control, rfl, rfl⟩
    | succ k =>
      obtain ⟨control', stack', trace'⟩ := rest k (Nat.le_of_succ_le_succ low)
      rw [after_of_step st]
      refine ⟨control', ?_, trace'.trans trace₁⟩
      rw [stack', stack₁, stack]
      rfl

end Unwinding

/-- A step of a panic gives up the top frame and goes on. -/
lemma Panics.step {payload : Payload} {frames : List (Frame H σ ε)} {m₁ : Machine H σ ε}
    (panics : m.Panics payload frames) (h : m.Immediately) (st : Machine.step p m = .going m₁) :
    m₁.control = .unwind payload ∧ m₁.stack = frames ∧ Nested frames := by
  cases panics with
  | raised control =>
    rw [Machine.step, control] at st
    cases st
    exact ⟨rfl, rfl, h.nested_of_run control⟩
  | @defect order t e x xs base control stack none =>
    have nested := h.nested_of_stack stack (by rintro ⟨⟩)
    obtain ⟨rfl, direct⟩ := nested.of_deliveries
    have below : Nested (.deliveries .immediate t e xs :: base) :=
      .deliveries (fun y mem => direct y (List.mem_cons_of_mem x mem)) nested.tail
    rw [Machine.step, control] at st
    simp only [goBack, stack, deliver, direct x List.mem_cons_self] at st
    rw [invoke_turn st]
    refine ⟨?_, rfl, .handling below⟩
    show opening p e x = _
    rw [opening, none]

/-- Where every event is delivered at once, a panic, be it raised by a handler, by a report or by a
handler that is called without a view of its event, unwinds with its payload all that it is nested
in, as far as the innermost report of an error. Nothing happens meanwhile. If there is a report on
its way, the report contains it and is said to have panicked, once, and the deliveries go on of the
event whose handler had failed. If there is none, the panic leaves the outermost post and the run. -/
theorem panic_stops_at_report {hierarchy : Hierarchy} {user : σ} {script : Script H σ ε}
    {m₁ : Machine H σ ε} {payload : Payload} {frames : List (Frame H σ ε)}
    (later : Later p (start (.initial hierarchy user) script) m)
    (all : AllImmediate m.state.trace.toList) (panics : m.Panics payload frames)
    (st : step p m = .going m₁) :
    m₁.control = .unwind payload ∧ m₁.stack = frames ∧
    ((∀ f ∈ frames, ¬f.IsReport) →
      Unwinds p payload frames.length m₁ ∧
      ∃ s, step p (after p m₁ frames.length) = .ended s (.panicked payload) ∧
        s.trace = m₁.state.trace) ∧
    ∀ fs failure context rest, frames = fs ++ .reporting failure context :: rest →
      (∀ f ∈ fs, ¬f.IsReport) →
      Unwinds p payload fs.length m₁ ∧
      ∃ m₂ t xs base, step p (after p m₁ fs.length) = .going m₂ ∧ m₂.control = .back ∧
        m₂.stack = rest ∧ rest = .deliveries .immediate t context.event xs :: base ∧
        m₂.state.trace = m₁.state.trace.push (.reportPanicked payload failure context) := by
  have idle : (start (.initial hierarchy user) script : Machine H σ ε).Immediately :=
    ⟨.inl .nil, rfl, rfl⟩
  obtain ⟨control, stack, nested⟩ := panics.step (later.immediately idle all) st
  refine ⟨control, stack, ?_, ?_⟩
  · intro others
    have whole : m₁.stack = frames ++ [] := by rw [stack, List.append_nil]
    have unwinds : Unwinds p payload frames.length m₁ :=
      unwinds_of_nested control whole (by rwa [List.append_nil]) others
    obtain ⟨control', stack', trace'⟩ := unwinds _ le_rfl
    refine ⟨unwinds, _, ?_, trace'⟩
    rw [stack, List.drop_length] at stack'
    rw [step, control']
    dsimp only
    rw [unwind, stack']
  · intro fs failure context rest split others
    rw [split] at stack nested
    have unwinds : Unwinds p payload fs.length m₁ := unwinds_of_nested control stack nested others
    obtain ⟨control', stack', trace'⟩ := unwinds _ le_rfl
    rw [stack, List.drop_left] at stack'
    obtain ⟨t, xs, base, below⟩ := nested.of_append.of_reporting
    let m₂ : Machine H σ ε :=
      { after p m₁ fs.length with
        state := (after p m₁ fs.length).state.emit (.reportPanicked payload failure context)
        stack := rest
        control := .back }
    have caught : step p (after p m₁ fs.length) = .going m₂ := by
      rw [step, control']
      dsimp only
      rw [unwind, stack']
    refine ⟨unwinds, m₂, t, xs, base, caught, rfl, rfl, below, ?_⟩
    rw [← trace']
    rfl

namespace Swallow

def event (tag : String) : Event := .free ⟨"Note"⟩ "Note" tag [] []

def failure : Failure := .ofMessage "no"

/-- A handler that fails on a note, and panics when it is given an alarm. Errors are reported by an
alarm. -/
def program : Program Unit Unit Unit where
  handle _ e :=
    match e with
    | .free _ _ "alarm" _ _ => .panic (.text "boom")
    | _ => .finish (.error failure)
  report _ _ _ := .post 1 (event "alarm") false (.finish (.ok ()))

def script : Script Unit Unit Unit :=
  .build ⟨"bus", .direct, .plain .immediate, .custom ()⟩ fun b =>
  .register b.id ⟨1, "Listener", "listener"⟩
    [⟨"on_note", ⟨"Note"⟩, .whole, true, none, ()⟩] fun _ =>
  .post b.id (event "note") false (.finish (.ok ()))

def machine (n : Nat) : Machine Unit Unit Unit :=
  after program (start (.initial .empty ()) script) n

end Swallow

/-- A handler panics that is called for an alarm, in a post that a report has made. The panic does
not get out of the outermost post: the run goes on and ends well. -/
theorem swallow_returns :
    Later Swallow.program (start (.initial .empty ()) Swallow.script) (Swallow.machine 7) ∧
    AllImmediate (Swallow.machine 7).state.trace.toList ∧
    (Swallow.machine 7).control = .run (.panic (.text "boom")) ∧
    (∃ x fs, (Swallow.machine 7).stack = .handling (Swallow.event "alarm") x :: fs) ∧
    ∃ s, step Swallow.program (Swallow.machine 14) = .ended s (.returned (.ok ())) :=
  ⟨Later.after _ 7, by decide +kernel, by cbv, ⟨_, _, by cbv⟩, ⟨_, by cbv⟩⟩

/-- The panic gets as far as the report, which contains it. -/
theorem swallow_stops :
    ∃ m₁ m₂ failure context rest, step Swallow.program (Swallow.machine 7) = .going m₁ ∧
      Unwinds Swallow.program (.text "boom") 3 m₁ ∧
      step Swallow.program (after Swallow.program m₁ 3) = .going m₂ ∧ m₂.control = .back ∧
      m₂.stack = rest ∧ m₂.state.trace =
        m₁.state.trace.push (.reportPanicked (.text "boom") failure context) := by
  have later : Later Swallow.program (start (.initial .empty ()) Swallow.script)
      (Swallow.machine 7) := Later.after _ 7
  have all : AllImmediate (Swallow.machine 7).state.trace.toList := by decide +kernel
  have control : (Swallow.machine 7).control = .run (.panic (.text "boom")) := by cbv
  obtain ⟨f₁, f₂, f₃, failure, context, rest, stack, other₁, other₂, other₃⟩ :
      ∃ f₁ f₂ f₃ failure context rest,
        (Swallow.machine 7).stack = [f₁, f₂, f₃] ++ .reporting failure context :: rest ∧
        ¬f₁.IsReport ∧ ¬f₂.IsReport ∧ ¬f₃.IsReport :=
    ⟨_, _, _, _, _, _, by cbv, id, id, id⟩
  have others : ∀ f ∈ [f₁, f₂, f₃], ¬f.IsReport := by
    simp only [List.forall_mem_cons]
    exact ⟨other₁, other₂, other₃, List.forall_mem_nil _⟩
  have st := step_after (p := Swallow.program)
    (m := start (.initial .empty ()) Swallow.script) (n := 7) (by decide +kernel)
  obtain ⟨_, _, _, caught⟩ := panic_stops_at_report later all (.raised control) st
  obtain ⟨unwinds, m₂, _, _, _, stops, back, stack', _, trace⟩ :=
    caught _ failure context rest stack others
  exact ⟨_, m₂, failure, context, rest, st, unwinds, stops, back, stack', trace⟩

end Machine

end EventBus
