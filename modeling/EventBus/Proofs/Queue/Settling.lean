import EventBus.Proofs.Queue.Owing

/-!
# Settling what is owed

A machine that owes something goes on until nothing is owed. `Owing.step` says what one step does:
it settles a piece of what is owed, or it brings the machine nearer to the next piece.
-/

namespace EventBus

variable {H σ ε : Type}

/-- A script comes to another one by a call that leaves its posts as they are. -/
inductive Script.Nearer : Script H σ ε → Script H σ ε → Prop where
  | note {entry next} : Nearer next (.note entry next)
  | inspect {next s t} : Nearer (next s t) (.inspect next)
  | update {change next} : Nearer next (.update change next)

inductive Control.Nearer : Control H σ ε → Control H σ ε → Prop where
  | run {script script'} :
    script'.Nearer script →
    Nearer (.run script') (.run script)

/-- There is no endless descent to the rest of a script. -/
lemma Script.nearer_wf : WellFounded (Script.Nearer (H := H) (σ := σ) (ε := ε)) := by
  constructor
  intro script
  induction script with
  | note _ _ ih =>
    constructor
    rintro _ ⟨⟩
    exact ih
  | inspect _ ih =>
    constructor
    rintro _ ⟨⟩
    exact ih _ _
  | update _ _ ih =>
    constructor
    rintro _ ⟨⟩
    exact ih
  | _ =>
    constructor
    rintro _ ⟨⟩

/-- There is none from one control to a nearer one. -/
lemma Control.nearer_wf : WellFounded (Control.Nearer (H := H) (σ := σ) (ε := ε)) := by
  constructor
  intro control
  cases control with
  | run script =>
    induction script using Script.nearer_wf.induction with
    | h script ih =>
      constructor
      rintro _ ⟨nearer⟩
      exact ih _ nearer
  | back =>
    constructor
    rintro _ ⟨⟩
  | unwind payload =>
    constructor
    rintro _ ⟨⟩

namespace Machine

/-- What a machine still has to do. -/
inductive Remains (c : Conduct H) (m : Machine H σ ε) : Multiset (Due H) → Nat → Prop where
  | run {script posts r owed w} (control : m.control = .run script) (runs : script.Posts posts r)
      (owes : Owes c m.state.waiting m.stack r owed w) :
    Remains c m (duePosts posts + owed) (w + 1)
  | back {owed w} (control : m.control = .back)
      (owes : Owes c m.state.waiting m.stack (.ok ()) owed w) :
    Remains c m owed w

/-- A machine that is about to do what is owed, on buses that offer what they are expected to. -/
structure Owing (c : Conduct H) (offers : Nat → Option (Offer H)) (occurs : Nat → Event → Prop)
    (m : Machine H σ ε) (owed : Multiset (Due H)) (w : Nat) : Prop where
  wellFormed : WellFormed m
  same : m.state.offers = offers
  number : ∀ {bus o}, offers bus = some o → o.handle.id = bus
  free : ∀ lock, m.state.lockedOut m.thread lock = false
  expected : ∀ d ∈ owed, d.Expected c occurs
  remains : Remains c m owed w

/-- What becomes of a machine that owes something. -/
inductive Onward (c : Conduct H) (offers : Nat → Option (Offer H)) (occurs : Nat → Event → Prop)
    (m : Machine H σ ε) (owed : Multiset (Due H)) (w : Nat) : Progress H σ ε → Prop where
  | ended {ending} (none : owed = 0) : Onward c offers occurs m owed w (.ended m.state ending)
  /-- Nothing of it is done, but the machine comes nearer to it. -/
  | rests {m' w'} (owing : Owing c offers occurs m' owed w') (shows : m.state.Shows m'.state [])
      (nearer : w' < w ∨ w' = w ∧ m'.control.Nearer m.control) :
    Onward c offers occurs m owed w (.going m')
  /-- Something of it is done. -/
  | settles {m' d rest w'} (split : owed = d ::ₘ rest)
      (owing : Owing c offers occurs m' ((settlement offers c).yields d + rest) w')
      (shows : m.state.Shows m'.state ((settlement offers c).tells d)) :
    Onward c offers occurs m owed w (.going m')

variable {p : Program H σ ε} {c : Conduct H} {offers : Nat → Option (Offer H)}
  {occurs : Nat → Event → Prop} {m m' : Machine H σ ε} {owed rest : Multiset (Due H)} {w w' : Nat}
  {d : Due H}

/-- What a post turns into, and what happens meanwhile. -/
lemma owes_post (wf : WellFormed m) (same : m.state.offers = offers)
    (number : ∀ {bus o}, offers bus = some o → o.handle.id = bus)
    (owes : Owes c m.state.waiting m.stack (.ok ()) owed w) (bus : Nat) (e : Event) :
    ∃ w', Owes c (m.post bus e).state.waiting (m.post bus e).stack (.ok ())
        ((settlement offers c).yields (.post bus e) + owed) w' ∧
      m.state.Keeps m.thread (m.post bus e).state
        ((settlement offers c).tells (.post bus e)) := by
  have offered := congrFun same bus
  cases found : m.state.buses.get? bus with
  | none =>
    rw [State.offers, found, Option.map_none] at offered
    rw [post_unknown found]
    simp only [settlement, ← offered, Option.elim_none, List.map_nil, Multiset.coe_nil, zero_add]
    exact ⟨w, owes, .refl _ _⟩
  | some b =>
    rw [State.offers, found, Option.map_some] at offered
    have course := post_course found e
    obtain ⟨w', owes⟩ := course.owes wf owes
    have keeps := course.keeps found (number offered.symm) (routed_post ..)
    simp only [settlement, ← offered]
    exact ⟨w', owes, keeps⟩

namespace Owing

/-- A step that tells nothing and comes nearer is a step onward. -/
lemma rests (h : Owing c offers occurs m owed w) (st : step p m = .going m')
    (keeps : m.state.Keeps m.thread m'.state []) (thread : m'.thread = m.thread)
    (remains : Remains c m' owed w')
    (nearer : w' < w ∨ w' = w ∧ m'.control.Nearer m.control) :
    Onward c offers occurs m owed w (step p m) := by
  have owing : Owing c offers occurs m' owed w' := by
    refine ⟨h.wellFormed.move (step_move st), keeps.offers.trans h.same, h.number, ?_, h.expected,
      remains⟩
    rw [thread]
    exact keeps.free h.free
  rw [st]
  exact .rests owing keeps.shows nearer

/-- A step that does one thing that is owed is a step onward. -/
lemma settles (h : Owing c offers occurs m owed w) (regular : Regular p c offers occurs)
    (split : owed = d ::ₘ rest) (st : step p m = .going m')
    (keeps : m.state.Keeps m.thread m'.state ((settlement offers c).tells d))
    (thread : m'.thread = m.thread)
    (remains : Remains c m' ((settlement offers c).yields d + rest) w') :
    Onward c offers occurs m owed w (step p m) := by
  have expected := h.expected
  rw [split, Multiset.forall_mem_cons] at expected
  have owing : Owing c offers occurs m' ((settlement offers c).yields d + rest) w' := by
    refine ⟨h.wellFormed.move (step_move st), keeps.offers.trans h.same, h.number, ?_, ?_, remains⟩
    · rw [thread]
      exact keeps.free h.free
    · intro d' mem
      obtain mem | mem := Multiset.mem_add.1 mem
      · exact regular.expected_yields expected.1 d' (Multiset.mem_coe.1 mem)
      · exact expected.2 d' mem
  rw [st]
  exact .settles split owing keeps.shows

/-- A post is settled by the deliveries that it calls for. -/
lemma step_post (h : Owing c offers occurs m owed w) (regular : Regular p c offers occurs)
    {bus : Nat} {e : Event} {next : Script H σ ε}
    (control : m.control = .run (.post bus e false next))
    (split : owed = .post bus e ::ₘ rest)
    (owes : Owes c m.state.waiting (.resume next :: m.stack) (.ok ()) rest w') :
    Onward c offers occurs m owed w (step p m) := by
  have st : step p m = .going ((m.putAside next false).post bus e) := by
    rw [step, control]
    rfl
  have wf : WellFormed (m.putAside next false) := h.wellFormed.posting (.here rfl rfl (.refl _))
  obtain ⟨thread, back⟩ := post_back (m.putAside next false) bus e
  obtain ⟨_, owes, keeps⟩ := owes_post wf h.same h.number owes bus e
  exact h.settles regular split st keeps thread (.back back owes)

/-- An error of a handler is reported, and what the report posts is owed still. -/
lemma report (h : Owing c offers occurs m owed w) (regular : Regular p c offers occurs)
    {failure : Failure} {e : Event} {x : Subscriber H} {fs : List (Frame H σ ε)}
    (st : step p m = .going (Machine.report p m (m.state.leave x) fs failure e x))
    (split : owed = duePosts (c.aftermath e x (.error failure)) + rest)
    (owes : Owes c m.state.waiting fs (.ok ()) rest w') (below : w' + 2 < w) :
    Onward c offers occurs m owed w (step p m) := by
  have left : m.state.Keeps m.thread (m.state.leave x) [] := (State.Keeps.refl _ _).leave x
  have reported := left.skip (o := .reported failure (x.failureContext e)) rfl
  have owes : Owes c (m.state.leave x).waiting fs (.ok ()) rest w' :=
    owes.congr fun d t _ => waiting_congr (m.state.calm_leave x).queues (d, t)
  unfold Machine.report at st
  unfold Conduct.aftermath at split
  cases policy : x.desk.policy with
  | log =>
    simp only [policy] at st split
    rw [duePosts_nil, zero_add] at split
    rw [split] at h ⊢
    exact h.rests st (reported.skip rfl) rfl (.back rfl owes) (.inl (by omega))
  | custom code =>
    simp only [policy] at st split
    obtain ⟨_, runs⟩ := regular.report code failure (x.failureContext e)
    rw [split] at h ⊢
    exact h.rests st reported rfl (.run rfl runs (.reporting owes)) (.inl (by omega))

/-- A script comes to its end, and what it was run for goes on. -/
lemma finish (h : Owing c offers occurs m owed w) (regular : Regular p c offers occurs)
    {r : Except Failure Unit} (st : step p m = Machine.finish p m r)
    (owes : Owes c m.state.waiting m.stack r owed w') (below : w' ≤ w)
    (body : w' < w ∨ ∃ f fs, m.stack = f :: fs ∧ f.IsBody) :
    Onward c offers occurs m owed w (step p m) := by
  have other {f fs} (stack : m.stack = f :: fs) (other : ¬f.IsBody)
      (owes : Owes c m.state.waiting (f :: fs) (.ok ()) owed w') :
      Onward c offers occurs m owed w (step p m) := by
    obtain less | ⟨f', fs', stack', body⟩ := body
    · have st : step p m = .going { m with control := .back } := by
        rw [st, Machine.finish, stack]
        cases f <;> first | rfl | exact absurd trivial other
      rw [← stack] at owes
      exact h.rests st (.refl _ _) rfl (.back rfl owes) (.inl less)
    · cases stack.symm.trans stack'
      exact absurd body other
  generalize stack : m.stack = fs at owes
  cases owes with
  | nil =>
    rw [st, Machine.finish, stack]
    exact .ended rfl
  | resume runs owes => exact other stack id (.resume runs owes)
  | deliveries owes => exact other stack id (.deliveries owes)
  | drain owes => exact other stack id (.drain owes)
  | @handling e x _ fs owed w₀ owes =>
    cases r with
    | ok u =>
      have st : step p m = .going { m with
          state := (m.state.leave x).emit (.delivered e x), stack := fs, control := .back } := by
        rw [st, Machine.finish, stack]
      have left : m.state.Keeps m.thread (m.state.leave x) [] := (State.Keeps.refl _ _).leave x
      have owes : Owes c (m.state.leave x).waiting fs (.ok ()) owed w₀ :=
        owes.congr fun d t _ => waiting_congr (m.state.calm_leave x).queues (d, t)
      rw [Conduct.aftermath, duePosts_nil, zero_add] at h ⊢
      exact h.rests st (left.skip rfl) rfl (.back rfl owes) (.inl (by omega))
    | error failure =>
      rw [Machine.finish, stack] at st
      exact h.report regular st rfl owes (by omega)
  | @reporting failure context _ fs owed w₀ owes =>
    have same : m.state.Keeps m.thread m.state [] := .refl _ _
    rw [Machine.finish, stack] at st
    cases r with
    | ok _ => exact h.rests st same rfl (.back rfl owes) (.inl (by omega))
    | error secondary => exact h.rests st (same.skip rfl) rfl (.back rfl owes) (.inl (by omega))

/-- A script goes on by one call. -/
lemma step_run (h : Owing c offers occurs m owed w) (regular : Regular p c offers occurs)
    {script : Script H σ ε} {posts : List (Nat × Event)} {r : Except Failure Unit}
    (control : m.control = .run script) (runs : script.Posts posts r)
    (split : owed = duePosts posts + rest) (owes : Owes c m.state.waiting m.stack r rest w')
    (above : w = w' + 1) :
    Onward c offers occurs m owed w (step p m) := by
  have same : m.state.Keeps m.thread m.state [] := .refl _ _
  subst split above
  cases runs with
  | finish =>
    have st : step p m = Machine.finish p m r := by
      rw [step, control]
      rfl
    rw [duePosts_nil, zero_add] at h ⊢
    exact h.finish regular st owes (Nat.le_succ w') (.inl (Nat.lt_succ_self w'))
  | @note entry next _ _ runs =>
    have st : step p m = .going { m with
        state := m.state.emit (.noted entry), control := .run next } := by
      rw [step, control]
      rfl
    refine h.rests st (same.skip rfl) rfl (.run rfl runs owes) (.inr ⟨rfl, ?_⟩)
    rw [control]
    exact .run .note
  | @inspect next _ _ runs =>
    have st : step p m = .going { m with control := .run (next m.state m.thread) } := by
      rw [step, control]
      rfl
    refine h.rests st same rfl (.run rfl (runs m.state m.thread) owes) (.inr ⟨rfl, ?_⟩)
    rw [control]
    exact .run .inspect
  | @update change next _ _ runs =>
    have st : step p m = .going { m with
        state := { m.state with user := change m.state.user }, control := .run next } := by
      rw [step, control]
      rfl
    refine h.rests st (.of_eq rfl rfl rfl rfl) rfl (.run rfl runs owes) (.inr ⟨rfl, ?_⟩)
    rw [control]
    exact .run .update
  | @post bus e next posts _ runs =>
    have split : duePosts ((bus, e) :: posts) + rest = .post bus e ::ₘ (duePosts posts + rest) := by
      rw [duePosts_cons, Multiset.cons_add]
    exact h.step_post regular control split (.resume runs owes)

/-- The next delivery calls a handler, and the others are owed still. -/
lemma step_delivery (h : Owing c offers occurs m owed w) (regular : Regular p c offers occurs)
    (control : m.control = .back) {order : DispatchOrder} {t : Nat} {e : Event} {x : Subscriber H}
    {xs : List (Subscriber H)} {fs : List (Frame H σ ε)}
    (stack : m.stack = .deliveries order t e (x :: xs) :: fs)
    (split : owed = .delivery ⟨e, x :: xs⟩ ::ₘ rest)
    (owes : Owes c m.state.waiting fs (.ok ()) rest w') :
    Onward c offers occurs m owed w (step p m) := by
  have serves : c.Serves occurs e x := by
    have expected := h.expected
    rw [split, Multiset.forall_mem_cons] at expected
    exact expected.1 x List.mem_cons_self
  obtain ⟨v, given⟩ := Option.isSome_iff_exists.1 serves.given
  have enters : (!x.concurrent && m.state.lockedOut m.thread x.lock) = false := by
    rw [h.free, Bool.and_false]
  have st : step p m = .going ({ m with stack := .deliveries order t e xs :: fs }.inside p
      (m.state.emit (.submitted m.thread order e x)) e x) := by
    rw [step, control]
    dsimp only
    rw [goBack, stack]
    dsimp only
    rw [deliver, serves.direct]
    dsimp only
    rw [invoke, if_neg]
    · rfl
    · rw [Bool.not_eq_true]
      exact enters
  have submitted : m.state.Keeps m.thread (m.state.emit (.submitted m.thread order e x)) [] :=
    (State.Keeps.refl _ _).skip rfl
  have keeps := (submitted.enter x).emit (.invoked m.thread e x)
  have queues := ((m.state.emit (.submitted m.thread order e x)).calm_enter m.thread x).queues
  have owes : Owes c ((m.state.emit (.submitted m.thread order e x)).enter m.thread x).waiting fs
      (.ok ()) rest w' := owes.congr fun d t _ => waiting_congr queues (d, t)
  have runs : opening p e x = .run (p.handle x.code v) := by rw [opening, given]
  have remains : Remains c ({ m with stack := .deliveries order t e xs :: fs }.inside p
      (m.state.emit (.submitted m.thread order e x)) e x)
      (duePosts (c.posts x.code v) + (duePosts (c.aftermath e x (c.result x.code v)) +
        .delivery ⟨e, xs⟩ ::ₘ rest)) (w' + 3 + 1) :=
    .run runs (regular.handle x.code v) (.handling (.deliveries owes))
  have turned : ((settlement offers c).yields (.delivery ⟨e, x :: xs⟩) : Multiset (Due H)) + rest =
      duePosts (c.posts x.code v) + (duePosts (c.aftermath e x (c.result x.code v)) +
        .delivery ⟨e, xs⟩ ::ₘ rest) := by
    have answered : (duePosts (c.answer e x) : Multiset (Due H)) =
        duePosts (c.posts x.code v) + duePosts (c.aftermath e x (c.result x.code v)) := by
      rw [Conduct.answer, given]
      exact duePosts_append ..
    show .delivery ⟨e, xs⟩ ::ₘ (duePosts (c.answer e x) : Multiset (Due H)) + rest = _
    rw [answered, Multiset.cons_add, ← add_assoc, Multiset.add_cons]
  rw [← turned] at remains
  exact h.settles regular split st keeps rfl remains

/-- A drain takes the next event out of its queue, or closes the queue. -/
lemma step_drain (h : Owing c offers occurs m owed w) (control : m.control = .back) {id t : Nat}
    {fs : List (Frame H σ ε)} (stack : m.stack = .drain id t :: fs)
    (split : owed = (m.state.waiting (id, t)).map Due.delivery + rest)
    (above : w = w' + (m.state.waiting (id, t)).length + 1)
    (owes : Owes c m.state.waiting fs (.ok ()) rest w') :
    Onward c offers occurs m owed w (step p m) := by
  have back : step p m = goBack p m := by rw [step, control]
  obtain ⟨_, once, _⟩ := (h.wellFormed.coherent_of stack).of_drain
  obtain ⟨q, found⟩ := h.wellFormed.open_of_mem (stack ▸ List.mem_cons_self)
  -- The queue is drained nowhere else.
  have below {queues : Table (Nat × Nat) (DispatchQueue H)}
      (same : ∀ key, (id, t) ≠ key → queues.get? key = m.state.queues.get? key) :
      Owes c ({ m.state with queues := queues } : State H σ ε).waiting fs (.ok ()) rest w' := by
    apply owes.congr
    intro d' t' mem
    rw [State.waiting, State.waiting, same]
    rintro ⟨⟩
    exact once mem
  rw [waiting_of_get? found] at split above
  cases q with
  | nil =>
    have dequeued : m.state.dequeue (id, t) = none := by rw [State.dequeue, found]
    have closed : m.state.closeQueue (id, t) =
        { m.state with queues := m.state.queues.erase (id, t) } := by
      rw [State.closeQueue, found]
    have st : step p m = .going { m with state := m.state.closeQueue (id, t), stack := fs } := by
      rw [back, goBack, stack]
      dsimp only
      rw [dequeued]
    rw [closed] at st
    rw [List.map_nil, Multiset.coe_nil, zero_add] at split
    rw [split] at h ⊢
    refine h.rests st (.of_eq rfl rfl rfl rfl) rfl (.back control (below ?_)) (.inl (by omega))
    intro key other
    rw [Table.get?_erase, if_neg other]
  | cons next q =>
    have dequeued : m.state.dequeue (id, t) =
        some ({ m.state with queues := m.state.queues.set (id, t) ⟨q, true⟩ }, next) := by
      rw [State.dequeue, found]
    have st : step p m = .going (m.entering
        { m.state with queues := m.state.queues.set (id, t) ⟨q, true⟩ }
        (.deliveries (.queued id) t next.event next.subscribers)) := by
      rw [back, goBack, stack]
      dsimp only
      rw [dequeued]
    have same : ∀ key, (id, t) ≠ key →
        (m.state.queues.set (id, t) ⟨q, true⟩).get? key = m.state.queues.get? key := by
      intro key other
      rw [Table.get?_set, if_neg other]
    have drains : Owes c _ (.drain id t :: fs) (.ok ()) _ _ := (below same).drain
    rw [waiting_set rfl, if_pos rfl, ← stack] at drains
    rw [List.map_cons, ← Multiset.cons_coe, Multiset.cons_add] at split
    rw [split] at h ⊢
    refine h.rests st (.of_eq rfl rfl rfl rfl) rfl (.back rfl drains.deliveries) (.inl ?_)
    rw [above, List.length_cons]
    exact Nat.lt_succ_self _

/-- A machine that goes back makes a step onward. -/
lemma step_back (h : Owing c offers occurs m owed w) (regular : Regular p c offers occurs)
    (control : m.control = .back) (owes : Owes c m.state.waiting m.stack (.ok ()) owed w) :
    Onward c offers occurs m owed w (step p m) := by
  have back : step p m = goBack p m := by rw [step, control]
  generalize stack : m.stack = fs at owes
  cases owes with
  | nil =>
    rw [back, goBack, stack]
    exact .ended rfl
  | resume runs owes =>
    rw [goBack, stack] at back
    exact h.rests back (.refl _ _) rfl (.run rfl runs owes) (.inl (Nat.lt_succ_self _))
  | @deliveries order t e xs _ fs rest _ owes =>
    cases xs with
    | nil =>
      have st : step p m = .going { m with stack := fs } := by rw [back, goBack, stack]
      have none :
          ((settlement offers c).yields (.delivery ⟨e, []⟩) : Multiset (Due H)) + rest = rest :=
        zero_add rest
      rw [← none] at owes
      exact h.settles regular rfl st (.refl _ _) rfl (.back control owes)
    | cons x xs => exact h.step_delivery regular control stack rfl owes
  | drain owes => exact h.step_drain control stack rfl rfl owes
  | handling owes =>
    have st : step p m = Machine.finish p m (.ok ()) := by
      rw [back, goBack, stack]
    refine h.finish regular st ?_ le_rfl (.inr ⟨_, _, stack, trivial⟩)
    rw [stack]
    exact .handling owes
  | reporting owes =>
    have st : step p m = Machine.finish p m (.ok ()) := by
      rw [back, goBack, stack]
    refine h.finish regular st ?_ le_rfl (.inr ⟨_, _, stack, trivial⟩)
    rw [stack]
    exact .reporting owes

/-- Whoever owes something goes on, and what is done turns into what is owed next. -/
theorem step (h : Owing c offers occurs m owed w) (regular : Regular p c offers occurs) :
    Onward c offers occurs m owed w (Machine.step p m) := by
  cases h.remains with
  | run control runs owes => exact h.step_run regular control runs rfl owes rfl
  | back control owes => exact h.step_back regular control owes

end Owing

end Machine

end EventBus
