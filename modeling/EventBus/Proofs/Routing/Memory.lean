import EventBus.Proofs.Routing.Attribution
import EventBus.Proofs.Routing.Overheard

/-!
# What buses remember of types

A bus computes the closure of a type when it looks up subscribers for the type for the first time,
and goes by that closure ever after, whatever supertypes are declared in the meantime, while the
subscribers are those of the moment. A step changes what a bus keeps of a type in one case only,
which is that it looks the type up and keeps nothing of it yet (`LooksUp.kept`,
`Reachable.kept_step`).
-/

namespace EventBus

variable {H σ ε : Type}

namespace Registry

/-- To remember a closure changes the memory at its type and nowhere else. -/
lemma closures_remember (r : Registry H) (h : Hierarchy) (t u : EventType) :
    (r.remember h t).closures.get? u =
      if u = t then some (r.closureOf h u) else r.closures.get? u := by
  rw [remember, closureOf]
  cases known : r.closures.get? t with
  | some c =>
    dsimp only
    split
    · rename_i same
      rw [same, known, Option.getD_some]
    · rfl
  | none =>
    dsimp only
    rw [Table.get?_set]
    by_cases same : u = t
    · rw [if_pos same.symm, if_pos same, same, known, Option.getD_none]
    · rw [if_neg (Ne.symm same), if_neg same]

/-- An unregistration forgets no closure. -/
lemma unregister_closures {r r' : Registry H} {target : Target} {bs : List (Binding H)} {n : Nat}
    (done : r.unregister target bs = .ok (r', n)) : r'.closures = r.closures := by
  unfold unregister at done
  split at done
  · obtain ⟨lists, same⟩ := Books.foldl_removeNamed r target bs (declaredTypes bs)
    cases done
    rw [same]
  · cases done

end Registry

/-- The types that a bus looks up for an event: the type of the event, and that of dead events where
nobody listens to an event that is not a dead one. -/
def Bus.Asks (b : Bus H) (h : Hierarchy) (e : Event) (t : EventType) : Prop :=
  t = e.type ∨ t = .deadEvent ∧ e.type ≠ .deadEvent ∧ b.registry.resolve h e.type = []

namespace State

/-- The closure that a bus keeps of a type, if it does. -/
def kept (s : State H σ ε) (k : Nat) (t : EventType) : Option (List EventType) :=
  (s.buses.get? k).bind fun b => b.registry.closures.get? t

/-- A bus has looked up subscribers for a type. -/
def HasLookedUp (s : State H σ ε) (k : Nat) (t : EventType) : Prop :=
  ∃ r xs, r.id = k ∧ .resolved r t xs ∈ s.trace.toList

variable {s s' : State H σ ε} {j k : Nat} {b : Bus H} {t u : EventType}

/-- What a bus that exists keeps is what its registry remembers. -/
lemma kept_of_found (found : s.buses.get? k = some b) :
    s.kept k t = b.registry.closures.get? t := by
  rw [kept, found, Option.bind_some]

/-- The closure that a look-up goes by. -/
lemma closureOf_eq (found : s.buses.get? k = some b) (h : Hierarchy) (t : EventType) :
    b.registry.closureOf h t = (s.kept k t).getD (h.closure t) := by
  rw [Registry.closureOf, kept_of_found found]

/-- What is kept depends on the buses alone. -/
lemma kept_congr (same : s'.buses = s.buses) : s'.kept k t = s.kept k t := by
  rw [kept, same, kept]

/-- To write back a bus changes what is kept under its own number only. -/
lemma kept_setBus (s : State H σ ε) (b : Bus H) : (s.setBus b).kept k t =
    if b.handle.id = k then b.registry.closures.get? t else s.kept k t := by
  show ((s.buses.set b.handle.id b).get? k).bind _ = _
  rw [Table.get?_set]
  split <;> rfl

/-- A look-up makes the bus keep the closure of the type. -/
lemma bus_of_resolve (found : s.buses.get? j = some b) (number : b.handle.id = j)
    (t : EventType) : (s.resolve b t).1.buses.get? j =
      some { b with registry := b.registry.remember s.hierarchy t } := by
  unfold resolve Registry.remember
  cases b.registry.closures.get? t with
  | some _ => exact found
  | none => exact (Table.get?_set ..).trans (if_pos number)

/-- A look-up on one bus leaves the others as they are. -/
lemma bus_of_resolve_ne (other : b.handle.id ≠ k) (t : EventType) :
    (s.resolve b t).1.buses.get? k = s.buses.get? k := by
  unfold resolve
  cases b.registry.closures.get? t with
  | some _ => rfl
  | none => exact (Table.get?_set ..).trans (if_neg other)

/-- A look-up keeps the closure of its own type on its own bus. -/
lemma kept_resolve (found : s.buses.get? j = some b) (number : b.handle.id = j) :
    (s.resolve b t).1.kept k u =
      if k = j ∧ u = t then some (b.registry.closureOf s.hierarchy u) else s.kept k u := by
  by_cases here : k = j
  · subst here
    rw [kept_of_found (bus_of_resolve found number t), Registry.closures_remember,
      kept_of_found found]
    simp only [true_and]
  · rw [kept, bus_of_resolve_ne (by rw [number]; exact Ne.symm here), if_neg (by tauto), kept]

/-- A post that nobody hears keeps the closures of its type and of dead events. -/
lemma kept_mourned (found : s.buses.get? j = some b) (number : b.handle.id = j) (e : Event) :
    (s.mourned b j e).kept k u = if k = j ∧ (u = e.type ∨ u = .deadEvent)
      then some (b.registry.closureOf s.hierarchy u) else s.kept k u := by
  have found' : ((s.resolve b e.type).1.emit (.died b.handle e)).buses.get? j =
      some { b with registry := b.registry.remember s.hierarchy e.type } :=
    bus_of_resolve found number e.type
  have first : ((s.resolve b e.type).1.emit (.died b.handle e)).kept k u =
      if k = j ∧ u = e.type then some (b.registry.closureOf s.hierarchy u) else s.kept k u :=
    kept_resolve found number
  unfold mourned
  dsimp only
  rw [found', Option.getD_some, kept_resolve found' number, first,
    show ((s.resolve b e.type).1.emit (.died b.handle e)).hierarchy = s.hierarchy from
      s.hierarchy_resolve b e.type]
  dsimp only
  rw [Registry.closureOf_remember]
  by_cases here : k = j
  · by_cases dead : u = .deadEvent
    · simp [here, dead]
    · by_cases same : u = e.type
      · subst same
        simp [here, dead]
      · simp [dead, same]
  · simp [here]

/-- Registering and unregistering leave alone what is kept, and a new bus keeps nothing. -/
lemma kept_acts {n : Nat} {script next : Script H σ ε} (acts : Machine.Acts n s script s' next)
    (lodging : s.Lodging) : s'.kept k t = s.kept k t := by
  -- A bus that is registered on or unregistered from is put back with the closures that it had.
  have put {j : Nat} {b : Bus H} {r : Registry H} {s₁ : State H σ ε}
      (found : s.buses.get? j = some b) (same : r.closures = b.registry.closures)
      (buses : s₁.buses = (s.setBus { b with registry := r }).buses) :
      s₁.kept k t = s.kept k t := by
    rw [kept_congr buses, kept_setBus]
    split
    · rename_i here
      have number : b.handle.id = j := (lodging.settled found).number
      rw [kept_of_found (here ▸ number ▸ found), same]
    · rfl
  cases acts with
  | note | inspect | update | declare | newDispatcher => rfl
  | @build plan next =>
    show (({ s with busCount := s.busCount + 1 } : State H σ ε).setBus _).kept k t = _
    rw [kept_setBus]
    split
    · rename_i here
      cases found : s.buses.get? k with
      | none =>
        rw [kept, found]
        rfl
      | some b =>
        have bound := (lodging.settled found).bound
        dsimp only at here
        omega
    · rfl
  | @register j target bs next =>
    cases found : s.buses.get? j with
    | none =>
      rw [Machine.register, found]
    | some b =>
      exact put found (Registry.registerFrom_closures ..) (Machine.register_buses found target bs)
  | @unregister j target bs next =>
    unfold Machine.unregister
    split
    · rfl
    · rename_i b found
      split
      · rfl
      · rename_i r n done
        exact put found (Registry.unregister_closures done) rfl

end State

namespace Machine

variable {p : Program H σ ε} {m m' m₀ m₁ : Machine H σ ε} {j k : Nat} {b : Bus H} {e : Event}
  {t : EventType} {xs : List (Subscriber H)}

/-- In a step a bus looks up subscribers for a type, and lists some. -/
def LooksUp (p : Program H σ ε) (m m' : Machine H σ ε) (k : Nat) (t : EventType)
    (xs : List (Subscriber H)) : Prop :=
  step p m = .going m' ∧ ∃ r, r.id = k ∧ .resolved r t xs ∈ m'.state.since m.state

/-- What a post looks up is what the bus asks for. -/
lemma Fate.resolved_iff {h : Hierarchy} {n : Nat} {os : List (Occurrence H ε)} {r : BusRef}
    (fate : Fate h b n e os) : .resolved r t xs ∈ os ↔
      r = b.handle ∧ b.Asks h e t ∧ xs = b.registry.resolve h t := by
  cases fate with
  | heard listed some =>
    subst listed
    simp only [List.mem_cons, Dispatcher.mem_passesOn, reduceCtorEq, and_false, exists_false,
      or_false]
    constructor
    · rintro ⟨⟩
      exact ⟨rfl, .inl rfl, rfl⟩
    · rintro ⟨rfl, rfl | ⟨_, _, none⟩, rfl⟩
      · rfl
      · exact absurd none some
  | dropped none dead =>
    simp only [List.mem_cons, List.not_mem_nil, reduceCtorEq, or_false]
    constructor
    · rintro ⟨⟩
      exact ⟨rfl, .inl rfl, none.symm⟩
    · rintro ⟨rfl, rfl | ⟨_, alive, _⟩, rfl⟩
      · rw [none]
      · exact absurd dead alive
  | mourned none alive listed some =>
    subst listed
    simp only [List.mem_cons, Dispatcher.mem_passesOn, reduceCtorEq, and_false, exists_false,
      or_false, false_or]
    constructor
    · rintro (same | same)
      · cases same
        exact ⟨rfl, .inl rfl, none.symm⟩
      · cases same
        exact ⟨rfl, .inr ⟨rfl, alive, none⟩, rfl⟩
    · rintro ⟨rfl, rfl | ⟨rfl, _, _⟩, rfl⟩
      · rw [none]
        exact .inl rfl
      · exact .inr rfl
  | forgotten none alive none' =>
    simp only [List.mem_cons, List.not_mem_nil, reduceCtorEq, or_false, false_or]
    constructor
    · rintro (same | same)
      · cases same
        exact ⟨rfl, .inl rfl, none.symm⟩
      · cases same
        exact ⟨rfl, .inr ⟨rfl, alive, none⟩, none'.symm⟩
    · rintro ⟨rfl, rfl | ⟨rfl, _, _⟩, rfl⟩
      · rw [none]
        exact .inl rfl
      · rw [none']
        exact .inr rfl

/-- In a post, the bus comes to keep what it goes by in the look-ups. -/
lemma Course.kept (course : Course m j b e m') (found : m.state.buses.get? j = some b)
    (number : b.handle.id = j) :
    (k = j ∧ b.Asks m.state.hierarchy e t →
      m'.state.kept k t = some (b.registry.closureOf m.state.hierarchy t)) ∧
    (¬(k = j ∧ b.Asks m.state.hierarchy e t) → m'.state.kept k t = m.state.kept k t) := by
  have settle {Q : Prop} [Decidable Q] {c : Option (List EventType)}
      (kept : c = if k = j ∧ Q then some (b.registry.closureOf m.state.hierarchy t)
        else m.state.kept k t)
      (asks : b.Asks m.state.hierarchy e t ↔ Q) :
      (k = j ∧ b.Asks m.state.hierarchy e t →
        c = some (b.registry.closureOf m.state.hierarchy t)) ∧
      (¬(k = j ∧ b.Asks m.state.hierarchy e t) → c = m.state.kept k t) := by
    rw [kept, asks]
    exact ⟨fun asked => if_pos asked, fun asked => if_neg asked⟩
  have looked := m.state.kept_resolve (k := k) (t := e.type) (u := t) found number
  have mourned := m.state.kept_mourned (k := k) (u := t) found number e
  -- Whether the type of dead events is looked up depends on whether the event is found dead.
  have once (stays : e.type = .deadEvent ∨ b.registry.resolve m.state.hierarchy e.type ≠ []) :
      b.Asks m.state.hierarchy e t ↔ t = e.type := by
    rw [Bus.Asks]
    tauto
  have twice (alive : e.type ≠ .deadEvent)
      (none : b.registry.resolve m.state.hierarchy e.type = []) :
      b.Asks m.state.hierarchy e t ↔ t = e.type ∨ t = .deadEvent := by
    rw [Bus.Asks]
    tauto
  cases course with
  | heard listed some =>
    rw [State.kept_congr (dispatch_buses ..)]
    exact settle looked (once (.inr (listed ▸ some)))
  | dropped none dead => exact settle looked (once (.inl dead))
  | mourned none alive _ _ =>
    rw [State.kept_congr (dispatch_buses ..)]
    exact settle mourned (twice alive none)
  | forgotten none alive _ => exact settle mourned (twice alive none)

/-- A bus looks up subscribers in posts only, and lists those that it has at the moment under the
closure that it goes by. -/
lemma Reachable.looksUp_iff (reach : Reachable p m) (st : Machine.step p m = .going m') :
    LooksUp p m m' k t xs ↔ ∃ b e elsewhere next, m.control = .run (.post k e elsewhere next) ∧
      m.state.buses.get? k = some b ∧ b.Asks m.state.hierarchy e t ∧
      xs = b.registry.resolve m.state.hierarchy t := by
  have number {j b} (found : m.state.buses.get? j = some b) : b.handle.id = j :=
    (reach.lodged.lodging.settled found).number
  constructor
  · rintro ⟨_, r, rfl, mem⟩
    obtain ⟨j, b, e, elsewhere, next, os, control, found, decides, fate⟩ | ⟨_, _, _, _, _, _, other⟩
      := decision_of_step st mem rfl
    · obtain ⟨rfl, asks, listed⟩ := fate.resolved_iff.1 ((decides.mem_since rfl).1 mem)
      rw [number found]
      exact ⟨b, e, elsewhere, next, control, found, asks, listed⟩
    · cases other
  · rintro ⟨b, e, elsewhere, next, control, found, asks, listed⟩
    obtain ⟨os, decides, fate⟩ := posted_fate found e next elsewhere
    have same : m' = (m.putAside next elsewhere).post k e := by
      rw [step_posted control] at st
      cases st
      rfl
    subst same
    exact ⟨st, b.handle, number found,
      (decides.mem_since rfl).2 (fate.resolved_iff.2 ⟨rfl, asks, listed⟩)⟩

/-- A bus that looks a type up keeps from then on what it kept of it before or, if that was nothing,
the closure of the moment. -/
lemma LooksUp.kept (looked : LooksUp p m m' k t xs) (reach : Reachable p m) :
    m'.state.kept k t = some ((m.state.kept k t).getD (m.state.hierarchy.closure t)) := by
  obtain ⟨b, e, elsewhere, next, control, found, asks, _⟩ := (reach.looksUp_iff looked.1).1 looked
  have same := looked.1
  rw [step_posted control] at same
  cases same
  have found' : (m.putAside next elsewhere).state.buses.get? k = some b := by
    rwa [putAside_buses]
  obtain ⟨asked, _⟩ := (post_course found' e).kept (k := k) (t := t) found'
    (reach.lodged.lodging.settled found).number
  rw [putAside_hierarchy] at asked
  rw [asked ⟨rfl, asks⟩, State.closureOf_eq found]

/-- What a bus keeps of a type changes in no step but those in which it looks the type up. -/
lemma Reachable.kept_step (reach : Reachable p m) (st : Machine.step p m = .going m')
    (unasked : ∀ xs, ¬LooksUp p m m' k t xs) : m'.state.kept k t = m.state.kept k t := by
  obtain same | ⟨script, next, _, acts⟩ | ⟨j, e, elsewhere, next, control, rfl⟩ :=
    (step_turn st).buses
  · exact State.kept_congr same
  · exact State.kept_acts acts reach.lodged.lodging
  · cases found : m.state.buses.get? j with
    | none =>
      rw [post_unknown (by rwa [putAside_buses])]
      exact State.kept_congr (putAside_buses ..)
    | some b =>
      have found' : (m.putAside next elsewhere).state.buses.get? j = some b := by
        rwa [putAside_buses]
      obtain ⟨_, other⟩ := (post_course found' e).kept (k := k) (t := t) found'
        (reach.lodged.lodging.settled found).number
      refine (other ?_).trans (State.kept_congr (putAside_buses ..))
      rw [putAside_hierarchy]
      rintro ⟨rfl, asks⟩
      exact unasked _ ((reach.looksUp_iff st).2 ⟨b, e, elsewhere, next, control, found, asks, rfl⟩)

/-- What a look-up lists is gone through in the order of the closure that is kept. -/
lemma LooksUp.listed (looked : LooksUp p m m' k t xs) (reach : Reachable p m) :
    ∃ b, m.state.buses.get? k = some b ∧
      xs = ((m.state.kept k t).getD (m.state.hierarchy.closure t)).flatMap
        b.registry.subscribersFor := by
  obtain ⟨b, _, _, _, _, found, _, rfl⟩ := (reach.looksUp_iff looked.1).1 looked
  exact ⟨b, found, by rw [Registry.resolve, State.closureOf_eq found]⟩

/-- A type has been looked up after a step if it had been before or the step looks it up. -/
lemma hasLookedUp_step (st : Machine.step p m = .going m') :
    m'.state.HasLookedUp k t ↔ m.state.HasLookedUp k t ∨ ∃ xs, LooksUp p m m' k t xs := by
  constructor
  · rintro ⟨r, xs, same, mem⟩
    rw [trace_of_step st, List.mem_append] at mem
    obtain mem | mem := mem
    · exact .inl ⟨r, xs, same, mem⟩
    · exact .inr ⟨xs, st, r, same, mem⟩
  · intro looked
    obtain ⟨r, xs, same, mem⟩ | ⟨xs, _, r, same, mem⟩ := looked <;>
      refine ⟨r, xs, same, ?_⟩ <;> rw [trace_of_step st, List.mem_append]
    · exact .inl mem
    · exact .inr mem

/-- What a bus keeps of a type it keeps for good. -/
lemma Later.kept {c : List EventType} (later : Later p m₁ m) (reach : Reachable p m₁)
    (kept : m₁.state.kept k t = some c) : m.state.kept k t = some c := by
  induction later with
  | refl => exact kept
  | @step m m' later st ih =>
    have reach := later.reachable reach
    by_cases looked : ∃ xs, LooksUp p m m' k t xs
    · obtain ⟨xs, looked⟩ := looked
      rw [looked.kept reach, ih, Option.getD_some]
    · rw [reach.kept_step st (not_exists.1 looked), ih]
  | next user script _ st ih =>
    obtain ⟨_, rfl⟩ := stack_of_ended st
    exact ih
  | pool _ st ih =>
    obtain ⟨_, rfl⟩ := stack_of_ended st
    exact ih

/-- A bus looks up subscribers for a type for the first time. -/
structure FirstLook (p : Program H σ ε) (m m' : Machine H σ ε) (k : Nat) (t : EventType) :
    Prop where
  looks : ∃ xs, LooksUp p m m' k t xs
  new : ¬m.state.HasLookedUp k t

section Run

variable {hierarchy : Hierarchy} {user : σ} {script : Script H σ ε}

/-- Nothing is kept of a type that has not been looked up. -/
lemma kept_of_not_hasLookedUp (later : Later p (start (.initial hierarchy user) script) m)
    (new : ¬m.state.HasLookedUp k t) : m.state.kept k t = none := by
  induction later with
  | refl => rfl
  | step later st ih =>
    rw [hasLookedUp_step st, not_or] at new
    rw [(later.reachable (.first ..)).kept_step st (not_exists.1 new.2), ih new.1]
  | next user script _ st ih =>
    obtain ⟨_, rfl⟩ := stack_of_ended st
    exact ih new
  | pool _ st ih =>
    obtain ⟨_, rfl⟩ := stack_of_ended st
    exact ih new

/-- If a type has been looked up, there was a first time. -/
lemma exists_firstLook (later : Later p (start (.initial hierarchy user) script) m)
    (looked : m.state.HasLookedUp k t) :
    ∃ m₀ m₁, Later p (start (.initial hierarchy user) script) m₀ ∧ FirstLook p m₀ m₁ k t ∧
      Later p m₁ m := by
  induction later with
  | refl =>
    obtain ⟨r, xs, _, mem⟩ := looked
    cases mem
  | @step m m' later st ih =>
    by_cases old : m.state.HasLookedUp k t
    · obtain ⟨m₀, m₁, earlier, first, rest⟩ := ih old
      exact ⟨m₀, m₁, earlier, first, .step rest st⟩
    · exact ⟨m, m', later, ⟨((hasLookedUp_step st).1 looked).resolve_left old, old⟩, .refl⟩
  | next user script _ st ih =>
    obtain ⟨_, rfl⟩ := stack_of_ended st
    obtain ⟨m₀, m₁, earlier, first, rest⟩ := ih looked
    exact ⟨m₀, m₁, earlier, first, .next user script rest st⟩
  | pool _ st ih =>
    obtain ⟨_, rfl⟩ := stack_of_ended st
    obtain ⟨m₀, m₁, earlier, first, rest⟩ := ih looked
    exact ⟨m₀, m₁, earlier, first, .pool rest st⟩

end Run

/-- What a bus does about a type, in a run from `first` that has come to `m`. -/
structure Remembers (p : Program H σ ε) (first m : Machine H σ ε) (k : Nat) (t : EventType) :
    Prop where
  /-- Subscribers are looked up for every event that is posted. -/
  posted : ∀ {e elsewhere next b}, m.control = .run (.post k e elsewhere next) →
    m.state.buses.get? k = some b → e.type = t → ∃ m' xs, LooksUp p m m' k t xs
  /-- No closure is kept before the first look-up. -/
  untouched : ¬m.state.HasLookedUp k t → m.state.kept k t = none
  /-- The first look-up goes by the supertypes that there are. -/
  computed : ∀ {m' xs}, LooksUp p m m' k t xs → ¬m.state.HasLookedUp k t →
    m'.state.kept k t = some (m.state.hierarchy.closure t) ∧
    ∃ b, m.state.buses.get? k = some b ∧
      xs = (m.state.hierarchy.closure t).flatMap b.registry.subscribersFor
  /-- After the first look-up, whatever has happened, its closure is kept, and it is what the next
  one goes by, with the subscribers that there are by then. -/
  remembered : ∀ {m₀ m₁}, Later p first m₀ → FirstLook p m₀ m₁ k t → Later p m₁ m →
    m.state.kept k t = some (m₀.state.hierarchy.closure t) ∧
    ∀ {m' xs}, LooksUp p m m' k t xs → ∃ b, m.state.buses.get? k = some b ∧
      xs = (m₀.state.hierarchy.closure t).flatMap b.registry.subscribersFor
  /-- There is a first look-up before any other. -/
  preceded : m.state.HasLookedUp k t →
    ∃ m₀ m₁, Later p first m₀ ∧ FirstLook p m₀ m₁ k t ∧ Later p m₁ m
  /-- If the type has had one closure whenever it was looked up, that is what the next look-up goes
  by. -/
  constant : ∀ {m' xs c}, LooksUp p m m' k t xs → m.state.hierarchy.closure t = c →
    (∀ {m₀ m₁}, Later p first m₀ → FirstLook p m₀ m₁ k t → Later p m₁ m →
      m₀.state.hierarchy.closure t = c) →
    ∃ b, m.state.buses.get? k = some b ∧ xs = c.flatMap b.registry.subscribersFor

/-- In every run, whatever types are declared on its way, each bus goes by the closure of a type
that it computed in its first look-up for the type, and applies it to the subscribers of the moment.
Nothing that is registered, unregistered or looked up for another type changes that closure, nor
does anything on another bus. As long as the supertypes stay, it is the closure that there is. -/
theorem closures_remembered {hierarchy : Hierarchy} {user : σ} {script : Script H σ ε}
    (later : Later p (start (.initial hierarchy user) script) m) (k : Nat) (t : EventType) :
    Remembers p (start (.initial hierarchy user) script) m k t := by
  have reach : Reachable p m := later.reachable (.first ..)
  have computed {m' xs} (looked : LooksUp p m m' k t xs) (new : ¬m.state.HasLookedUp k t) :
      ∃ b, m.state.buses.get? k = some b ∧
        xs = (m.state.hierarchy.closure t).flatMap b.registry.subscribersFor := by
    have listed := looked.listed reach
    rwa [kept_of_not_hasLookedUp later new, Option.getD_none] at listed
  have kept {m₀ m₁} (earlier : Later p (start (.initial hierarchy user) script) m₀)
      (first : FirstLook p m₀ m₁ k t) (rest : Later p m₁ m) :
      m.state.kept k t = some (m₀.state.hierarchy.closure t) := by
    obtain ⟨xs, looked⟩ := first.looks
    have reach₀ : Reachable p m₀ := earlier.reachable (.first ..)
    apply rest.kept (reach₀.step looked.1)
    rw [looked.kept reach₀, kept_of_not_hasLookedUp earlier first.new, Option.getD_none]
  have remembered {m₀ m₁ m' xs} (earlier : Later p (start (.initial hierarchy user) script) m₀)
      (first : FirstLook p m₀ m₁ k t) (rest : Later p m₁ m) (looked : LooksUp p m m' k t xs) :
      ∃ b, m.state.buses.get? k = some b ∧
        xs = (m₀.state.hierarchy.closure t).flatMap b.registry.subscribersFor := by
    have listed := looked.listed reach
    rwa [kept earlier first rest, Option.getD_some] at listed
  refine ⟨?_, kept_of_not_hasLookedUp later, ?_, ?_, exists_firstLook later, ?_⟩
  · intro e elsewhere next b control found same
    exact ⟨_, _, (reach.looksUp_iff (step_posted control)).2
      ⟨b, e, elsewhere, next, control, found, .inl same.symm, rfl⟩⟩
  · intro m' xs looked new
    refine ⟨?_, computed looked new⟩
    rw [looked.kept reach, kept_of_not_hasLookedUp later new, Option.getD_none]
  · intro m₀ m₁ earlier first rest
    exact ⟨kept earlier first rest, remembered earlier first rest⟩
  · intro m' xs c looked now always
    by_cases old : m.state.HasLookedUp k t
    · obtain ⟨m₀, m₁, earlier, first, rest⟩ := exists_firstLook later old
      have listed := remembered earlier first rest looked
      rwa [always earlier first rest] at listed
    · have listed := computed looked old
      rwa [now] at listed

namespace Notebook

def note : Event := .free ⟨"Note"⟩ "Note" "note" [] []

def listener (id : Nat) : Target := ⟨id, "Listener", "listener"⟩

def on (type : EventType) : List (Binding Unit) := [⟨"on_paper", type, .whole, true, none, ()⟩]

def program : Program Unit Unit Unit where
  handle _ _ := .finish (.ok ())
  report _ _ _ := .finish (.ok ())

/-- A note is posted on the first bus as long as it is a memo. Then it is a letter, and there are
more listeners to memos and letters when it is posted on the second bus and once more on the first.
-/
def script : Script Unit Unit Unit :=
  .build ⟨"first", .direct, .plain .immediate, .log⟩ fun b =>
  .build ⟨"second", .direct, .plain .immediate, .log⟩ fun b' =>
  .declare [(⟨"Note"⟩, [⟨"Memo"⟩])] <|
  .register b.id (listener 1) (on ⟨"Memo"⟩) fun _ =>
  .post b.id note false <|
  .declare [(⟨"Note"⟩, [⟨"Letter"⟩])] <|
  .register b.id (listener 2) (on ⟨"Memo"⟩) fun _ =>
  .register b.id (listener 3) (on ⟨"Letter"⟩) fun _ =>
  .post b'.id note false <|
  .post b.id note false (.finish (.ok ()))

def begin : Machine Unit Unit Unit := start (.initial .empty ()) script

def machine (n : Nat) : Machine Unit Unit Unit := after program begin n

end Notebook

/-- A note is a letter by now, and the second bus treats it as one. The first bus gives it to those
who listen to memos, the one who came after the first note among them. -/
theorem notebook_remembers :
    Later Notebook.program Notebook.begin (Notebook.machine 14) ∧
    FirstLook Notebook.program (Notebook.machine 4) (Notebook.machine 5) 1 ⟨"Note"⟩ ∧
    (Notebook.machine 14).state.hierarchy.closure ⟨"Note"⟩ =
      [⟨"Note"⟩, ⟨"Letter"⟩, .anyEvent] ∧
    (Notebook.machine 14).state.kept 2 ⟨"Note"⟩ = some [⟨"Note"⟩, ⟨"Letter"⟩, .anyEvent] ∧
    (Notebook.machine 14).state.kept 1 ⟨"Note"⟩ = some [⟨"Note"⟩, ⟨"Memo"⟩, .anyEvent] ∧
    ∃ m' xs, LooksUp Notebook.program (Notebook.machine 14) m' 1 ⟨"Note"⟩ xs ∧
      xs.map (·.target) = [Notebook.listener 1, Notebook.listener 2] := by
  have later (n : Nat) : Later Notebook.program Notebook.begin (Notebook.machine n) :=
    Later.after _ n
  have early := closures_remembered (later 4) 1 ⟨"Note"⟩
  have late := closures_remembered (later 14) 1 ⟨"Note"⟩
  have new : ¬(Notebook.machine 4).state.HasLookedUp 1 ⟨"Note"⟩ := by
    intro looked
    obtain ⟨_, _, earlier, first, rest⟩ := early.preceded looked
    have none : (Notebook.machine 4).state.kept 1 ⟨"Note"⟩ = none := by cbv
    cases none.symm.trans (early.remembered earlier first rest).1
  have first : FirstLook Notebook.program (Notebook.machine 4) (Notebook.machine 5) 1 ⟨"Note"⟩ := by
    obtain ⟨next, control⟩ : ∃ next, (Notebook.machine 4).control =
        .run (.post 1 Notebook.note false next) := ⟨_, by cbv⟩
    obtain ⟨b, found⟩ : ∃ b, (Notebook.machine 4).state.buses.get? 1 = some b := ⟨_, by cbv⟩
    obtain ⟨m', xs, looked⟩ := early.posted control found rfl
    have st : step Notebook.program (Notebook.machine 4) = .going (Notebook.machine 5) :=
      step_after (by decide +kernel)
    cases looked.1.symm.trans st
    exact ⟨⟨xs, looked⟩, new⟩
  have rest : Later Notebook.program (Notebook.machine 5) (Notebook.machine 14) :=
    Later.after (Notebook.machine 5) 9
  obtain ⟨next, control⟩ : ∃ next, (Notebook.machine 14).control =
      .run (.post 1 Notebook.note false next) := ⟨_, by cbv⟩
  obtain ⟨b, found, targets⟩ : ∃ b, (Notebook.machine 14).state.buses.get? 1 = some b ∧
      (([⟨"Note"⟩, ⟨"Memo"⟩, .anyEvent].flatMap b.registry.subscribersFor).map (·.target)) =
        [Notebook.listener 1, Notebook.listener 2] := ⟨_, by cbv, by cbv⟩
  have closure : (Notebook.machine 4).state.hierarchy.closure ⟨"Note"⟩ =
      [⟨"Note"⟩, ⟨"Memo"⟩, .anyEvent] := by cbv
  obtain ⟨m', xs, looked⟩ := late.posted control found rfl
  obtain ⟨kept, listed⟩ := late.remembered (later 4) first rest
  obtain ⟨b', found', rfl⟩ := listed looked
  cases found.symm.trans found'
  rw [closure] at kept looked
  exact ⟨later 14, first, by cbv, by cbv, kept, m', _, looked, targets⟩

end Machine

end EventBus
