import EventBus.Proofs.Failure.Desk
import EventBus.Proofs.Routing.Registries

/-!
# What a step does to a bus

A bus stays what it is when it was built, apart from its registry, and a step changes the registry
of a bus in one of three ways only: subscribers are added or removed where a script asks for it, or
closures of types are kept by a post. `Turnover` names the three; `Reachable.turnover` says that no
step does anything else. What else there is in a state is not the buses' affair: neither a call nor
a post touches the locks or what was put off (`Acts.apart`, `post_state`).
-/

namespace EventBus

variable {H σ ε : Type}

namespace Registry

variable (r : Registry H) (h : Hierarchy)

/-- The registry that keeps the closures of types. -/
def rememberAll (ts : List EventType) : Registry H :=
  ts.foldl (fun r t => r.remember h t) r

/-- To remember types one list after the other is to remember both. -/
lemma rememberAll_append (ts us : List EventType) :
    r.rememberAll h (ts ++ us) = (r.rememberAll h ts).rememberAll h us :=
  List.foldl_append

/-- A remembered closure changes no list of subscribers. -/
lemma subscribersFor_remember (t u : EventType) :
    (r.remember h t).subscribersFor u = r.subscribersFor u := by
  unfold remember
  split <;> rfl

/-- Closures make no difference to who is subscribed. -/
lemma subscribersFor_rememberAll (ts : List EventType) (u : EventType) :
    (r.rememberAll h ts).subscribersFor u = r.subscribersFor u := by
  induction ts generalizing r with
  | nil => rfl
  | cons t ts ih => exact (ih (r.remember h t)).trans (r.subscribersFor_remember h t u)

end Registry

/-- Between two states the buses have kept closures of types at most. -/
structure State.Looks (s s' : State H σ ε) : Prop where
  hierarchy : s'.hierarchy = s.hierarchy
  buses : ∀ {k b}, s.buses.get? k = some b →
    ∃ ts, s'.buses.get? k = some { b with registry := b.registry.rememberAll s.hierarchy ts }

namespace State.Looks

variable {s s' s'' : State H σ ε}

/-- The same declarations and buses make a look of no types. -/
lemma of_eq (hierarchy : s'.hierarchy = s.hierarchy) (buses : s'.buses = s.buses) :
    s.Looks s' where
  hierarchy := hierarchy
  buses found := ⟨[], by rw [buses, found]; rfl⟩

/-- Two looks make one. -/
lemma trans (looks : s.Looks s') (looks' : s'.Looks s'') : s.Looks s'' where
  hierarchy := looks'.hierarchy.trans looks.hierarchy
  buses found := by
    obtain ⟨ts, found⟩ := looks.buses found
    obtain ⟨us, found⟩ := looks'.buses found
    refine ⟨ts ++ us, ?_⟩
    rw [found, looks.hierarchy, Registry.rememberAll_append]

/-- A look-up concerns the bus that makes it. -/
lemma resolve {j : Nat} {b : Bus H} (found : s.buses.get? j = some b) (number : b.handle.id = j)
    (t : EventType) : s.Looks (s.resolve b t).1 where
  hierarchy := s.hierarchy_resolve b t
  buses {k b'} found' := by
    unfold State.resolve
    cases b.registry.closures.get? t with
    | some _ => exact ⟨[], found'⟩
    | none =>
      show ∃ ts, (s.buses.set b.handle.id _).get? k = _
      rw [Table.get?_set, number]
      by_cases here : j = k
      · subst here
        cases found.symm.trans found'
        exact ⟨[t], if_pos rfl⟩
      · exact ⟨[], by rw [if_neg here, found']; rfl⟩

/-- A post that nobody hears looks up on its own bus only. -/
lemma mourned {j : Nat} {b : Bus H} (found : s.buses.get? j = some b) (number : b.handle.id = j)
    (e : Event) : s.Looks (s.mourned b j e) := by
  obtain ⟨r, same, _⟩ := s.bus_resolve b e.type found
  have looked : s.Looks ((s.resolve b e.type).1.emit (.died b.handle e)) :=
    (State.Looks.resolve found number e.type).trans (.of_eq rfl rfl)
  have again : ((s.resolve b e.type).1.emit (.died b.handle e)).buses.get? j =
      some { b with registry := r } := same
  unfold State.mourned
  dsimp only
  rw [again, Option.getD_some]
  exact looked.trans (State.Looks.resolve again number .deadEvent)

end State.Looks

namespace Machine

/-- What one step makes of the registry of a bus. -/
inductive Turnover (m : Machine H σ ε) (bus : Nat) (r : Registry H) : Registry H → Prop where
  /-- Closures are kept at most. -/
  | looks (ts : List EventType) : Turnover m bus r (r.rememberAll m.state.hierarchy ts)
  | registers {target bs next} (control : m.control = .run (.register bus target bs next)) :
    Turnover m bus r (r.register target bs).registry
  | unregisters {target bs next r' n} (control : m.control = .run (.unregister bus target bs next))
      (done : r.unregister target bs = .ok (r', n)) :
    Turnover m bus r r'

variable {p : Program H σ ε} {m m' : Machine H σ ε} {bus : Nat} {b : Bus H}

/-- So does a post in any of its courses. -/
lemma Course.looks {e : Event} (course : Course m bus b e m')
    (found : m.state.buses.get? bus = some b) (number : b.handle.id = bus) :
    m.state.Looks m'.state := by
  have looked := State.Looks.resolve found number e.type
  have mourned := State.Looks.mourned found number e
  have dispatched {s : State H σ ε} (looks : m.state.Looks s) (o : Occurrence H ε) (d : Dispatcher)
      (e : Event) (xs : List (Subscriber H)) :
      m.state.Looks (m.dispatch (s.emit o) d e xs).state := by
    obtain ⟨queues, trace, same⟩ := dispatch_state m (s.emit o) d e xs
    rw [same]
    exact looks.trans (.of_eq rfl rfl)
  cases course with
  | heard => exact dispatched looked ..
  | dropped => exact looked.trans (.of_eq rfl rfl)
  | mourned => exact dispatched mourned ..
  | forgotten => exact mourned.trans (.of_eq rfl rfl)

/-- And so does a post on a bus that may not exist. -/
lemma post_looks (numbered : ∀ {b}, m.state.buses.get? bus = some b → b.handle.id = bus)
    (e : Event) : m.state.Looks (m.post bus e).state := by
  cases found : m.state.buses.get? bus with
  | none =>
    rw [post_unknown found]
    exact .of_eq rfl rfl
  | some b => exact (post_course found e).looks found (numbered found)

/-- To tell of things changes nothing but the trace. -/
lemma emitAll_state (s : State H σ ε) (os : List (Occurrence H ε)) :
    ∃ trace, s.emitAll os = { s with trace := trace } := by
  induction os generalizing s with
  | nil => exact ⟨s.trace, rfl⟩
  | cons o os ih => exact ih (s.emit o)

/-- A call of a bus concerns the buses and the trace only. -/
lemma register_state (s : State H σ ε) (bus : Nat) (target : Target) (bs : List (Binding H)) :
    ∃ buses trace, (register s bus target bs).1 = { s with buses := buses, trace := trace } := by
  unfold register
  split
  · exact ⟨_, _, rfl⟩
  · rename_i b _
    obtain ⟨trace, same⟩ := emitAll_state
      (s.setBus { b with registry := (b.registry.register target bs).registry })
      ((b.registry.register target bs).admissions.map fun a => .considered target a.1 a.2)
    dsimp only [State.emit]
    rw [same]
    exact ⟨_, _, rfl⟩

/-- An unregistration changes nothing but the buses and the trace. -/
lemma unregister_state (s : State H σ ε) (bus : Nat) (target : Target) (bs : List (Binding H)) :
    ∃ buses trace, (unregister s bus target bs).1 = { s with buses := buses, trace := trace } := by
  unfold unregister
  split
  · exact ⟨_, _, rfl⟩
  · split <;> exact ⟨_, _, rfl⟩

/-- A call that comes back at once concerns neither the locks nor what was put off. -/
lemma Acts.apart {t : Nat} {s s' : State H σ ε} {script next : Script H σ ε}
    (acts : Acts t s script s' next) :
    s'.locks = s.locks ∧ s'.backlog = s.backlog ∧ s'.pool = s.pool := by
  cases acts with
  | note | inspect | update | declare | newDispatcher | build => exact ⟨rfl, rfl, rfl⟩
  | @register bus target bs _ =>
    obtain ⟨_, _, same⟩ := register_state s bus target bs
    rw [same]
    exact ⟨rfl, rfl, rfl⟩
  | @unregister bus target bs _ =>
    obtain ⟨_, _, same⟩ := unregister_state s bus target bs
    rw [same]
    exact ⟨rfl, rfl, rfl⟩

/-- Nor does a look-up change anything else. -/
lemma resolve_state (s : State H σ ε) (b : Bus H) (t : EventType) :
    ∃ buses trace, (s.resolve b t).1 = { s with buses := buses, trace := trace } := by
  unfold State.resolve
  cases b.registry.closures.get? t with
  | some _ => exact ⟨s.buses, _, rfl⟩
  | none => exact ⟨_, _, rfl⟩

/-- A post concerns the buses, the queues and the trace only. -/
lemma post_state (m : Machine H σ ε) (bus : Nat) (e : Event) :
    ∃ buses queues trace, (m.post bus e).state =
      { m.state with buses := buses, queues := queues, trace := trace } := by
  cases found : m.state.buses.get? bus with
  | none =>
    rw [post_unknown found]
    exact ⟨_, _, _, rfl⟩
  | some b =>
    obtain ⟨buses, trace, looked⟩ := resolve_state m.state b e.type
    obtain ⟨buses', trace', mourned⟩ : ∃ buses trace, m.state.mourned b bus e =
        { m.state with buses := buses, trace := trace } := by
      unfold State.mourned
      rw [looked]
      exact resolve_state { m.state with buses := buses, trace := trace.push (.died b.handle e) } ..
    have course := post_course found e
    generalize m.post bus e = m' at course
    cases course with
    | heard =>
      obtain ⟨queues, trace, same⟩ := dispatch_state m
        ((m.state.resolve b e.type).1.emit (.routed b.handle e _)) b.dispatcher e _
      rw [same, looked]
      exact ⟨_, _, _, rfl⟩
    | dropped =>
      rw [looked]
      exact ⟨_, _, _, rfl⟩
    | mourned =>
      obtain ⟨queues, trace, same⟩ := dispatch_state m
        ((m.state.mourned b bus e).emit (.routed b.handle (.dead b.handle e e.type) _))
        b.dispatcher (.dead b.handle e e.type) _
      rw [same, mourned]
      exact ⟨_, _, _, rfl⟩
    | forgotten =>
      rw [mourned]
      exact ⟨_, _, _, rfl⟩

/-- A registration changes the registry of its bus. -/
lemma register_buses {s : State H σ ε} (found : s.buses.get? bus = some b) (target : Target)
    (bs : List (Binding H)) :
    (register s bus target bs).1.buses = s.buses.set b.handle.id
      { b with registry := (b.registry.register target bs).registry } := by
  obtain ⟨trace, same⟩ := emitAll_state
    (s.setBus { b with registry := (b.registry.register target bs).registry })
    ((b.registry.register target bs).admissions.map fun a => .considered target a.1 a.2)
  unfold Machine.register
  rw [found]
  dsimp only [State.emit]
  rw [same]
  rfl

/-- A call that comes back at once turns over the registry of a bus by what it asks for. -/
lemma Acts.turnover {script next : Script H σ ε} {s : State H σ ε}
    (acts : Acts m.thread m.state script s next) (control : m.control = .run script)
    (h : m.Lodged) (found : m.state.buses.get? bus = some b) :
    ∃ r, s.buses.get? bus = some { b with registry := r } ∧ Turnover m bus b.registry r := by
  have same : Turnover m bus b.registry b.registry := .looks []
  have settled := h.lodging.settled found
  cases acts with
  | note | inspect | update | declare | newDispatcher => exact ⟨_, found, same⟩
  | @build plan next =>
    -- The new bus has a number of its own.
    refine ⟨_, ?_, same⟩
    show (m.state.buses.set (m.state.busCount + 1) _).get? bus = _
    rw [Table.get?_set, if_neg (by have := settled.bound; omega), found]
  | @register j target bs next =>
    cases found' : m.state.buses.get? j with
    | none =>
      refine ⟨_, ?_, same⟩
      rw [Machine.register, found']
      exact found
    | some b' =>
      rw [register_buses found' target bs, Table.get?_set, (h.lodging.settled found').number]
      by_cases here : j = bus
      · subst here
        cases found.symm.trans found'
        exact ⟨_, if_pos rfl, .registers control⟩
      · exact ⟨_, by rw [if_neg here, found], same⟩
  | @unregister j target bs next =>
    unfold Machine.unregister
    split
    · exact ⟨_, found, same⟩
    · rename_i b' found'
      have number := (h.lodging.settled found').number
      split
      · exact ⟨_, found, same⟩
      · rename_i r n done
        dsimp only [State.emit]
        rw [State.setBus, Table.get?_set, number]
        by_cases here : j = bus
        · subst here
          cases found.symm.trans found'
          exact ⟨r, if_pos rfl, .unregisters control done⟩
        · exact ⟨_, by rw [if_neg here, found], same⟩

/-- So does any step. -/
lemma Turn.turnover (turn : Turn p m m') (h : m.Lodged)
    (found : m.state.buses.get? bus = some b) :
    ∃ r, m'.state.buses.get? bus = some { b with registry := r } ∧
      Turnover m bus b.registry r := by
  obtain same | ⟨script, next, control, acts⟩ | ⟨j, e, elsewhere, next, _, rfl⟩ := turn.buses
  · exact ⟨b.registry, by rw [same, found], .looks []⟩
  · exact acts.turnover control h found
  · have numbered {b : Bus H} (found : (m.putAside next elsewhere).state.buses.get? j = some b) :
        b.handle.id = j := by
      rw [putAside_buses] at found
      exact (h.lodging.settled found).number
    have looks := post_looks numbered e
    obtain ⟨ts, found'⟩ := looks.buses (by rwa [putAside_buses])
    rw [putAside_hierarchy] at found'
    exact ⟨_, found', .looks ts⟩

/-- In every run, a step leaves a bus as it is, apart from its registry: it adds or removes
subscribers where a script asks for it, or keeps closures of types. -/
theorem Reachable.turnover (reach : Reachable p m) (st : Machine.step p m = .going m')
    (found : m.state.buses.get? bus = some b) :
    ∃ r, m'.state.buses.get? bus = some { b with registry := r } ∧
      Turnover m bus b.registry r :=
  (step_turn st).turnover reach.lodged found

end Machine

end EventBus
