import EventBus.Proofs.Queue.Owing
import EventBus.Proofs.Queue.Panic
import EventBus.Proofs.Registry.Ledger

/-!
# The registries of a run

Whatever a run does, the registry of each bus comes about by calls on a new one
(`Reachable.registry`), types being declared between them or not. What the calls keep is therefore
true of every registry in every run, such as that a look-up lists no subscription twice
(`Registry.Arises.resolve_nodup`).
-/

namespace EventBus

variable {H σ ε : Type}

namespace Registry

variable {r : Registry H}

/-- The registries that come about by calls, each on whatever types there are at the time. -/
inductive Arises : Registry H → Prop where
  | empty (executor : Executor) (desk : FailureDesk H) : Arises (.empty executor desk)
  | call {r : Registry H} (h : Hierarchy) (c : Call H) : Arises r → Arises (r.call h c)

/-- The subscribers of each type are declared for it and are different ones, and the closures that
are kept name no type twice. -/
structure Orderly (r : Registry H) : Prop where
  typed : ∀ t, ∀ x ∈ r.subscribersFor t, x.eventType = t
  distinct : ∀ t, ((r.subscribersFor t).map (·.subscription)).Nodup
  closures : ∀ t c, r.closures.get? t = some c → c.Nodup

namespace Orderly

/-- To enter a binding that is not held keeps the order of ages. -/
lemma add (h : r.Orderly) {target : Target} {b : Binding H} (new : ¬r.holds target b.key) :
    (r.add target b).Orderly := by
  refine ⟨?_, ?_, h.closures⟩
  · intro t x mem
    rw [subscribersFor_add] at mem
    obtain mem | mem := List.mem_append.1 mem
    · exact h.typed t x mem
    · split at mem
      · rename_i same
        rw [List.mem_singleton.1 mem]
        exact same
      · cases mem
  · intro t
    rw [subscribersFor_add]
    split
    · rename_i same
      subst same
      rw [List.map_append, List.nodup_append']
      refine ⟨h.distinct _, List.nodup_singleton _, ?_⟩
      intro key mem mem'
      obtain ⟨x, old, rfl⟩ := List.mem_map.1 mem
      obtain ⟨_, id, handler⟩ : _ ∧ _ ∧ _ := by
        simpa [Subscriber.subscription, subscriber] using mem'
      apply new
      rw [holds, List.any_eq_true]
      exact ⟨x, old, by simp [Subscriber.isFor, id, handler, Binding.key]⟩
    · rw [List.append_nil]
      exact h.distinct t

/-- So does a registration. -/
lemma registerFrom (h : r.Orderly) (target : Target) (declared : List (EventType × String))
    (bs : List (Binding H)) : (Registry.registerFrom target declared r bs).registry.Orderly :=
  registerFrom_keeps (P := Orderly) (fun _ _ _ new h => h.add new) h declared

/-- So does any call. -/
lemma call (h : r.Orderly) (hierarchy : Hierarchy) (c : Call H) : (r.call hierarchy c).Orderly := by
  cases c with
  | register target bs => exact h.registerFrom target [] bs
  | unregister target bs =>
    rw [Registry.call, Registry.unregister]
    cases r.missingTypes target bs with
    | cons t ts => exact h
    | nil =>
      obtain ⟨lists, same⟩ := Books.foldl_removeNamed r target bs (declaredTypes bs)
      have kept := Books.subscribersFor_removeNamed r target bs (declaredTypes bs)
      dsimp only
      rw [same] at kept ⊢
      have sub (t : EventType) :
          ({ r with lists := lists }.subscribersFor t).Sublist (r.subscribersFor t) := by
        rw [kept]
        split
        · exact List.filter_sublist
        · exact List.Sublist.refl _
      exact ⟨fun t x mem => h.typed t x ((sub t).subset mem),
        fun t => (h.distinct t).sublist ((sub t).map _), h.closures⟩
  | resolve t =>
    rw [Registry.call, Registry.remember]
    split
    · exact h
    · refine ⟨h.typed, h.distinct, ?_⟩
      intro u c found
      rw [Table.get?_set] at found
      split at found
      · cases found
        exact Hierarchy.closure_nodup
      · exact h.closures u c found

/-- A look-up lists no subscription twice. -/
lemma resolve_nodup (h : r.Orderly) (hierarchy : Hierarchy) (t : EventType) :
    ((r.resolve hierarchy t).map (·.subscription)).Nodup := by
  have closure : (r.closureOf hierarchy t).Nodup := by
    rw [closureOf]
    cases found : r.closures.get? t with
    | none => exact Hierarchy.closure_nodup
    | some c => exact h.closures t c found
  exact subscription_nodup_of_typed h.typed h.distinct closure

end Orderly

/-- A registry made by calls is orderly. -/
lemma Arises.orderly (arises : r.Arises) : r.Orderly := by
  induction arises with
  | empty executor desk =>
    exact ⟨fun _ => List.forall_mem_nil _, fun _ => List.nodup_nil, by rintro t c ⟨⟩⟩
  | call h c _ ih => exact ih.call h c

end Registry

namespace State

variable {s : State H σ ε}

/-- The registry of each bus has come about by calls. -/
def Arisen (s : State H σ ε) : Prop :=
  ∀ k b, s.buses.get? k = some b → b.registry.Arises

namespace Arisen

/-- To write back a bus whose registry was made by calls keeps every registry so. -/
lemma setBus (h : s.Arisen) {b : Bus H} (arises : b.registry.Arises) : (s.setBus b).Arisen := by
  intro k b' found
  rw [State.setBus, Table.get?_set] at found
  split at found
  · cases found
    exact arises
  · exact h k b' found

/-- A state with the same buses has the same registries. -/
lemma of_buses {s' : State H σ ε} (h : s.Arisen) (same : s'.buses = s.buses) : s'.Arisen := by
  intro k b found
  rw [same] at found
  exact h k b found

/-- Telling of things changes no registry. -/
lemma emitAll (h : s.Arisen) (os : List (Occurrence H ε)) : (s.emitAll os).Arisen := by
  induction os generalizing s with
  | nil => exact h
  | cons o os ih => exact ih (h.of_buses rfl)

/-- A look-up is a call as well. -/
lemma resolve (h : s.Arisen) {b : Bus H} (arises : b.registry.Arises) (t : EventType) :
    (s.resolve b t).1.Arisen := by
  unfold State.resolve
  cases b.registry.closures.get? t with
  | some _ => exact h.of_buses rfl
  | none =>
    have kept : (s.setBus { b with registry := b.registry.remember s.hierarchy t }).Arisen :=
      h.setBus (arises.call s.hierarchy (.resolve t))
    exact kept.of_buses rfl

/-- So are the two look-ups of a post that nobody hears. -/
lemma mourned (h : s.Arisen) {bus : Nat} {b : Bus H} (found : s.buses.get? bus = some b)
    (e : Event) : (s.mourned b bus e).Arisen := by
  have looked := h.resolve (h _ b found) e.type
  have died : ((s.resolve b e.type).1.emit (.died b.handle e)).Arisen := looked.of_buses rfl
  obtain ⟨r, same, _⟩ := s.bus_resolve b e.type found
  unfold State.mourned
  dsimp only
  apply died.resolve
  rw [show ((s.resolve b e.type).1.emit (.died b.handle e)).buses.get? bus = _ from same]
  exact looked _ _ same

/-- And so are the calls that scripts make. -/
lemma acts (h : s.Arisen) {t : Nat} {script next : Script H σ ε} {s' : State H σ ε}
    (acts : Machine.Acts t s script s' next) : s'.Arisen := by
  cases acts with
  | note | inspect | update | declare | newDispatcher => exact h.of_buses rfl
  | build =>
    have grown : Arisen { s with busCount := s.busCount + 1 } := h.of_buses rfl
    exact (grown.setBus (.empty ..)).of_buses rfl
  | @register bus target bs _ =>
    unfold Machine.register
    split
    · exact h
    · rename_i b found
      have arises : (b.registry.register target bs).registry.Arises :=
        (h _ b found).call s.hierarchy (.register target bs)
      exact ((h.setBus (b := { b with registry := _ }) arises).emitAll _).of_buses rfl
  | @unregister bus target bs _ =>
    unfold Machine.unregister
    split
    · exact h
    · rename_i b found
      split
      · exact h
      · rename_i r n done
        have arises := (h _ b found).call s.hierarchy (.unregister target bs)
        rw [Registry.call, done] at arises
        exact (h.setBus (b := { b with registry := r }) arises).of_buses rfl

end Arisen

end State

namespace Machine

variable {p : Program H σ ε} {m m' : Machine H σ ε}

/-- A dispatch leaves the buses alone. -/
lemma dispatch_buses (m : Machine H σ ε) (s : State H σ ε) (d : Dispatcher) (e : Event)
    (xs : List (Subscriber H)) : (m.dispatch s d e xs).state.buses = s.buses := by
  obtain ⟨queues, trace, same⟩ := dispatch_state m s d e xs
  rw [same]

/-- A post leaves registries made by calls. -/
lemma Course.arisen {bus : Nat} {b : Bus H} {e : Event} (course : Course m bus b e m')
    (h : m.state.Arisen) (found : m.state.buses.get? bus = some b) : m'.state.Arisen := by
  have looked := h.resolve (h _ b found) e.type
  have mourned := h.mourned found e
  cases course with
  | heard => exact looked.of_buses (dispatch_buses ..)
  | dropped => exact looked.of_buses rfl
  | mourned => exact mourned.of_buses (dispatch_buses ..)
  | forgotten => exact mourned.of_buses rfl

/-- So does a post on any bus, whether it exists or not. -/
lemma post_arisen (h : m.state.Arisen) (bus : Nat) (e : Event) : (m.post bus e).state.Arisen := by
  cases found : m.state.buses.get? bus with
  | none =>
    rw [post_unknown found]
    exact h
  | some b => exact (post_course found e).arisen h found

/-- To step inside a handler leaves the buses alone. -/
lemma inside_buses (p : Program H σ ε) (m : Machine H σ ε) (s : State H σ ε) (e : Event)
    (x : Subscriber H) : (m.inside p s e x).state.buses = s.buses := by
  obtain ⟨locks, same⟩ := s.enter_state m.thread x
  show (s.enter m.thread x).buses = s.buses
  rw [same]

/-- So does a report. -/
lemma report_buses (p : Program H σ ε) (m : Machine H σ ε) (s : State H σ ε)
    (rest : List (Frame H σ ε)) (failure : Failure) (e : Event) (x : Subscriber H) :
    (report p m s rest failure e x).state.buses = s.buses := by
  unfold report
  cases x.desk.policy <;> rfl

/-- A step leaves the buses as they are, unless a script makes a call or a post. -/
lemma Turn.buses (turn : Turn p m m') : m'.state.buses = m.state.buses ∨
    (∃ script next, m.control = .run script ∧ Acts m.thread m.state script m'.state next) ∨
    ∃ bus e elsewhere next, m.control = .run (.post bus e elsewhere next) ∧
      m' = (m.putAside next elsewhere).post bus e := by
  cases turn with
  | acts control acts => exact .inr (.inl ⟨_, _, control, acts⟩)
  | posts control => exact .inr (.inr ⟨_, _, _, _, control, rfl⟩)
  | panics | runsBacklog | idles | resumes | delivers | joins | ran | rests | drops =>
    exact .inl rfl
  | @delivered e x _ _ _ => exact .inl (leave_buses m.state x)
  | @fails _ _ x _ _ => exact .inl ((report_buses ..).trans (leave_buses m.state x))
  | @reported result _ _ _ _ _ => cases result <;> exact .inl rfl
  | calls => exact .inl (inside_buses ..)
  | defers | handsOff | catches | survives => exact .inl rfl
  | @fetches _ _ s _ _ _ _ dequeued =>
    obtain ⟨q, draining, _, rfl⟩ := dequeue_eq_some dequeued
    exact .inl rfl
  | closes | breaks => exact .inl (closeQueue_buses ..)
  | takes _ _ taken =>
    obtain ⟨_, fewer, _, rfl⟩ := takeBacklog_eq_some taken
    exact .inl (inside_buses ..)
  | pools _ _ taken =>
    obtain ⟨fewer, _, rfl⟩ := takePool_eq_some taken
    exact .inl (inside_buses ..)
  | @leaves _ _ x _ _ _ => exact .inl (leave_buses m.state x)

/-- Every step leaves registries made by calls. -/
lemma Turn.arisen (turn : Turn p m m') (h : m.state.Arisen) : m'.state.Arisen := by
  obtain same | ⟨script, next, _, acts⟩ | ⟨bus, e, elsewhere, next, _, rfl⟩ := turn.buses
  · exact h.of_buses same
  · exact h.acts acts
  · exact post_arisen (h.of_buses (putAside_buses m next elsewhere)) bus e

/-- In every run, the registry of each bus has come about by calls. -/
theorem Reachable.registry (reach : Reachable p m) {k : Nat} {b : Bus H}
    (found : m.state.buses.get? k = some b) : b.registry.Arises := by
  have all : m.state.Arisen := by
    clear found
    induction reach with
    | first => rintro k b ⟨⟩
    | step _ st ih => exact (step_turn st).arisen ih
    | next user trace script _ st ih =>
      obtain ⟨_, rfl⟩ := stack_of_ended st
      exact ih.of_buses rfl
    | pool _ st ih =>
      obtain ⟨_, rfl⟩ := stack_of_ended st
      exact ih
  exact all k b found

end Machine

end EventBus
