import EventBus.Proofs.Routing.Turnover

/-!
# Listening to everything

From the moment that somebody is subscribed to all events of a bus until the last one who is has
been unregistered, the bus has every event that is posted on it given to them, after everybody else,
and finds none of them dead. Whatever supertypes a type is declared to have, and whenever its closure
was computed, the universal type comes last in it and only there (`Registry.Arises.closure_ends`).
`Overheard` is the stretch of a run in between; each step of it keeps that somebody is subscribed
(`Tapped.step`).
-/

namespace EventBus

variable {H σ ε : Type}

/-- The universal type is the last one of a closure, and no other one. -/
lemma Hierarchy.closure_ends (h : Hierarchy) (t : EventType) :
    ∃ ts, h.closure t = ts ++ [.anyEvent] ∧ .anyEvent ∉ ts := by
  unfold Hierarchy.closure
  split
  · exact ⟨[], rfl, List.not_mem_nil⟩
  · rename_i other
    refine ⟨_, rfl, ?_⟩
    intro mem
    obtain mem | new := Hierarchy.new_of_mem_walk mem
    · exact other (List.mem_singleton.1 mem).symm
    · exact new List.mem_cons_self

namespace Registry

variable {r : Registry H}

/-- Of the subscribers that a look-up lists, those for all events come last, each of them once. -/
structure AnyLast (r : Registry H) (xs : List (Subscriber H)) : Prop where
  split : ∃ before, xs = before ++ r.subscribersFor .anyEvent ∧
    ∀ x ∈ before, x.eventType ≠ .anyEvent
  declared : ∀ x ∈ r.subscribersFor .anyEvent, x.eventType = .anyEvent
  once : (xs.map (·.subscription)).Nodup

/-- A registration leaves the remembered closures as they are. -/
lemma registerFrom_closures (r : Registry H) (target : Target)
    (declared : List (EventType × String)) (bs : List (Binding H)) :
    (registerFrom target declared r bs).registry.closures = r.closures :=
  registerFrom_keeps (P := fun r' => r'.closures = r.closures) (fun _ _ _ _ same => same) rfl declared

/-- A registration adds subscribers at the end, one at least for each binding that is said to have
been added. -/
lemma subscribersFor_registerFrom (r : Registry H) (target : Target)
    (declared : List (EventType × String)) (bs : List (Binding H)) (t : EventType) :
    ∃ more, (registerFrom target declared r bs).registry.subscribersFor t =
        r.subscribersFor t ++ more ∧
      ∀ b, (b, .added) ∈ (registerFrom target declared r bs).admissions → b.eventType = t →
        more ≠ [] := by
  induction bs generalizing r declared with
  | nil => exact ⟨[], (List.append_nil _).symm, by rintro b ⟨⟩⟩
  | cons b bs ih =>
    have refused {admission : Admission} (declared : List (EventType × String))
        (other : admission ≠ .added) :
        ∃ more, (registerFrom target declared r bs).registry.subscribersFor t =
            r.subscribersFor t ++ more ∧
          ∀ b', (b', .added) ∈ (b, admission) :: (registerFrom target declared r bs).admissions →
            b'.eventType = t → more ≠ [] := by
      obtain ⟨more, grown, some⟩ := ih r declared
      refine ⟨more, grown, ?_⟩
      intro b' mem type
      obtain same | mem := List.mem_cons.1 mem
      · cases same
        exact absurd rfl other
      · exact some b' mem type
    rw [registerFrom]
    split
    · exact refused declared (by rintro ⟨⟩)
    · split
      · exact refused _ (by rintro ⟨⟩)
      · obtain ⟨more, grown, some⟩ := ih (r.add target b) (b.key :: declared)
        rw [subscribersFor_add, List.append_assoc] at grown
        refine ⟨_, grown, ?_⟩
        intro b' mem type
        obtain same | mem := List.mem_cons.1 mem
        · cases same
          rw [if_pos type]
          exact List.cons_ne_nil _ _
        · exact List.append_ne_nil_of_right_ne_nil _ (some b' mem type)

namespace Arises

/-- The closures that a registry keeps were computed from the types that there were at some time. -/
lemma closure_kept (arises : r.Arises) {t : EventType} {c : List EventType}
    (found : r.closures.get? t = some c) : ∃ h : Hierarchy, c = h.closure t := by
  induction arises with
  | empty => cases found
  | @call r h call _ ih =>
    cases call with
    | register target bs =>
      apply ih
      rwa [Registry.call, Registry.register, registerFrom_closures] at found
    | unregister target bs =>
      rw [Registry.call, Registry.unregister] at found
      cases missing : r.missingTypes target bs with
      | cons _ _ =>
        rw [missing] at found
        exact ih found
      | nil =>
        obtain ⟨lists, same⟩ := Books.foldl_removeNamed r target bs (declaredTypes bs)
        rw [missing] at found
        dsimp only at found
        rw [same] at found
        exact ih found
    | resolve u =>
      rw [Registry.call, Registry.remember] at found
      split at found
      · exact ih found
      · rw [Table.get?_set] at found
        split at found
        · rename_i same
          subst same
          cases found
          exact ⟨h, rfl⟩
        · exact ih found

/-- The universal type comes last in the closure that a look-up goes by, and nowhere else. -/
lemma closure_ends (arises : r.Arises) (h : Hierarchy) (t : EventType) :
    ∃ ts, r.closureOf h t = ts ++ [.anyEvent] ∧ .anyEvent ∉ ts := by
  rw [closureOf]
  cases found : r.closures.get? t with
  | none => exact h.closure_ends t
  | some c =>
    obtain ⟨h', rfl⟩ := arises.closure_kept found
    exact h'.closure_ends t

/-- In a registry made by calls, those who hear every event come last. -/
lemma anyLast (arises : r.Arises) (h : Hierarchy) (t : EventType) :
    r.AnyLast (r.resolve h t) := by
  have orderly := arises.orderly
  obtain ⟨ts, ends, none⟩ := arises.closure_ends h t
  refine ⟨⟨ts.flatMap r.subscribersFor, ?_, ?_⟩, orderly.typed .anyEvent, orderly.resolve_nodup h t⟩
  · rw [resolve, ends, List.flatMap_append, List.flatMap_singleton]
  · intro x mem universal
    obtain ⟨u, mem_u, mem⟩ := List.mem_flatMap.1 mem
    rw [orderly.typed u x mem] at universal
    exact none (universal ▸ mem_u)

end Arises

end Registry

namespace Machine

/-- A script is about to make a registration that adds a subscriber for all events of a bus. -/
def Taps (bus : Nat) (m : Machine H σ ε) : Prop :=
  ∃ target bs next b, m.control = .run (.register bus target bs next) ∧
    m.state.buses.get? bus = some b ∧
    ∃ binding, (binding, .added) ∈ (b.registry.register target bs).admissions ∧
      binding.eventType = .anyEvent

/-- A script is about to remove the last subscriber for all events of a bus. -/
def Untaps (bus : Nat) (m : Machine H σ ε) : Prop :=
  ∃ target bs next b r n, m.control = .run (.unregister bus target bs next) ∧
    m.state.buses.get? bus = some b ∧ b.registry.unregister target bs = .ok (r, n) ∧
    r.subscribersFor .anyEvent = []

/-- The machines that come later than the one that adds a subscriber for all events of a bus, before
one has removed the last of them. -/
inductive Overheard (p : Program H σ ε) (bus : Nat) : Machine H σ ε → Machine H σ ε → Prop where
  | opened {m m₁} :
    Taps bus m →
    step p m = .going m₁ →
    Overheard p bus m m₁
  | step {m m₁ m₂} :
    Overheard p bus m m₁ →
    ¬Untaps bus m₁ →
    step p m₁ = .going m₂ →
    Overheard p bus m m₂
  | next {m m₁ : Machine H σ ε} {s ending} (user : σ) (script : Script H σ ε) :
    Overheard p bus m m₁ →
    Machine.step p m₁ = .ended s ending →
    Overheard p bus m (start { s with user := user } script)
  | pool {m m₁ : Machine H σ ε} {s ending} :
    Overheard p bus m m₁ →
    Machine.step p m₁ = .ended s ending →
    Overheard p bus m (startPool s)

/-- Somebody is subscribed to all events of a bus. -/
def Tapped (bus : Nat) (m : Machine H σ ε) : Prop :=
  ∃ b, m.state.buses.get? bus = some b ∧ b.registry.subscribersFor .anyEvent ≠ []

variable {p : Program H σ ε} {m m' : Machine H σ ε} {bus : Nat} {b : Bus H}

/-- After a tap the bus is tapped. -/
lemma Taps.step (taps : Taps bus m) (reach : Reachable p m) (st : Machine.step p m = .going m') :
    Tapped bus m' := by
  obtain ⟨target, bs, next, b, control, found, binding, added, universal⟩ := taps
  have settled := reach.lodged.lodging.settled found
  rw [Machine.step, control] at st
  cases st
  obtain ⟨more, grown, some⟩ := b.registry.subscribersFor_registerFrom target [] bs .anyEvent
  refine ⟨{ b with registry := (b.registry.register target bs).registry }, ?_, ?_⟩
  · rw [register_buses found target bs, Table.get?_set, if_pos settled.number]
  · show (Registry.registerFrom target [] b.registry bs).registry.subscribersFor _ ≠ []
    rw [grown]
    exact List.append_ne_nil_of_right_ne_nil _ (some binding added universal)

/-- It stays so unless the tap is taken away. -/
lemma Tapped.step (tapped : Tapped bus m) (stays : ¬Untaps bus m) (reach : Reachable p m)
    (st : Machine.step p m = .going m') : Tapped bus m' := by
  obtain ⟨b, found, some⟩ := tapped
  obtain ⟨r, found', turnover⟩ := reach.turnover st found
  refine ⟨_, found', ?_⟩
  show r.subscribersFor .anyEvent ≠ []
  cases turnover with
  | looks ts => rwa [Registry.subscribersFor_rememberAll]
  | @registers target bs _ _ =>
    obtain ⟨more, grown, _⟩ := b.registry.subscribersFor_registerFrom target [] bs .anyEvent
    rw [Registry.register, grown]
    exact List.append_ne_nil_of_left_ne_nil some _
  | unregisters control done =>
    intro none
    exact stays ⟨_, _, _, b, r, _, control, found, done, none⟩

/-- The end of such a window is reached by a run. -/
lemma Overheard.reachable (window : Overheard p bus m m') (reach : Reachable p m) :
    Reachable p m' := by
  induction window with
  | opened _ st => exact .step reach st
  | step _ _ st ih => exact .step ih st
  | next user script _ st ih => exact .next user _ script ih st
  | pool _ st ih => exact .pool ih st

/-- In such a window the bus is tapped throughout. -/
lemma Overheard.tapped (window : Overheard p bus m m') (reach : Reachable p m) :
    Tapped bus m' := by
  induction window with
  | opened taps st => exact taps.step reach st
  | step window stays st ih => exact ih.step stays (window.reachable reach) st
  | next user script _ st ih =>
    obtain ⟨_, rfl⟩ := stack_of_ended st
    exact ih
  | pool _ st ih =>
    obtain ⟨_, rfl⟩ := stack_of_ended st
    exact ih

/-- Somebody listens to whatever is posted on a bus that somebody listens to everything on. -/
lemma resolve_ne_nil (reach : Reachable p m) (found : m.state.buses.get? bus = some b)
    (some : b.registry.subscribersFor .anyEvent ≠ []) (h : Hierarchy) (t : EventType) :
    b.registry.resolve h t ≠ [] := by
  obtain ⟨before, split, _⟩ := ((reach.registry found).anyLast h t).split
  rw [split]
  exact List.append_ne_nil_of_right_ne_nil _ some

/-- Between two states the bus of that number has made no dead event. -/
def Unmourned (bus : Nat) (s s' : State H σ ε) : Prop :=
  ∃ os, s.Decides s' os ∧ ∀ r e, .died r e ∈ os → r.id ≠ bus

/-- On a tapped bus no step mourns an event. -/
lemma Tapped.unmourned (tapped : Tapped bus m) (reach : Reachable p m)
    (st : Machine.step p m = .going m') : Unmourned bus m.state m'.state := by
  obtain ⟨b, found, some⟩ := tapped
  cases step_decides st with
  | nothing none => exact ⟨[], none, by rintro r e ⟨⟩⟩
  | failed fails => exact ⟨_, decides_report m (decides_leave ..) .., by simp⟩
  | @posted bus' e elsewhere next control =>
    cases found' : m.state.buses.get? bus' with
    | none =>
      rw [post_unknown (by rwa [putAside_buses])]
      exact ⟨[], m.decides_putAside next elsewhere, by rintro r e ⟨⟩⟩
    | some b' =>
      obtain ⟨os, decides, fate⟩ := posted_fate found' e next elsewhere
      refine ⟨os, decides, ?_⟩
      intro r e' mem same
      obtain ⟨rfl, _, _, none⟩ := fate.of_died mem
      -- The bus is the one with that number, and somebody listens there.
      rw [(reach.lodged.lodging.settled found').number] at same
      subst same
      cases found.symm.trans found'
      exact resolve_ne_nil reach found some _ _ none

/-- Nor does the step that puts the tap there. -/
lemma Taps.unmourned (taps : Taps bus m) (st : Machine.step p m = .going m') :
    Unmourned bus m.state m'.state := by
  obtain ⟨target, bs, next, b, control, _⟩ := taps
  cases step_decides st with
  | nothing none => exact ⟨[], none, by rintro r e ⟨⟩⟩
  | posted posts => cases control.symm.trans posts
  | failed fails => cases control.symm.trans fails.control

/-- So no event is mourned in the whole window. -/
lemma Overheard.unmourned (window : Overheard p bus m m') (reach : Reachable p m) :
    Unmourned bus m.state m'.state := by
  induction window with
  | opened taps st => exact taps.unmourned st
  | step window _ st ih =>
    obtain ⟨os, before, none⟩ := ih
    obtain ⟨os', more, none'⟩ := (window.tapped reach).unmourned (window.reachable reach) st
    refine ⟨os ++ os', before.trans more, ?_⟩
    intro r e mem
    exact (List.mem_append.1 mem).elim (none r e) (none' r e)
  | next user script _ st ih =>
    obtain ⟨_, rfl⟩ := stack_of_ended st
    exact ih
  | pool _ st ih =>
    obtain ⟨_, rfl⟩ := stack_of_ended st
    exact ih

/-- In every run, from the registration that adds a subscriber for all events of a bus until the
last such subscriber is unregistered, the bus makes no dead event. Whatever event is posted on it in
between, a dead one among them, whatever supertypes types have and whenever closures were computed,
the dispatcher is given that event with a list of subscribers in which those that are subscribed to
all events at the time come last, each of them once, and everybody else before them. -/
theorem any_event_overheard (reach : Reachable p m) (window : Overheard p bus m m') :
    (∀ r e, .died r e ∈ m'.state.since m.state → r.id ≠ bus) ∧
    ∃ b, m'.state.buses.get? bus = some b ∧ b.registry.subscribersFor .anyEvent ≠ [] ∧
      ∀ e elsewhere next, m'.control = .run (.post bus e elsewhere next) →
        ∃ m₁ xs, b.registry.resolve m'.state.hierarchy e.type = xs ∧ b.registry.AnyLast xs ∧
          step p m' = .going m₁ ∧
          m₁ = (m'.putAside next elsewhere).dispatch
            (((m'.putAside next elsewhere).state.resolve b e.type).1.emit (.routed b.handle e xs))
            b.dispatcher e xs ∧
          m'.state.Decides m₁.state (.resolved b.handle e.type xs :: .routed b.handle e xs ::
            b.dispatcher.passesOn (m'.putAside next elsewhere).thread e xs) := by
  have later := window.reachable reach
  obtain ⟨b, found, some⟩ := window.tapped reach
  refine ⟨?_, b, found, some, ?_⟩
  · obtain ⟨os, decides, none⟩ := window.unmourned reach
    intro r e mem
    exact none r e ((decides.mem_since rfl).1 mem)
  · intro e elsewhere next control
    have heard := resolve_ne_nil later found some m'.state.hierarchy e.type
    obtain ⟨os, decides, fate⟩ := posted_fate found e next elsewhere
    have found' : (m'.putAside next elsewhere).state.buses.get? bus = Option.some b := by
      rwa [putAside_buses]
    have course := post_course found' e
    have anyLast := (later.registry found).anyLast m'.state.hierarchy e.type
    refine ⟨_, _, rfl, anyLast, step_posted control, ?_, ?_⟩
    · generalize (m'.putAside next elsewhere).post bus e = m₁ at course
      rw [← putAside_hierarchy m' next elsewhere] at heard ⊢
      cases course with
      | heard listed _ => rw [listed]
      | dropped none _ => exact absurd none heard
      | mourned none _ _ _ => exact absurd none heard
      | forgotten none _ _ => exact absurd none heard
    · cases fate with
      | heard listed _ => rwa [listed]
      | dropped none _ => exact absurd none heard
      | mourned none _ _ _ => exact absurd none heard
      | forgotten none _ _ => exact absurd none heard

namespace Tap

def loop : Event := .free ⟨"Loop"⟩ "Loop" "loop" [] []

/-- Two types that are declared to be above each other, and the universal type in between. -/
def hierarchy : Hierarchy := ⟨[(⟨"Loop"⟩, [.anyEvent, ⟨"Knot"⟩]), (⟨"Knot"⟩, [⟨"Loop"⟩])]⟩

def program : Program Unit Unit Unit where
  handle _ _ := .finish (.ok ())
  report _ _ _ := .finish (.ok ())

def listener : Target := ⟨1, "Listener", "listener"⟩

def onAny : Binding Unit := ⟨"on_any", .anyEvent, .whole, true, none, ()⟩

/-- An event is posted that nobody listens to. It is posted again when somebody listens to
everything, and its type has got other supertypes. -/
def script : Script Unit Unit Unit :=
  .build ⟨"bus", .direct, .plain .immediate, .log⟩ fun b =>
  .post b.id loop false <|
  .register b.id listener [onAny] fun _ =>
  .declare [(⟨"Loop"⟩, [])] <|
  .post b.id loop false (.finish (.ok ()))

def machine (n : Nat) : Machine Unit Unit Unit :=
  after program (start (.initial hierarchy ()) script) n

end Tap

/-- The event that was dead at first is given to the handler of everything the next time. -/
theorem tap_overhears :
    (∀ r e, .died r e ∈ (Tap.machine 5).state.since (Tap.machine 3).state → r.id ≠ 1) ∧
    ∃ (b : Bus Unit) (xs : List (Subscriber Unit)) (m₁ : Machine Unit Unit Unit),
      (Tap.machine 5).state.buses.get? 1 = some b ∧ b.registry.AnyLast xs ∧
      xs.map (·.handler) = ["on_any"] ∧
      step Tap.program (Tap.machine 5) = .going m₁ ∧
      (Tap.machine 5).state.Decides m₁.state
        [.resolved b.handle ⟨"Loop"⟩ xs, .routed b.handle Tap.loop xs,
          .dispatched mainThread .immediate Tap.loop xs] := by
  have reach : Reachable Tap.program (Tap.machine 3) := Reachable.after (.first ..) 3
  have taps : Taps 1 (Tap.machine 3) :=
    ⟨Tap.listener, _, _, _, by cbv, by cbv, Tap.onAny, .head _, rfl⟩
  have stays : ¬Untaps 1 (Tap.machine 4) := by
    obtain ⟨next, declares⟩ : ∃ next, (Tap.machine 4).control =
      .run (.declare [(⟨"Loop"⟩, [])] next) := ⟨_, by cbv⟩
    rintro ⟨_, _, _, _, _, _, unregisters, _⟩
    cases declares.symm.trans unregisters
  have window : Overheard Tap.program 1 (Tap.machine 3) (Tap.machine 5) :=
    .step (.opened taps (step_after (by decide +kernel))) stays (step_after (by decide +kernel))
  obtain ⟨next, control⟩ : ∃ next, (Tap.machine 5).control =
      .run (.post 1 Tap.loop false next) := ⟨_, by cbv⟩
  obtain ⟨b', found', dispatcher, handlers⟩ : ∃ b, (Tap.machine 5).state.buses.get? 1 = some b ∧
      b.dispatcher = .plain .immediate ∧
      (b.registry.resolve (Tap.machine 5).state.hierarchy Tap.loop.type).map (·.handler) =
        ["on_any"] := ⟨_, by cbv, by cbv, by cbv⟩
  obtain ⟨none, b, found, _, posts⟩ := any_event_overheard reach window
  cases found'.symm.trans found
  obtain ⟨m₁, xs, listed, anyLast, st, _, decides⟩ := posts _ _ _ control
  have thread : ((Tap.machine 5).putAside next false).thread = mainThread := by cbv
  rw [dispatcher, thread] at decides
  exact ⟨none, b', xs, m₁, found, anyLast, by rw [← listed, handlers], st, decides⟩

end Machine

end EventBus
