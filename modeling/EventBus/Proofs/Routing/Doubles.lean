import EventBus.Proofs.Routing.Snapshot

/-!
# One name for several types

A listener may subscribe handlers of one name for several types, and types may be above each other:
a look-up then lists the name once for each of the types that the event counts as, and a post
delivers the event to it as often. It does so no more than once for each type
(`Registry.Orderly.types_of_handler`), and no post delivers its event to the same handler for the
same type twice (`doubles_by_type`).
-/

namespace EventBus

variable {H σ ε : Type}

/-- If two subscribers are the same handler, they are declared for different types. -/
def Subscriber.Differs (x y : Subscriber H) : Prop := x.same y → x.eventType ≠ y.eventType

/-- Subscribers of two subscriptions differ. -/
lemma Subscriber.differs_of_subscription_ne {x y : Subscriber H}
    (other : x.subscription ≠ y.subscription) : x.Differs y := by
  intro same type
  rw [Subscriber.same, Subscriber.isFor, Bool.and_eq_true, beq_iff_eq, beq_iff_eq] at same
  obtain ⟨id, handler⟩ := same
  apply other
  rw [Subscriber.subscription, Subscriber.subscription, type, id, handler]

namespace Registry.Orderly

variable {r : Registry H}

/-- A look-up lists a handler once at most for each type. -/
lemma resolve_differs (h : r.Orderly) (hierarchy : Hierarchy) (t : EventType) :
    (r.resolve hierarchy t).Pairwise Subscriber.Differs := by
  have nodup := List.pairwise_map.1 (h.resolve_nodup hierarchy t)
  exact nodup.imp Subscriber.differs_of_subscription_ne

/-- The subscribers of a type are the same handler once if the handler is subscribed for it. -/
lemma type_of_handler (h : r.Orderly) (target : Target) (handler : String) (t : EventType) :
    ((r.subscribersFor t).filter (·.isFor target handler)).map (·.eventType) =
      if r.holds target (t, handler) then [t] else [] := by
  cases found : (r.subscribersFor t).filter (·.isFor target handler) with
  | nil =>
    rw [if_neg, List.map_nil]
    intro holds
    obtain ⟨x, mem, isFor⟩ := List.any_eq_true.1 holds
    have mem : x ∈ (r.subscribersFor t).filter (·.isFor target handler) :=
      List.mem_filter.2 ⟨mem, isFor⟩
    rw [found] at mem
    cases mem
  | cons x xs =>
    have listed {y : Subscriber H} (mem : y ∈ x :: xs) :
        y ∈ r.subscribersFor t ∧ y.subscription = (t, target.id, handler) := by
      rw [← found] at mem
      obtain ⟨mem, isFor⟩ := List.mem_filter.1 mem
      rw [Subscriber.isFor, Bool.and_eq_true, beq_iff_eq, beq_iff_eq] at isFor
      rw [Subscriber.subscription, h.typed t y mem, isFor.1, isFor.2]
      exact ⟨mem, rfl⟩
    have holds : r.holds target (t, handler) := by
      have mem : x ∈ (r.subscribersFor t).filter (·.isFor target handler) := by
        rw [found]
        exact List.mem_cons_self
      obtain ⟨mem, isFor⟩ := List.mem_filter.1 mem
      exact List.any_eq_true.2 ⟨x, mem, isFor⟩
    have once : ((x :: xs).map (·.subscription)).Nodup := by
      rw [← found]
      exact (h.distinct t).sublist (List.filter_sublist.map _)
    rw [if_pos holds]
    cases xs with
    | nil => rw [List.map_singleton, h.typed t x (listed List.mem_cons_self).1]
    | cons y ys =>
      have same := (listed List.mem_cons_self).2.trans
        (listed (List.mem_cons_of_mem x List.mem_cons_self)).2.symm
      rw [List.map_cons, List.map_cons, same] at once
      exact absurd List.mem_cons_self (List.nodup_cons.1 once).1

/-- The types that a look-up lists a handler for are those of the closure that it is subscribed for,
in the same order. -/
lemma types_of_handler (h : r.Orderly) (hierarchy : Hierarchy) (t : EventType) (target : Target)
    (handler : String) :
    ((r.resolve hierarchy t).filter (·.isFor target handler)).map (·.eventType) =
      (r.closureOf hierarchy t).filter fun u => r.holds target (u, handler) := by
  rw [resolve, List.filter_flatMap, List.map_flatMap]
  induction r.closureOf hierarchy t with
  | nil => rfl
  | cons u us ih =>
    rw [List.flatMap_cons, ih, h.type_of_handler target handler u, List.filter_cons]
    cases r.holds target (u, handler) <;> rfl

end Registry.Orderly

namespace Machine

variable {p : Program H σ ε} {m : Machine H σ ε} {bus : Nat} {b : Bus H}

/-- What has been submitted of an event went to a part of its list from the beginning. -/
lemma Stands.made_eq {order : DispatchOrder} {t : Nat} {e : Event} {xs : List (Subscriber H)}
    {base : List (Frame H σ ε)} {stage : Stage H ε} (stands : Stands order t e xs base m stage) :
    ∃ ys, ys <+: xs ∧ stage.made = ys.map (.submitted t order e) := by
  obtain ⟨ys, begins, made⟩ := List.prefix_map_iff.1 stands.made_begins
  exact ⟨ys, begins, made⟩

/-- In every run, the subscribers that a bus lists for a type are a handler of a listener just as
often as there are types in the closure that the handler is subscribed for, once for each of them in
their order; and a post on a bus with a queued or an immediate dispatcher delivers its event, or the
dead event that takes its place, to the same handler of the same listener once at most for each type
that it is declared for, however the run goes on. No other submissions come of the post: all others
were outstanding before it or are due to a dispatch after it. -/
theorem doubles_by_type (reach : Reachable p m) (found : m.state.buses.get? bus = some b) :
    (∀ h t, (b.registry.resolve h t).Pairwise Subscriber.Differs) ∧
    (∀ h t target handler,
      ((b.registry.resolve h t).filter (·.isFor target handler)).map (·.eventType) =
        (b.registry.closureOf h t).filter fun u => b.registry.holds target (u, handler)) ∧
    ∀ e elsewhere next, m.control = .run (.post bus e elsewhere next) →
      b.dispatcher.arrangement = .plain →
      ∃ m₁, step p m = .going m₁ ∧ ∀ e' xs, Passes m.state.hierarchy b e e' xs →
        let m₀ := m.putAside next elsewhere
        let submission := Occurrence.submitted (ε := ε) m₀.thread b.dispatcher.order e'
        xs.Pairwise Subscriber.Differs ∧
        m₁.outstanding = m.outstanding + .ofList (xs.map submission) ∧
        ∀ n, ∃ ys others, ys <+: xs ∧ ys.Pairwise Subscriber.Differs ∧
          (stageAfter p (m₀.below b.dispatcher.order).length m₁ (.first m₀ b.dispatcher.order)
            n).made = ys.map submission ∧
          submissionsIn ((after p m₁ n).state.since m.state) =
            .ofList (ys.map submission) + others ∧
          others ≤ m.outstanding + calledFor ((after p m₁ n).state.since m₁.state) := by
  have orderly := (reach.registry found).orderly
  refine ⟨orderly.resolve_differs, orderly.types_of_handler, ?_⟩
  intro e elsewhere next control plain
  have st := step_posted (p := p) control
  have course := post_course (m := m.putAside next elsewhere) (by rwa [putAside_buses]) e
  refine ⟨_, st, ?_⟩
  intro e' xs passes m₀ submission
  have differ : xs.Pairwise Subscriber.Differs := by
    cases passes with
    | heard _ => exact orderly.resolve_differs ..
    | mourned _ _ _ => exact orderly.resolve_differs ..
  have wf : WellFormed m₀ := reach.wellFormed.putAside next elsewhere
  have arranged : b.dispatcher.arrangement.apply xs = some xs := by rw [plain, Arrangement.apply]
  have sent := course.sent wf (putAside_hierarchy m next elsewhere ▸ passes) arranged
  have same := (posting_putAside m next elsewhere).outstanding_eq
  have reach₁ := reach.step st
  refine ⟨differ, same ▸ sent.outstanding_eq wf, ?_⟩
  intro n
  obtain ⟨ys, begins, made⟩ := ((sent.stands wf).after reach₁ n).made_eq
  obtain ⟨others, all, few⟩ := posted_others sent reach.wellFormed reach₁ n
  rw [made] at all
  exact ⟨ys, others, begins, differ.sublist begins.sublist, made, all, few⟩

namespace Twofold

def listener : Target := ⟨1, "Listener", "listener"⟩

def on (type : EventType) : Binding Unit := ⟨"on_order", type, .whole, true, none, ()⟩

/-- Shipped orders are orders. -/
def hierarchy : Hierarchy := ⟨[(⟨"Shipped"⟩, [⟨"Order"⟩])]⟩

def shipped : Event := .free ⟨"Shipped"⟩ "Shipped" "first" [] []

def program : Program Unit Unit Unit where
  handle _ _ := .finish (.ok ())
  report _ _ _ := .finish (.ok ())

/-- A listener uses one name for its handlers of orders and of shipped orders. -/
def script : Script Unit Unit Unit :=
  .build ⟨"bus", .direct, .plain .immediate, .log⟩ fun b =>
  .register b.id listener [on ⟨"Shipped"⟩, on ⟨"Order"⟩] fun _ =>
  .post b.id shipped false (.finish (.ok ()))

def machine (n : Nat) : Machine Unit Unit Unit :=
  after program (start (.initial hierarchy ()) script) n

end Twofold

/-- The listener is listed twice for a shipped order, and a post of one order comes to it twice. -/
theorem twofold_listed_twice :
    ∃ (b : Bus Unit) (x y : Subscriber Unit), Reachable Twofold.program (Twofold.machine 2) ∧
      (Twofold.machine 2).state.buses.get? 1 = some b ∧
      b.registry.resolve (Twofold.machine 2).state.hierarchy Twofold.shipped.type = [x, y] ∧
      x.same y ∧
      invocationsOf ((Twofold.machine 8).state.since (Twofold.machine 2).state) =
        [(Twofold.shipped, x), (Twofold.shipped, y)] :=
  ⟨_, _, _, Reachable.after (.first ..) 2, by cbv, by cbv, by decide, by cbv⟩

/-- The listener is listed for each of the two types, and comes to each delivery for another one. -/
theorem twofold_by_type :
    ∃ (b : Bus Unit) (m₁ : Machine Unit Unit Unit),
      (Twofold.machine 2).state.buses.get? 1 = some b ∧
      ((b.registry.resolve (Twofold.machine 2).state.hierarchy ⟨"Shipped"⟩).filter
        (·.isFor Twofold.listener "on_order")).map (·.eventType) = [⟨"Shipped"⟩, ⟨"Order"⟩] ∧
      step Twofold.program (Twofold.machine 2) = .going m₁ ∧
      ∀ n, ∃ (ys : List (Subscriber Unit)) (others : Multiset (Occurrence Unit Unit)),
        ys.Pairwise Subscriber.Differs ∧
        submissionsIn ((after Twofold.program m₁ n).state.since (Twofold.machine 2).state) =
          .ofList (ys.map (.submitted mainThread .immediate Twofold.shipped)) + others ∧
        others ≤ calledFor ((after Twofold.program m₁ n).state.since m₁.state) := by
  have reach : Reachable Twofold.program (Twofold.machine 2) := Reachable.after (.first ..) 2
  obtain ⟨next, control⟩ : ∃ next, (Twofold.machine 2).control =
      .run (.post 1 Twofold.shipped false next) := ⟨_, by cbv⟩
  obtain ⟨b, found, dispatcher, held, heard⟩ : ∃ b : Bus Unit,
      (Twofold.machine 2).state.buses.get? 1 = some b ∧ b.dispatcher = .plain .immediate ∧
      ((b.registry.closureOf (Twofold.machine 2).state.hierarchy ⟨"Shipped"⟩).filter fun u =>
        b.registry.holds Twofold.listener (u, "on_order")) = [⟨"Shipped"⟩, ⟨"Order"⟩] ∧
      (b.registry.resolve (Twofold.machine 2).state.hierarchy Twofold.shipped.type).isEmpty =
        false := ⟨_, by cbv, by cbv, by cbv, by cbv⟩
  obtain ⟨_, types, posts⟩ := doubles_by_type reach found
  obtain ⟨m₁, st, delivers⟩ := posts _ _ _ control (by rw [dispatcher]; rfl)
  obtain ⟨_, _, account⟩ :=
    delivers _ _ (.heard (by rintro none; rw [none] at heard; cases heard))
  have order : b.dispatcher.order = .immediate := by
    rw [dispatcher]
    rfl
  have thread : ((Twofold.machine 2).putAside next false).thread = mainThread := by cbv
  -- Nothing was outstanding before the post.
  have owed : (Twofold.machine 2).outstanding = 0 := by cbv
  rw [order, thread, owed] at account
  refine ⟨b, m₁, found, (types ..).trans held, st, ?_⟩
  intro n
  obtain ⟨ys, others, _, differ, _, all, few⟩ := account n
  exact ⟨ys, others, differ, all, few.trans (zero_add _).le⟩

end Machine

end EventBus
