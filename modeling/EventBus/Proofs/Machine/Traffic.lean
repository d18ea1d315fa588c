import Mathlib
import EventBus.Bus.Machine

/-!
# Traffic

What the trace says about the way of events: which were dispatched, which deliveries were submitted
and which handlers were invoked. `State.Traffic` is the part of a stretch of the trace that tells of
these three; `State.Calm` relates two states between which nothing of the kind happened and no queue
changed.
-/

namespace EventBus

variable {H σ ε : Type}

namespace Occurrence

/-- The event that a dispatcher was given on a thread, with its subscribers. -/
def dispatch? (id t : Nat) : Occurrence H ε → Option (Pending H)
  | dispatched u (.queued d) e xs => if d = id ∧ u = t then some ⟨e, xs⟩ else none
  | _ => none

/-- The delivery that a dispatcher submitted on a thread. -/
def submission? (id t : Nat) : Occurrence H ε → Option (Event × Subscriber H)
  | submitted u (.queued d) e x => if d = id ∧ u = t then some (e, x) else none
  | _ => none

/-- The event and the subscriber whose handler was invoked. -/
def invocation? : Occurrence H ε → Option (Event × Subscriber H)
  | invoked _ e x => some (e, x)
  | _ => none

/-- Whether an occurrence tells of the way of an event. -/
def isTraffic : Occurrence H ε → Bool
  | dispatched _ _ _ _ | submitted _ _ _ _ | invoked _ _ _ => true
  | _ => false

/-- What is no traffic is no dispatch. -/
lemma dispatch?_of_not_isTraffic {id t : Nat} {o : Occurrence H ε} (quiet : o.isTraffic = false) :
    o.dispatch? id t = none := by
  cases o <;> first | rfl | cases quiet

/-- What is no traffic is no submission. -/
lemma submission?_of_not_isTraffic {id t : Nat} {o : Occurrence H ε}
    (quiet : o.isTraffic = false) : o.submission? id t = none := by
  cases o <;> first | rfl | cases quiet

/-- What is no traffic is no invocation. -/
lemma invocation?_of_not_isTraffic {o : Occurrence H ε} (quiet : o.isTraffic = false) :
    o.invocation? = none := by
  cases o <;> first | rfl | cases quiet

end Occurrence

/-- The events that a queued dispatcher was given on a thread, in the order of the calls. -/
def dispatchesOf (id t : Nat) (os : List (Occurrence H ε)) : List (Pending H) :=
  os.filterMap (·.dispatch? id t)

/-- The deliveries that a queued dispatcher submitted on a thread, in order. -/
def submissionsOf (id t : Nat) (os : List (Occurrence H ε)) : List (Event × Subscriber H) :=
  os.filterMap (·.submission? id t)

/-- The invocations of handlers, in order. -/
def invocationsOf (os : List (Occurrence H ε)) : List (Event × Subscriber H) :=
  os.filterMap (·.invocation?)

/-- A pending event paired with each of its subscribers, in the order of the list. -/
def Pending.deliveries (p : Pending H) : List (Event × Subscriber H) :=
  p.subscribers.map (p.event, ·)

/-- What a function reads off a trace it reads off the part that is kept, if it reads nothing else.
-/
lemma filterMap_kept {α : Type} {keep : Occurrence H ε → Bool} {f : Occurrence H ε → Option α}
    (only : ∀ o, keep o = false → f o = none) (os : List (Occurrence H ε)) :
    (os.filter keep).filterMap f = os.filterMap f := by
  induction os with
  | nil => rfl
  | cons o os ih =>
    cases kept : keep o with
    | true => simp [List.filterMap_cons, kept, ih]
    | false => simp [kept, only o kept, ih]

section Append

variable (id t : Nat) (os os' : List (Occurrence H ε))

@[simp] lemma dispatchesOf_append :
    dispatchesOf id t (os ++ os') = dispatchesOf id t os ++ dispatchesOf id t os' :=
  List.filterMap_append

@[simp] lemma submissionsOf_append :
    submissionsOf id t (os ++ os') = submissionsOf id t os ++ submissionsOf id t os' :=
  List.filterMap_append

@[simp] lemma invocationsOf_append :
    invocationsOf (os ++ os') = invocationsOf os ++ invocationsOf os' :=
  List.filterMap_append

end Append

namespace State

/-- What has happened since an earlier state. -/
def since (s' s : State H σ ε) : List (Occurrence H ε) :=
  s'.trace.toList.drop s.trace.toList.length

/-- Between two states the trace grew, and `os` is what a filter keeps of what was added. -/
def Adds (keep : Occurrence H ε → Bool) (s s' : State H σ ε) (os : List (Occurrence H ε)) : Prop :=
  ∃ added, s'.trace.toList = s.trace.toList ++ added ∧ added.filter keep = os

/-- Between two states the trace grew, and `os` is the traffic in what was added. -/
abbrev Traffic (s s' : State H σ ε) (os : List (Occurrence H ε)) : Prop :=
  Adds (·.isTraffic) s s' os

namespace Adds

variable {keep : Occurrence H ε → Bool} {s s' s'' : State H σ ε} {os os' : List (Occurrence H ε)}

/-- Where the trace stays, nothing is added. -/
lemma of_eq (e : s'.trace = s.trace) : Adds keep s s' [] :=
  ⟨[], by rw [e, List.append_nil], rfl⟩

/-- What is added by two stretches is added by the first and then by the second. -/
lemma trans (h : Adds keep s s' os) (h' : Adds keep s' s'' os') : Adds keep s s'' (os ++ os') := by
  obtain ⟨added, grown, rfl⟩ := h
  obtain ⟨added', grown', rfl⟩ := h'
  refine ⟨added ++ added', ?_, List.filter_append ..⟩
  rw [grown', grown, List.append_assoc]

/-- One more occurrence counts if the filter keeps it. -/
lemma emit (h : Adds keep s s' os) (o : Occurrence H ε) :
    Adds keep s (s'.emit o) (os ++ if keep o then [o] else []) := by
  apply h.trans
  refine ⟨[o], by simp [State.emit], ?_⟩
  cases kept : keep o <;> simp [kept]

/-- An occurrence that the filter leaves out adds nothing. -/
lemma skip (h : Adds keep s s' os) {o : Occurrence H ε} (other : keep o = false) :
    Adds keep s (s'.emit o) os := by
  have grown := h.emit o
  rwa [other, if_neg Bool.false_ne_true, List.append_nil] at grown

/-- Nor do several of them. -/
lemma skipAll (h : Adds keep s s' os) {added : List (Occurrence H ε)}
    (other : ∀ o ∈ added, keep o = false) : Adds keep s (s'.emitAll added) os := by
  induction added generalizing s' with
  | nil => exact h
  | cons o added ih =>
    obtain ⟨other_o, other⟩ := List.forall_mem_cons.1 other
    exact ih (h.skip other_o) other

/-- What a filter keeps of the occurrences since a state is what was added. -/
lemma since_eq (h : Adds keep s s' os) : (s'.since s).filter keep = os := by
  obtain ⟨added, grown, rfl⟩ := h
  rw [since, grown, List.drop_left]

/-- Of what happened between two states, a filter keeps what it is to keep. -/
lemma mem_since (h : Adds keep s s' os) {o : Occurrence H ε} (kept : keep o = true) :
    o ∈ s'.since s ↔ o ∈ os := by
  rw [← h.since_eq, List.mem_filter, and_iff_left kept]

/-- There is only one account of what was added. -/
lemma unique (h : Adds keep s s' os) (h' : Adds keep s s' os') : os = os' :=
  h.since_eq.symm.trans h'.since_eq

/-- The dispatches since a state can be read off the traffic alone. -/
lemma dispatchesOf_since (h : Traffic s s' os) (id t : Nat) :
    dispatchesOf id t (s'.since s) = dispatchesOf id t os := by
  rw [← h.since_eq]
  exact (filterMap_kept (fun _ => Occurrence.dispatch?_of_not_isTraffic) _).symm

/-- The submissions since a state can be read off the traffic alone. -/
lemma submissionsOf_since (h : Traffic s s' os) (id t : Nat) :
    submissionsOf id t (s'.since s) = submissionsOf id t os := by
  rw [← h.since_eq]
  exact (filterMap_kept (fun _ => Occurrence.submission?_of_not_isTraffic) _).symm

/-- The invocations since a state can be read off the traffic alone. -/
lemma invocationsOf_since (h : Traffic s s' os) :
    invocationsOf (s'.since s) = invocationsOf os := by
  rw [← h.since_eq]
  exact (filterMap_kept (fun _ => Occurrence.invocation?_of_not_isTraffic) _).symm

end Adds

/-- Between two states nothing was dispatched, submitted or invoked, and nothing waits that did not
wait before. -/
structure Calm (s s' : State H σ ε) : Prop where
  queues : s'.queues = s.queues
  backlog : s'.backlog = s.backlog
  traffic : Traffic s s' []

namespace Calm

variable {s s' s'' : State H σ ε}

/-- A state with the same queues, backlog and trace is calm. -/
lemma of_eq (queues : s'.queues = s.queues) (backlog : s'.backlog = s.backlog)
    (trace : s'.trace = s.trace) : Calm s s' :=
  ⟨queues, backlog, .of_eq trace⟩

/-- Nothing is calmer than no change. -/
lemma refl (s : State H σ ε) : Calm s s := .of_eq rfl rfl rfl

/-- Two calm stretches make one. -/
lemma trans (h : Calm s s') (h' : Calm s' s'') : Calm s s'' :=
  ⟨h'.queues.trans h.queues, h'.backlog.trans h.backlog, h.traffic.trans h'.traffic⟩

/-- It is calm to tell of anything but traffic. -/
lemma emit (h : Calm s s') {o : Occurrence H ε} (quiet : o.isTraffic = false) :
    Calm s (s'.emit o) :=
  ⟨h.queues, h.backlog, h.traffic.skip quiet⟩

end Calm

end State

end EventBus
