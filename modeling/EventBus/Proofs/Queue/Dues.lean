import EventBus.Proofs.Failure.Isolation
import EventBus.Proofs.Queue.Unfolding

/-!
# What a post calls for

Where handlers answer to what they are given, and to nothing else, it can be told beforehand what
comes of a post: which dead events are made, what is dispatched to whom, and what the handlers post
in their turn. `settlement` tells it, from what the buses offer and how the handlers conduct
themselves, without a word about dispatchers' orders.
-/

namespace EventBus

variable {H σ ε : Type}

/-- What is seen of a bus by those who post on it: its handle, its subscribers for each type, and
what is done to the list of them. -/
structure Offer (H : Type) where
  handle : BusRef
  listed : EventType → List (Subscriber H)
  arrangement : Arrangement

def Bus.offer (h : Hierarchy) (b : Bus H) : Offer H :=
  ⟨b.handle, b.registry.resolve h, b.dispatcher.arrangement⟩

/-- What the buses of a state offer, by number. -/
def State.offers (s : State H σ ε) (bus : Nat) : Option (Offer H) :=
  (s.buses.get? bus).map (Bus.offer s.hierarchy)

namespace Offer

variable (o : Offer H) (e : Event)

/-- The dead event around an event. -/
def dead : Event := .dead o.handle e e.type

/-- An event on its way to the dispatcher, if it gets there. -/
def arranged (xs : List (Subscriber H)) : List (Pending H) :=
  ((o.arrangement.apply xs).map (⟨e, ·⟩)).toList

/-- What a dispatcher is given for an event that is posted. -/
def passes : List (Pending H) :=
  match o.listed e.type with
  | x :: xs => o.arranged e (x :: xs)
  | [] =>
    if e.type = .deadEvent then []
    else
      match o.listed .deadEvent with
      | x :: xs => o.arranged (o.dead e) (x :: xs)
      | [] => []

/-- The events around which dead events are made for an event that is posted. -/
def deaths : List Event :=
  match o.listed e.type with
  | _ :: _ => []
  | [] => if e.type = .deadEvent then [] else [e]

end Offer

/-- How handlers and reports conduct themselves: what they post, each event on a bus, and what a
handler returns. -/
structure Conduct (H : Type) where
  posts : H → Event → List (Nat × Event)
  result : H → Event → Except Failure Unit
  reports : H → Failure → FailureContext → List (Nat × Event)

namespace Conduct

variable (c : Conduct H) (e : Event) (x : Subscriber H)

/-- What is posted because of what a handler returned. -/
def aftermath : Except Failure Unit → List (Nat × Event)
  | .ok _ => []
  | .error failure =>
    match x.desk.policy with
    | .log => []
    | .custom code => c.reports code failure (x.failureContext e)

/-- What is posted because of a delivery, in the end. -/
def answer : List (Nat × Event) :=
  match x.given e with
  | some v => c.posts x.code v ++ c.aftermath e x (c.result x.code v)
  | none => []

end Conduct

/-- Scripts that make no other calls of buses than to post certain events, on their own thread and
in this order, and that end with a certain result, whatever they see in the state. -/
inductive Script.Posts : Script H σ ε → List (Nat × Event) → Except Failure Unit → Prop where
  | finish {r} : Posts (.finish r) [] r
  | note {entry next posts r} :
    Posts next posts r →
    Posts (.note entry next) posts r
  | inspect {next posts r} :
    (∀ s t, Posts (next s t) posts r) →
    Posts (.inspect next) posts r
  | update {change next posts r} :
    Posts next posts r →
    Posts (.update change next) posts r
  | post {bus e next posts r} :
    Posts next posts r →
    Posts (.post bus e false next) ((bus, e) :: posts) r

/-- What happens to events. -/
inductive Happening (H : Type) where
  /-- A dead event is made. -/
  | died (bus : BusRef) (event : Event)
  /-- A dispatcher is given an event with its subscribers. -/
  | driven (next : Pending H)
  /-- A handler is called. -/
  | invoked (event : Event) (subscriber : Subscriber H)

namespace Occurrence

/-- What an occurrence tells of the happenings, whatever thread and dispatcher had to do with it. -/
def happening? : Occurrence H ε → Option (Happening H)
  | died b e => some (.died b e)
  | dispatched _ _ e xs => some (.driven ⟨e, xs⟩)
  | invoked _ e x => some (.invoked e x)
  | _ => none

/-- The event that a dispatcher was given, with its subscribers. -/
def drive? : Occurrence H ε → Option (Pending H)
  | dispatched _ _ e xs => some ⟨e, xs⟩
  | _ => none

end Occurrence

/-- The events that dispatchers were given, in the order of the calls. -/
def drivesOf (os : List (Occurrence H ε)) : List (Pending H) :=
  os.filterMap (·.drive?)

/-- Something that remains to be done. -/
inductive Due (H : Type) where
  /-- An event is to be posted on a bus. -/
  | post (bus : Nat) (event : Event)
  /-- An event is to be delivered to subscribers, one after the other. -/
  | delivery (next : Pending H)

/-- What posts and deliveries turn into, and what happens meanwhile. -/
def settlement (offers : Nat → Option (Offer H)) (c : Conduct H) :
    Settlement (Due H) (Happening H) where
  yields
    | .post bus e => ((offers bus).elim [] (·.passes e)).map .delivery
    | .delivery ⟨_, []⟩ => []
    | .delivery ⟨e, x :: xs⟩ => .delivery ⟨e, xs⟩ :: (c.answer e x).map fun q => .post q.1 q.2
  tells
    | .post bus e =>
      (offers bus).elim [] fun o =>
        (o.deaths e).map (.died o.handle) ++ (o.passes e).map .driven
    | .delivery ⟨_, []⟩ => []
    | .delivery ⟨e, x :: _⟩ => [.invoked e x]

/-- A delivery that goes well as far as the machine is concerned: the handler is called at once, has
a view of the event, and posts what is expected to be posted. -/
structure Conduct.Serves (c : Conduct H) (occurs : Nat → Event → Prop) (e : Event)
    (x : Subscriber H) : Prop where
  direct : x.executor = .direct
  given : (x.given e).isSome
  answers : ∀ q ∈ c.answer e x, occurs q.1 q.2

/-- Handlers and reports that post, and return, what depends on their arguments only; and posts
among which they remain, of events that no handler who gets them fails to see. -/
structure Regular (p : Program H σ ε) (c : Conduct H) (offers : Nat → Option (Offer H))
    (occurs : Nat → Event → Prop) : Prop where
  handle : ∀ code v, (p.handle code v).Posts (c.posts code v) (c.result code v)
  report : ∀ code failure context,
    ∃ r, (p.report code failure context).Posts (c.reports code failure context) r
  serves : ∀ {bus e o next x}, occurs bus e → offers bus = some o → next ∈ o.passes e →
    x ∈ next.subscribers → c.Serves occurs next.event x

/-- What remains to be done keeps to the posts that are expected. -/
def Due.Expected (c : Conduct H) (occurs : Nat → Event → Prop) : Due H → Prop
  | .post bus e => occurs bus e
  | .delivery next => ∀ x ∈ next.subscribers, c.Serves occurs next.event x

/-- So does what it turns into. -/
lemma Regular.expected_yields {p : Program H σ ε} {c : Conduct H}
    {offers : Nat → Option (Offer H)} {occurs : Nat → Event → Prop}
    (regular : Regular p c offers occurs) {d : Due H} (expected : d.Expected c occurs) :
    ∀ d' ∈ (settlement offers c).yields d, d'.Expected c occurs := by
  intro d' mem
  cases d with
  | post bus e =>
    cases found : offers bus with
    | none => simp [settlement, found] at mem
    | some o =>
      simp only [settlement, found, Option.elim_some, List.mem_map] at mem
      obtain ⟨next, passed, rfl⟩ := mem
      exact fun x mem => regular.serves expected found passed mem
  | delivery next =>
    obtain ⟨e, xs⟩ := next
    cases xs with
    | nil => cases mem
    | cons x xs =>
      obtain ⟨serves, rest⟩ := List.forall_mem_cons.1 expected
      obtain rfl | mem := List.mem_cons.1 mem
      · exact rest
      · obtain ⟨q, answered, rfl⟩ := List.mem_map.1 mem
        exact serves.answers q answered

end EventBus
