import EventBus.Bus.Handle
import EventBus.Event.Hierarchy
import EventBus.Table
import EventBus.Text.Quoted
import EventBus.Text.Record

/-!
Subscriptions of one bus.

A listener hands in a list of bindings, each a handler name, the event type it is declared for,
and what to run.  `Registry.register` turns the bindings that are new into subscribers, in order;
the first binding of a name for a type wins.  `Registry.unregister` removes the subscribers that a
list of bindings names, or nothing at all if one of the declared types holds none of them.
`Registry.resolve` lists the subscribers interested in an event type: those declared for the type
itself, then those for its supertypes, most specific first.  The closure of a type is computed
once and kept; the subscribers are always the current ones.
-/

namespace EventBus

/-- The instance that handlers belong to. -/
structure Target where
  id : Nat
  className : String
  label : String
deriving DecidableEq, Repr

namespace Target

def text (t : Target) : String := t.className ++ "@" ++ t.label

def detail (t : Target) : String :=
  Text.record "Target"
    [("id", Text.tuple "TargetId" [t.label]), ("type", Text.quote t.className)]

end Target

/-- Where the work of delivering an event is run. -/
inductive Executor where
  /-- At once, on the posting thread. -/
  | direct
  /-- Later, when the backlog is run. -/
  | deferred
  /-- On the one thread of a pool. -/
  | pool
deriving DecidableEq, Repr

def Executor.name : Executor → String
  | direct => "DirectExecutor"
  | deferred => "Deferred"
  | pool => "Tokio"

/-- What a handler wants to be given. -/
inductive Intake where
  /-- A value of the very type it is declared for. -/
  | typed
  /-- The event as it was posted. -/
  | whole
deriving DecidableEq, Repr

/-- A handler as a listener declares it; `code` stands for what it runs. -/
structure Binding (H : Type) where
  handler : String
  eventType : EventType
  intake : Intake
  concurrent : Bool
  executor : Option Executor
  code : H

namespace Binding

variable {H : Type}

/-- What a list of bindings may declare only once: a handler name for a type. -/
def key (b : Binding H) : EventType × String := (b.eventType, b.handler)

/-- The whole value as text, declared by `target`. -/
def detail (target : Target) (b : Binding H) : String :=
  Text.openRecord "HandlerBinding"
    [("target", target.detail), ("handler", Text.quote b.handler),
      ("event_type", b.eventType.name), ("concurrent", Text.truth b.concurrent)]

def listDetail (target : Target) (bs : List (Binding H)) : String :=
  Text.openRecord "Bindings" [("bindings", Text.list (bs.map (detail target)))]

end Binding

/-- What is done about errors that handlers return. -/
inductive FailurePolicy (H : Type) where
  /-- Log them. -/
  | log
  /-- Run a handler for them. -/
  | custom (code : H)

/-- Where the failures of a bus are reported. -/
structure FailureDesk (H : Type) where
  bus : BusRef
  policy : FailurePolicy H

/-- The key of the lock that keeps the calls of one subscriber apart. -/
structure LockKey where
  bus : Nat
  serial : Nat
deriving DecidableEq, Repr

/-- A handler that is registered on a bus. -/
structure Subscriber (H : Type) where
  target : Target
  handler : String
  eventType : EventType
  intake : Intake
  concurrent : Bool
  executor : Executor
  code : H
  desk : FailureDesk H
  lock : LockKey

namespace Subscriber

variable {H : Type}

/-- Whether a subscriber is the handler of that name of that target. -/
def isFor (s : Subscriber H) (target : Target) (handler : String) : Bool :=
  s.target.id == target.id && s.handler == handler

/-- Whether two subscribers wrap the same handler of the same target. -/
def same (s t : Subscriber H) : Bool := s.isFor t.target t.handler

end Subscriber

/-- The subscriptions of one bus. -/
structure Registry (H : Type) where
  /-- Subscribers under the type they are declared for, oldest first. -/
  lists : Table EventType (List (Subscriber H))
  /-- The closures computed so far. -/
  closures : Table EventType (List EventType)
  /-- The number of subscribers ever added. -/
  serial : Nat
  /-- The executor of handlers that do not bring their own. -/
  executor : Executor
  desk : FailureDesk H

/-- What becomes of one binding in a registration. -/
inductive Admission where
  /-- Its name was already declared for the type in the same list. -/
  | repeated
  /-- The target already has this handler for the type. -/
  | present
  /-- It became a subscriber. -/
  | added
deriving DecidableEq, Repr

/-- The result of a registration. -/
structure Registration (H : Type) where
  registry : Registry H
  added : Nat
  admissions : List (Binding H × Admission)

namespace Registry

variable {H : Type}

def empty (executor : Executor) (desk : FailureDesk H) : Registry H :=
  ⟨.empty, .empty, 0, executor, desk⟩

/-- The subscribers declared for a type, oldest first. -/
def subscribersFor (r : Registry H) (t : EventType) : List (Subscriber H) :=
  (r.lists.get? t).getD []

def count (r : Registry H) : Nat :=
  r.lists.values.flatten.length

/-- Whether a target has a handler of that name for a type. -/
def holds (r : Registry H) (target : Target) (key : EventType × String) : Bool :=
  (r.subscribersFor key.1).any (·.isFor target key.2)

def subscriber (r : Registry H) (target : Target) (b : Binding H) : Subscriber H where
  target := target
  handler := b.handler
  eventType := b.eventType
  intake := b.intake
  concurrent := b.concurrent
  executor := b.executor.getD r.executor
  code := b.code
  desk := r.desk
  lock := ⟨r.desk.bus.id, r.serial⟩

/-- The registry with one more subscriber, the last of its type. -/
def add (r : Registry H) (target : Target) (b : Binding H) : Registry H :=
  { r with
    lists := r.lists.set b.eventType (r.subscribersFor b.eventType ++ [r.subscriber target b])
    serial := r.serial + 1 }

/-- Registration of the rest of a list, of which `declared` has been seen. -/
def registerFrom (target : Target) (declared : List (EventType × String)) (r : Registry H) :
    List (Binding H) → Registration H
  | [] => ⟨r, 0, []⟩
  | b :: bs =>
    -- A repetition counts as one even if the target had the handler before.
    if b.key ∈ declared then
      let rest := registerFrom target declared r bs
      { rest with admissions := (b, .repeated) :: rest.admissions }
    else if r.holds target b.key then
      let rest := registerFrom target (b.key :: declared) r bs
      { rest with admissions := (b, .present) :: rest.admissions }
    else
      let rest := registerFrom target (b.key :: declared) (r.add target b) bs
      { rest with added := rest.added + 1, admissions := (b, .added) :: rest.admissions }

/-- Adds a subscriber for every binding that is new, in order. -/
def register (r : Registry H) (target : Target) (bs : List (Binding H)) : Registration H :=
  registerFrom target [] r bs

/-- The types that a list of bindings declares, each at its first place. -/
def declaredTypes (bs : List (Binding H)) : List EventType :=
  Hierarchy.fresh [] (bs.map (·.eventType))

/-- Whether a subscriber for type `t` is one that the bindings of the target name. -/
def named (target : Target) (bs : List (Binding H)) (t : EventType) (s : Subscriber H) : Bool :=
  bs.any (fun b => b.eventType == t && s.isFor target b.handler)

/-- The declared types under which there is no subscriber that the bindings name. -/
def missingTypes (r : Registry H) (target : Target) (bs : List (Binding H)) : List EventType :=
  (declaredTypes bs).filter (fun t => !(r.subscribersFor t).any (named target bs t))

/-- The registry without the subscribers of one type that the bindings name. -/
def removeNamed (target : Target) (bs : List (Binding H)) (r : Registry H) (t : EventType) :
    Registry H :=
  match (r.subscribersFor t).filter (fun s => !named target bs t s) with
  | [] => { r with lists := r.lists.erase t }
  | kept => { r with lists := r.lists.set t kept }

def namedCount (r : Registry H) (target : Target) (bs : List (Binding H)) : Nat :=
  ((declaredTypes bs).flatMap fun t => (r.subscribersFor t).filter (named target bs t)).length

/-- Removes the subscribers that the bindings of a target name and says how many they were.  If a
declared type holds none of them, nothing is removed and the types in question are given. -/
def unregister (r : Registry H) (target : Target) (bs : List (Binding H)) :
    Except (List EventType) (Registry H × Nat) :=
  match r.missingTypes target bs with
  | [] => .ok ((declaredTypes bs).foldl (removeNamed target bs) r, r.namedCount target bs)
  | missing => .error missing

/-- The closure of a type, as first computed on this bus. -/
def closureOf (r : Registry H) (h : Hierarchy) (t : EventType) : List EventType :=
  (r.closures.get? t).getD (h.closure t)

/-- The registry that keeps the closure of a type. -/
def remember (r : Registry H) (h : Hierarchy) (t : EventType) : Registry H :=
  match r.closures.get? t with
  | some _ => r
  | none => { r with closures := r.closures.set t (h.closure t) }

/-- Every subscriber interested in a type, most specific declared type first. -/
def resolve (r : Registry H) (h : Hierarchy) (t : EventType) : List (Subscriber H) :=
  (r.closureOf h t).flatMap r.subscribersFor

def detail (r : Registry H) : String :=
  Text.openRecord "SubscriberRegistry"
    [("types", Number.natText r.lists.size), ("subscribers", Number.natText r.count),
      ("executor", r.executor.name)]

end Registry

end EventBus
