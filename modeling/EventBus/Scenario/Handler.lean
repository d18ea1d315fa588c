import EventBus.Scenario.Step

/-!
The scripts of a scenario: what its steps do and what its handlers run.

A list of bindings is a batch with a number of its own, which it gets when it is declared; the
acts in it are counted by batch, binding and place, so that all registrations of a listener's own
list share the counts.
-/

namespace EventBus.Scenario

/-- What a handler of a scenario runs. -/
inductive Code where
  | handler (listener name : String) (batch index : Nat) (acts : List Act)
  | chain
  | reporter (batch : Nat) (acts : List Act) (detailed : Bool)

/-- A listener of a scenario. -/
structure Listener where
  target : Target
  bindings : List (Binding Code)

/-- What a scenario keeps. -/
structure Session where
  buses : List (String × BusRef)
  listeners : Table String Listener
  shared : Table String Nat
  counts : Table (Nat × Nat × Nat) Nat
  batches : Nat
  targets : Nat
  answer : Answer

namespace Session

def empty : Session := ⟨[], .empty, .empty, .empty, 0, 0, .nothing⟩

def bus? (s : Session) (name : String) : Option BusRef := s.buses.lookup name

def busId (s : Session) (name : String) : Nat := ((s.bus? name).map (·.id)).getD 0

def namesOf (s : Session) (r : BusRef) : List String :=
  (s.buses.filter (fun b => r.same b.2)).map (·.1)

def addBus (name : String) (r : BusRef) (s : Session) : Session :=
  { s with buses := s.buses.filter (fun b => b.1 != name) ++ [(name, r)] }

end Session

abbrev Play := Script Code Session Entry

abbrev Stage := State Code Session Entry

def bindingsOf (listener : String) (batch index : Nat) : List BindingSpec → List (Binding Code)
  | [] => []
  | .mk handler type intake concurrent executor acts :: rest =>
    ⟨handler, type, intake, concurrent, executor, .handler listener handler batch index acts⟩ ::
      bindingsOf listener batch (index + 1) rest

def newBatch (next : Nat → Play) : Play :=
  .inspect fun s _ =>
    let n := s.user.batches
    .update (fun u => { u with batches := n + 1 }) (next n)

def dispatcherOf (d : DispatcherSpec) (next : Dispatcher → Play) : Play :=
  let give (order : DispatchOrder) := next ⟨order, d.arrangement, d.detailed⟩
  match d.queued, d.shared with
  | false, _ => give .immediate
  | true, none => .newDispatcher fun id => give (.queued id)
  -- Whoever names a shared dispatcher first makes it.
  | true, some name =>
    .inspect fun s _ =>
      match s.user.shared.get? name with
      | some id => give (.queued id)
      | none =>
        .newDispatcher fun id =>
          .update (fun u => { u with shared := u.shared.set name id }) (give (.queued id))

/-- The builder with the identifier and the dispatcher of settings. -/
def applySettings (b : Builder Code) (c : Settings) (next : Builder Code → Play) : Play :=
  let give (order : DispatchOrder) :=
    next { b with identifier := some c.identifier, dispatcher := some (.plain order) }
  match c.dispatch with
  | .immediate => give .immediate
  | .queued => .newDispatcher fun id => give (.queued id)

def assemble (b : Builder Code) (next : Builder Code → Play) : List Part → Play
  | [] => next b
  | .identifier text :: rest => assemble { b with identifier := some text } next rest
  | .executor e :: rest => assemble { b with executor := some e } next rest
  | .dispatcher d :: rest =>
    dispatcherOf d fun d => assemble { b with dispatcher := some d } next rest
  | .settings c :: rest => applySettings b c fun b => assemble b next rest
  | .logging :: rest => assemble { b with policy := some .log } next rest
  | .noting :: rest => assemble { b with policy := some (.custom .chain) } next rest
  | .acting acts detailed :: rest =>
    newBatch fun batch =>
      assemble { b with policy := some (.custom (.reporter batch acts detailed)) } next rest

def presentBus (name : String) (builder : Option String) (next : Answer → Play) (r : BusRef) :
    Play :=
  .update (Session.addBus name r) <| .inspect fun s _ =>
    match s.buses.get? r.id with
    | some b => next (.made r.text (s.busDetail b) builder)
    | none => next .nothing

def makeBus (name : String) (next : Answer → Play) : Origin → Play
  | .plain => Builder.empty.build (presentBus name none next)
  | .identified identifier =>
    { Builder.empty with identifier := some identifier }.build (presentBus name none next)
  | .settled c => applySettings .empty c fun b => b.build (presentBus name none next)
  | .clone source =>
    .inspect fun s _ =>
      match s.user.bus? source with
      | some r => presentBus name none next r
      | none => next .nothing
  | .built parts =>
    assemble .empty
      (fun b => .inspect fun s _ => b.build (presentBus name (some (b.detail s)) next)) parts

def describe (target : Target) (bs : List (Binding Code)) (next : Play) : Play :=
  bs.foldr
    (fun b rest =>
      .note (.declared target b.handler b.eventType b.concurrent (b.detail target)) rest)
    (.note (.declaredAll (Binding.listDetail target bs)) next)

/-- Finds a listener and the bindings to use of it, noted down if asked for. -/
def withListener (name : String) (own : Option (List BindingSpec)) (described : Bool) (lost : Play)
    (next : Target → List (Binding Code) → Play) : Play :=
  .inspect fun s _ =>
    match s.user.listeners.get? name with
    | none => lost
    | some l =>
      let go (bs : List (Binding Code)) :=
        if described then describe l.target bs (next l.target bs) else next l.target bs
      match own with
      | none => go l.bindings
      | some specs => newBatch fun batch => go (bindingsOf name batch 0 specs)

def postTimes (bus : String) (event : Event) (elsewhere : Bool) (next : Play) : Nat → Play
  | 0 => next
  | n + 1 =>
    .inspect fun s _ =>
      .post (s.user.busId bus) event elsewhere (postTimes bus event elsewhere next n)

def showBus (name : String) (next : Answer → Play) (view : Stage → Bus Code → Answer) : Play :=
  .inspect fun s _ =>
    match s.buses.get? (s.user.busId name) with
    | some b => next (view s b)
    | none => next .nothing

/-- A refusal as it is answered: of several types that the error may name all are listed, least name
first. -/
def refused (r : Refusal) : Answer :=
  let names := (r.types.map (·.name)).mergeSort (fun a b => !decide (b < a))
  .refused <| r.naming <|
    match names with
    | [name] => name
    | names => "one of " ++ Text.joinWith ", " names

def Step.play (next : Answer → Play) : Step → Play
  | .types entries => .declare entries (next .nothing)
  | .bus name origin => makeBus name next origin
  | .listener name className specs =>
    newBatch fun batch => .inspect fun s _ =>
      let id := s.user.targets
      let l : Listener := ⟨⟨id, className, name⟩, bindingsOf name batch 0 specs⟩
      .update (fun u => { u with targets := id + 1, listeners := u.listeners.set name l })
        (next .nothing)
  | .register on whom own described =>
    withListener whom own described (next .nothing) fun target bs =>
      .inspect fun s _ => .register (s.user.busId on) target bs fun _ => next .nothing
  | .unregister on whom own described =>
    withListener whom own described (next .nothing) fun target bs =>
      .inspect fun s _ => .unregister (s.user.busId on) target bs fun r =>
        match r with
        | .ok _ => next .ok
        | .error r => next (refused r)
  | .post on event elsewhere times => postTimes on event elsewhere (next .nothing) times
  | .run limit newestFirst =>
    .runBacklog limit newestFirst fun done =>
      .inspect fun s _ => next (.ran done s.backlog.length)
  | .count on wanted =>
    showBus on next fun _ b =>
      .counted b.registry.count
        (wanted.map fun t => (t.1, (b.registry.subscribersFor t.2).length))
  | .debug on =>
    showBus on next fun s b =>
      .shown (s.busDetail b) b.handle.text b.handle.identifier b.handle.detail s.backlog.length
  | .handles a b =>
    .inspect fun s _ =>
      match s.user.bus? a, s.buses.get? (s.user.busId b) with
      | some x, some y =>
        next (.compared (x.same y.handle) (x.is y) (if x.same y.handle then 1 else 2))
      | _, _ => next .nothing

def deadSighting (s : Session) : Event → Option DeadSighting
  | .dead source event type =>
    some ⟨Event.deadText source event, source.text, source.identifier, s.namesOf source, type,
      event.text⟩
  | _ => none

def Deed.play (seen : Event) (next : Play) : Deed → Play
  | .step name action =>
    action.play fun
      | .nothing => next
      | answer => .note (.acted name answer) next
  | .note words => .note (.note words) next
  | .fail failure => .finish (.error failure)
  | .panic payload => .panic payload
  | .countdown on =>
    match seen with
    | .scalar (.int .u32 (.ofNat (n + 1))) =>
      .inspect fun s _ => .post (s.user.busId on) (.scalar (.int .u32 n)) false next
    | _ => next
  | .repost on =>
    match seen with
    | .dead source event type =>
      .inspect fun s _ => .post (s.user.busId on) (.dead source event type) false next
    | _ => next
  | .downcast name type =>
    match seen with
    | .dead _ event inner =>
      let value :=
        if Catalogue.isMarker type then none else some ((event.project type).map Event.text)
      .note (.downcast name (inner == type) value) next
    | _ => next

def playActs (batch index : Nat) (seen : Event) (place : Nat) : List Act → Play
  | [] => .finish (.ok ())
  | .mk only limit deed :: rest =>
    let later := playActs batch index seen (place + 1) rest
    if only.all (· == seen.text) then
      match limit with
      | none => deed.play seen later
      | some most =>
        .inspect fun s _ =>
          let key := (batch, index, place)
          let done := (s.user.counts.get? key).getD 0
          .update (fun u => { u with counts := u.counts.set key (done + 1) })
            (if done < most then deed.play seen later else later)
    else later

def handle : Code → Event → Play
  | .handler listener name batch index acts, seen =>
    .inspect fun s _ =>
      .note (.called listener name index seen.text (deadSighting s.user seen))
        (playActs batch index seen 0 acts)
  | _, _ => .finish (.ok ())

def report : Code → Failure → FailureContext → Play
  | .chain, failure, _ => .note (.chain failure.chain) (.finish (.ok ()))
  | .reporter batch acts detailed, failure, context =>
    .inspect fun s _ =>
      .note (.failed failure context (s.user.namesOf context.bus) detailed)
        (playActs batch 0 context.event 0 acts)
  | _, _, _ => .finish (.ok ())

def program : Program Code Session Entry := ⟨handle, report⟩

end EventBus.Scenario
