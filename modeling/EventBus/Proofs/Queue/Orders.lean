import EventBus.Proofs.Queue.Settling

/-!
# Orders agree

Whether events are put into queues or driven at once, the same comes of a post, in another order.
The run of a machine settles what it owes, so that it ends just when that can be settled; what is
owed for a post does not depend on the order, and neither does what happens in settling it.
-/

namespace EventBus

variable {H σ ε : Type}

namespace Happening

def drive? : Happening H → Option (Pending H)
  | driven next => some next
  | _ => none

def invocation? : Happening H → Option (Event × Subscriber H)
  | invoked e x => some (e, x)
  | _ => none

def death? : Happening H → Option (BusRef × Event)
  | died b e => some (b, e)
  | _ => none

end Happening

/-- The deliveries to one subscriber after the other that something owed stands for. -/
def Due.lane? : Due H → Option (List (Event × Subscriber H))
  | post _ _ => none
  | delivery next => some next.deliveries

/-- Stretches of the trace in which the same was done, each in an order of its own: as many times
the same dead events were made, the same events driven to the same subscribers and the same handlers
invoked, and the subscribers of each event came one after the other in the order of their list. -/
structure Rearranged (os os' : List (Occurrence H ε)) : Prop where
  deaths : (deathsOf os).Perm (deathsOf os')
  drives : (drivesOf os).Perm (drivesOf os')
  invocations : (invocationsOf os).Perm (invocationsOf os')
  interleaves : Interleaves ((drivesOf os).map Pending.deliveries) (invocationsOf os)
  interleaves' : Interleaves ((drivesOf os').map Pending.deliveries) (invocationsOf os')

/-- On either side the subscribers of an event are called in the order of their list. -/
lemma Rearranged.in_order {os os' : List (Occurrence H ε)} (h : Rearranged os os')
    {next : Pending H} (driven : next ∈ drivesOf os) :
    next.deliveries.Sublist (invocationsOf os) ∧ next.deliveries.Sublist (invocationsOf os') := by
  have driven' := h.drives.mem_iff.1 driven
  exact ⟨h.interleaves.sublist (List.mem_map_of_mem driven),
    h.interleaves'.sublist (List.mem_map_of_mem driven')⟩

/-- The deliveries that are owed, and those of the events that are driven. -/
def lanes (owed : Multiset (Due H)) (hs : List (Happening H)) :
    Multiset (List (Event × Subscriber H)) :=
  owed.filterMap Due.lane? + ((hs.filterMap Happening.drive?).map Pending.deliveries : List _)

section Reading

variable {os os' : List (Occurrence H ε)} {hs hs' : List (Happening H)}

/-- What is read off the happenings may be read off the occurrences themselves. -/
lemma filterMap_happenings {A : Type} {f : Occurrence H ε → Option A} {g : Happening H → Option A}
    (same : ∀ o, f o = o.happening?.bind g) (read : os.filterMap (·.happening?) = hs) :
    os.filterMap f = hs.filterMap g := by
  rw [← read, List.filterMap_filterMap]
  exact List.filterMap_congr fun o _ => same o

/-- The deaths of a trace can be read off its happenings. -/
lemma deathsOf_eq (read : os.filterMap (·.happening?) = hs) :
    deathsOf os = hs.filterMap Happening.death? :=
  filterMap_happenings (fun o => by cases o <;> rfl) read

/-- So can the events that are driven. -/
lemma drivesOf_eq (read : os.filterMap (·.happening?) = hs) :
    drivesOf os = hs.filterMap Happening.drive? :=
  filterMap_happenings (fun o => by cases o <;> rfl) read

/-- And so can the invocations. -/
lemma invocationsOf_eq (read : os.filterMap (·.happening?) = hs) :
    invocationsOf os = hs.filterMap Happening.invocation? :=
  filterMap_happenings (fun o => by cases o <;> rfl) read

/-- Traces whose happenings are the same in another order, event by event in the same one, are
rearranged. -/
lemma Rearranged.of_happenings (read : os.filterMap (·.happening?) = hs)
    (read' : os'.filterMap (·.happening?) = hs') (same : hs.Perm hs')
    (fits : Interleaves (lanes 0 hs) (hs.filterMap Happening.invocation?))
    (fits' : Interleaves (lanes 0 hs') (hs'.filterMap Happening.invocation?)) :
    Rearranged os os' := by
  rw [lanes, Multiset.filterMap_zero, zero_add] at fits fits'
  constructor
  · rw [deathsOf_eq read, deathsOf_eq read']
    exact same.filterMap _
  · rw [drivesOf_eq read, drivesOf_eq read']
    exact same.filterMap _
  · rw [invocationsOf_eq read, invocationsOf_eq read']
    exact same.filterMap _
  · rwa [drivesOf_eq read, invocationsOf_eq read]
  · rwa [drivesOf_eq read', invocationsOf_eq read']

end Reading

/-- What is driven and invoked when something is settled fits in with what comes afterwards. -/
lemma interleaves_settle {offers : Nat → Option (Offer H)} {c : Conduct H} {d : Due H}
    {rest : Multiset (Due H)} {hs : List (Happening H)}
    (h : Interleaves (lanes (((settlement offers c).yields d : Multiset (Due H)) + rest) hs)
      (hs.filterMap Happening.invocation?)) :
    Interleaves (lanes (d ::ₘ rest) ((settlement offers c).tells d ++ hs))
      (((settlement offers c).tells d ++ hs).filterMap Happening.invocation?) := by
  unfold lanes at *
  rw [Multiset.filterMap_add, Multiset.filterMap_coe] at h
  rw [List.filterMap_append, List.filterMap_append]
  cases d with
  | post bus e =>
    -- What is driven is owed from then on, and nothing is invoked.
    have invoked :
        ((settlement offers c).tells (.post bus e)).filterMap Happening.invocation? = [] := by
      simp only [settlement]
      cases offers bus <;> simp [Happening.invocation?]
    have driven : ((settlement offers c).yields (.post bus e)).filterMap Due.lane? =
        (((settlement offers c).tells (.post bus e)).filterMap Happening.drive?).map
          Pending.deliveries := by
      simp only [settlement]
      cases offers bus <;>
        simp [List.filterMap_map, Function.comp_def, Due.lane?, Happening.drive?]
    rw [driven] at h
    rw [invoked, List.nil_append, Multiset.filterMap_cons_none _ _ rfl, List.map_append,
      ← Multiset.coe_add, add_left_comm, ← add_assoc]
    exact h
  | delivery next =>
    obtain ⟨e, xs⟩ := next
    rw [Multiset.filterMap_cons_some Due.lane? _ _ rfl]
    cases xs with
    | nil =>
      rw [Multiset.cons_add]
      exact .done (by simpa [settlement] using h)
    | cons x xs =>
      rw [Multiset.cons_add]
      have posted : (((settlement offers c).yields (.delivery ⟨e, x :: xs⟩)).filterMap Due.lane?) =
          [Pending.deliveries ⟨e, xs⟩] := by
        simp [settlement, Due.lane?]
      rw [posted, Multiset.coe_singleton, Multiset.singleton_add, Multiset.cons_add] at h
      exact .next h

/-- A state in which nothing is going on: no queue is open, and no lock is held by another thread
than the main one. The buses are known by their numbers. -/
structure State.AtRest (s : State H σ ε) : Prop where
  number : ∀ {bus b}, s.buses.get? bus = some b → b.handle.id = bus
  closed : ∀ key, s.queues.get? key = none
  free : ∀ lock, s.lockedOut mainThread lock = false

/-- A script that does nothing but post events. -/
def Script.ofPosts (r : Except Failure Unit) : List (Nat × Event) → Script H σ ε
  | [] => .finish r
  | q :: posts => .post q.1 q.2 false (ofPosts r posts)

/-- A script that is made of posts makes these posts. -/
lemma Script.posts_ofPosts (r : Except Failure Unit) (posts : List (Nat × Event)) :
    (ofPosts r posts : Script H σ ε).Posts posts r := by
  induction posts with
  | nil => exact .finish
  | cons q posts ih => exact .post ih

/-- The handlers and reports that do nothing else than a conduct asks of them. -/
def Conduct.program (c : Conduct H) : Program H σ ε where
  handle code v := .ofPosts (c.result code v) (c.posts code v)
  report code failure context := .ofPosts (.ok ()) (c.reports code failure context)

/-- The state in which the dispatcher of a bus drives events in another order. -/
def State.reorder (s : State H σ ε) (bus : Nat) (order : DispatchOrder) : State H σ ε :=
  match s.buses.get? bus with
  | some b => s.setBus { b with dispatcher := { b.dispatcher with order := order } }
  | none => s

/-- Those who post on the bus see no difference. -/
lemma State.offers_reorder (s : State H σ ε)
    (number : ∀ {bus b}, s.buses.get? bus = some b → b.handle.id = bus) (bus : Nat)
    (order : DispatchOrder) : (s.reorder bus order).offers = s.offers := by
  unfold reorder
  split
  · rename_i b found
    funext k
    rw [offers, offers, setBus, Table.get?_set, number found]
    split_ifs with same
    · rw [← same, found]
      rfl
    · rfl
  · rfl

/-- At rest remains at rest under another order. -/
lemma State.AtRest.reorder {s : State H σ ε} (rest : s.AtRest) (bus : Nat) (order : DispatchOrder) :
    (s.reorder bus order).AtRest := by
  unfold State.reorder
  split
  · rename_i b _
    refine ⟨?_, rest.closed, rest.free⟩
    intro k b' found
    rw [setBus, Table.get?_set] at found
    split_ifs at found with same
    · cases found
      exact same
    · exact rest.number found
  · exact rest

namespace Machine

/-- A machine comes to an end, in a state. -/
def Ends (p : Program H σ ε) (m : Machine H σ ε) (s : State H σ ε) : Prop :=
  ∃ n ending, run p n m = .ended s ending

variable {p : Program H σ ε} {c : Conduct H} {offers : Nat → Option (Offer H)}
  {occurs : Nat → Event → Prop} {m m' : Machine H σ ε} {owed : Multiset (Due H)} {w : Nat}
  {s s' : State H σ ε}

/-- A run that ends a step later ends. -/
lemma Ends.of_step (st : step p m = .going m') (h : Ends p m' s) : Ends p m s := by
  obtain ⟨n, ending, ends⟩ := h
  refine ⟨n + 1, ending, ?_⟩
  rw [run, st]
  exact ends

namespace Owing

/-- A machine that comes to an end has settled all that it owed. -/
theorem settled (h : Owing c offers occurs m owed w) (regular : Regular p c offers occurs)
    (ends : Ends p m s) :
    ∃ hs n, m.state.Shows s hs ∧ (settlement offers c).Unfolds owed hs n ∧
      Interleaves (lanes owed hs) (hs.filterMap Happening.invocation?) := by
  obtain ⟨n, ending, ends⟩ := ends
  induction n generalizing m owed w with
  | zero => cases ends
  | succ n ih =>
    have onward := h.step regular
    rw [run] at ends
    generalize Machine.step p m = next at onward ends
    cases onward with
    | ended none =>
      cases ends
      rw [none]
      exact ⟨[], 0, .of_eq rfl, .nil, .nil⟩
    | rests owing shows _ =>
      obtain ⟨hs, k, shows', unfolds, interleaves⟩ := ih owing ends
      exact ⟨hs, k, shows.trans shows', unfolds, interleaves⟩
    | settles split owing shows =>
      obtain ⟨hs, k, shows', unfolds, interleaves⟩ := ih owing ends
      rw [split]
      refine ⟨_, k + 1, shows.trans shows', ?_, interleaves_settle interleaves⟩
      rw [← Multiset.coe_add]
      exact .settle unfolds

/-- A machine comes to an end if all that it owes can be settled. -/
theorem ends {told : Multiset (Happening H)} {n : Nat} (h : Owing c offers occurs m owed w)
    (regular : Regular p c offers occurs)
    (unfolds : (settlement offers c).Unfolds owed told n) : ∃ s, Ends p m s := by
  -- Either fewer pieces are left, or the machine comes nearer to the next one: its stack loses
  -- weight, or a script goes on.
  induction n using Nat.strong_induction_on generalizing m owed w told with
  | h n fewer =>
    induction w using Nat.strong_induction_on generalizing m with
    | h w lighter =>
      generalize control : m.control = k
      induction k using Control.nearer_wf.induction generalizing m with
      | h k further =>
        have onward := h.step regular
        generalize next : Machine.step p m = progress at onward
        cases onward with
        | ended _ => exact ⟨m.state, 1, _, by rw [run, next]⟩
        | @rests m' _ owing _ nearer =>
          have ends : ∃ s, Ends p m' s := by
            obtain less | ⟨rfl, nearer⟩ := nearer
            · exact lighter _ less owing
            · rw [control] at nearer
              exact further _ nearer owing rfl
          exact ends.imp fun _ => .of_step next
        | @settles m' _ _ _ split owing _ =>
          obtain ⟨_, k, left, _, rfl⟩ := unfolds.settle_first split
          have ends : ∃ s, Ends p m' s := fewer k (Nat.lt_succ_self k) owing left
          exact ends.imp fun _ => .of_step next

end Owing

/-- The machine about to post one event. -/
def startPost (s : State H σ ε) (bus : Nat) (e : Event) : Machine H σ ε :=
  start s (.post bus e false (.finish (.ok ())))

/-- A machine that starts with a post owes that post. -/
lemma owing_startPost {bus : Nat} {e : Event} (rest : s.AtRest) (posted : occurs bus e) :
    Owing c s.offers occurs (startPost s bus e) {.post bus e} 1 where
  wellFormed := ⟨.nil, fun mem => absurd mem List.not_mem_nil, fun _ => rest.closed _⟩
  same := rfl
  number found := by
    obtain ⟨b, got, rfl⟩ := Option.map_eq_some_iff.1 found
    exact rest.number got
  free := rest.free
  expected d mem := by
    rw [Multiset.mem_singleton.1 mem]
    exact posted
  remains := by
    have runs : Remains c (startPost s bus e) (duePosts [(bus, e)] + 0) 1 :=
      .run rfl (.post .finish) .nil
    rw [add_zero] at runs
    exact runs

/-- Where handlers and reports answer to their arguments only, register nothing and never panic, the
posting of an event comes to an end whatever the orders are in which the dispatchers of the buses
drive events, or it never does. And in whatever order it is done, the same is done as many times. -/
theorem orders_agree {s s' : State H σ ε} (rest : s.AtRest) (rest' : s'.AtRest)
    (offers : s'.offers = s.offers) {occurs : Nat → Event → Prop}
    (regular : Regular p c s.offers occurs) {bus : Nat} {e : Event} (posted : occurs bus e) :
    ((∃ t, Ends p (startPost s bus e) t) ↔ ∃ t', Ends p (startPost s' bus e) t') ∧
      ∀ t t', Ends p (startPost s bus e) t → Ends p (startPost s' bus e) t' →
        Rearranged (t.since s) (t'.since s') := by
  have owing : Owing c s.offers occurs (startPost s bus e) {.post bus e} 1 :=
    owing_startPost rest posted
  have owing' : Owing c s.offers occurs (startPost s' bus e) {.post bus e} 1 :=
    offers ▸ owing_startPost rest' posted
  refine ⟨⟨?_, ?_⟩, ?_⟩
  · rintro ⟨t, ends⟩
    obtain ⟨hs, n, _, unfolds, _⟩ := owing.settled regular ends
    exact owing'.ends regular unfolds
  · rintro ⟨t, ends⟩
    obtain ⟨hs, n, _, unfolds, _⟩ := owing'.settled regular ends
    exact owing.ends regular unfolds
  · intro t t' ends ends'
    obtain ⟨hs, n, shows, unfolds, interleaves⟩ := owing.settled regular ends
    obtain ⟨hs', n', shows', unfolds', interleaves'⟩ := owing'.settled regular ends'
    have same : hs.Perm hs' := Multiset.coe_eq_coe.1 (unfolds'.unique unfolds).1
    exact .of_happenings shows.since_eq shows'.since_eq same interleaves interleaves'

namespace Alarm

def note (tag : String) : Event := .free ⟨"Note"⟩ "Note" tag [] []

def alarm : Event := .free ⟨"Alarm"⟩ "Alarm" "unheard" [] []

/-- A first note is answered with a second one and with an alarm, and with an error that is reported
in a third note. -/
def conduct : Conduct Unit where
  posts _ e :=
    match e with
    | .free _ _ "first" _ _ => [(1, note "second"), (1, alarm)]
    | _ => []
  result _ e :=
    match e with
    | .free _ _ "first" _ _ => .error (.ofMessage "no")
    | _ => .ok ()
  reports _ _ _ := [(1, note "third")]

def program : Program Unit Unit Unit := conduct.program

def desk : FailureDesk Unit := ⟨⟨1, "bus"⟩, .custom ()⟩

def subscriber (handler : String) (type : EventType) (intake : Intake) (serial : Nat) :
    Subscriber Unit :=
  ⟨⟨1, "Listener", "listener"⟩, handler, type, intake, false, .direct, (), desk, ⟨1, serial⟩⟩

/-- Two handlers of notes and one of dead events. -/
def registry : Registry Unit where
  lists := ⟨[
    (⟨"Note"⟩, [subscriber "on_note" ⟨"Note"⟩ .typed 0, subscriber "on_any" ⟨"Note"⟩ .whole 1]),
    (.deadEvent, [subscriber "on_dead" .deadEvent .typed 2])]⟩
  closures := .empty
  serial := 3
  executor := .direct
  desk := desk

/-- A bus on a queued dispatcher. -/
def queued : State Unit Unit Unit :=
  { State.initial .empty () with buses := ⟨[(1, ⟨⟨1, "bus"⟩, registry, .plain (.queued 0)⟩)]⟩ }

/-- The same bus on an immediate dispatcher. -/
def immediate : State Unit Unit Unit := queued.reorder 1 .immediate

/-- What becomes of the posting of a first note. -/
def outcome (s : State Unit Unit Unit) : Progress Unit Unit Unit :=
  run program 80 (startPost s 1 (note "first"))

def final (s : State Unit Unit Unit) : State Unit Unit Unit :=
  match outcome s with
  | .going m => m.state
  | .ended t _ => t
  | .stuck t => t

/-- The handlers that are called, in order. -/
def called (s : State Unit Unit Unit) : List String :=
  (invocationsOf ((final s).since s)).map (·.2.handler)

def events : List Event := [note "first", note "second", note "third", alarm]

/-- What is posted in answer to an event is one of the events. -/
lemma answers {e : Event} {x : Subscriber Unit} {q : Nat × Event} (mem : q ∈ conduct.answer e x) :
    q.1 = 1 ∧ q.2 ∈ events := by
  unfold Conduct.answer at mem
  split at mem
  · rename_i v _
    obtain mem | mem := List.mem_append.1 mem
    · unfold conduct at mem
      dsimp only at mem
      split at mem
      · simp only [List.mem_cons, List.not_mem_nil, or_false] at mem
        obtain rfl | rfl := mem <;> simp [events]
      · cases mem
    · unfold Conduct.aftermath at mem
      split at mem
      · cases mem
      · split at mem
        · cases mem
        · obtain rfl := List.mem_singleton.1 mem
          simp [events]
  · cases mem

/-- The program does what the conduct says. -/
lemma regular : Regular program conduct queued.offers
    fun bus e => bus = 1 ∧ e ∈ events where
  handle _ _ := Script.posts_ofPosts ..
  report _ _ _ := ⟨_, Script.posts_ofPosts ..⟩
  serves := by
    rintro bus e o next x ⟨rfl, mem⟩ found passed listed
    have seen : (events.all fun e => ((queued.offers 1).elim [] (·.passes e)).all fun next =>
        next.subscribers.all fun x => x.executor == .direct && (x.given next.event).isSome) =
      true := by cbv
    rw [found] at seen
    have seen := List.all_eq_true.1 (List.all_eq_true.1 (List.all_eq_true.1 seen e mem) next passed)
      x listed
    obtain ⟨direct, given⟩ := Bool.and_eq_true_iff.1 seen
    exact ⟨eq_of_beq direct, given, fun q mem => answers mem⟩

/-- Nothing is going on at first. -/
lemma atRest : queued.AtRest where
  number {bus b} found := by
    simp only [queued, Table.get?, Table.find] at found
    split_ifs at found with same
    cases found
    exact same
  closed _ := rfl
  free _ := rfl

def hasEnded : Progress Unit Unit Unit → Bool
  | .ended _ _ => true
  | _ => false

/-- A run that has come to its end ends. -/
lemma ends {s : State Unit Unit Unit} (ended : hasEnded (outcome s) = true) :
    Ends program (startPost s 1 (note "first")) (final s) := by
  unfold final
  generalize result : outcome s = r at ended ⊢
  cases r with
  | ended t ending => exact ⟨80, ending, result⟩
  | going m => cases ended
  | stuck t => cases ended

end Alarm

/-- With a queue the two handlers are done with the first note before anything else happens, without
one all that the first handler calls for comes in between; but twelve calls are made either way. -/
theorem alarm_orders_agree :
    Alarm.called Alarm.queued = ["on_note", "on_any", "on_note", "on_any", "on_dead", "on_note",
      "on_any", "on_note", "on_any", "on_dead", "on_note", "on_any"] ∧
    Alarm.called Alarm.immediate = ["on_note", "on_note", "on_any", "on_dead", "on_note", "on_any",
      "on_any", "on_note", "on_any", "on_dead", "on_note", "on_any"] ∧
    Rearranged ((Alarm.final Alarm.queued).since Alarm.queued)
      ((Alarm.final Alarm.immediate).since Alarm.immediate) := by
  refine ⟨by cbv, by cbv, ?_⟩
  have offers := Alarm.queued.offers_reorder Alarm.atRest.number 1 .immediate
  have agree := orders_agree Alarm.atRest (Alarm.atRest.reorder 1 .immediate) offers Alarm.regular
    (e := Alarm.note "first") ⟨rfl, List.mem_cons_self⟩
  exact agree.2 _ _ (Alarm.ends (by cbv)) (Alarm.ends (by cbv))

end Machine

end EventBus
