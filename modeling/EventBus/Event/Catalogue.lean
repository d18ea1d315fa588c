import EventBus.Event.Declaration

/-!
A catalogue of event types to try a bus with: accounts and orders that embed one another, an enum,
generic envelopes, markers, types that claim a supertype they do not embed, and the free-form
types K0 to K11, whose supertypes are declared from outside.

Every type has a short name; `Catalogue.lookup` finds it and `Catalogue.names` lists them all.
The functions named after a type build its values.
-/

namespace EventBus.Catalogue

/-- The path under which the types of the catalogue are printed. -/
def home (name : String) : EventType := ⟨"driver::types::" ++ name⟩

def applied (name : String) (argument : EventType) : EventType :=
  home (name ++ "<" ++ argument.name ++ ">")

def plain (name : String) (type : EventType) : Field := ⟨name, type, false⟩

def parent (name : String) (type : EventType) : Field := ⟨name, type, true⟩

def string : EventType := .text .owned

def auditable : Declaration := ⟨home "Auditable", "Auditable", .marker, []⟩

def billable : Declaration := ⟨home "Billable", "Billable", .marker, [auditable.type]⟩

def accountEventType : Declaration :=
  ⟨home "AccountEvent", "AccountEvent", .struct .named [plain "account" (.int .u64)], []⟩

def accountOpenedType : Declaration :=
  ⟨home "AccountOpened", "AccountOpened",
    .struct .named [parent "base" accountEventType.type, plain "owner" string],
    [auditable.type]⟩

def premiumAccountOpenedType : Declaration :=
  ⟨home "PremiumAccountOpened", "PremiumAccountOpened",
    .struct .named [parent "opened" accountOpenedType.type, plain "tier" (.int .u8)], []⟩

def impostorType : Declaration :=
  ⟨home "Impostor", "Impostor", .struct .bare [], [accountEventType.type]⟩

def fakeDeadType : Declaration :=
  ⟨home "FakeDead", "FakeDead", .struct .bare [], [.deadEvent]⟩

def omniType : Declaration :=
  ⟨home "Omni", "Omni", .struct .bare [], [.anyEvent, auditable.type, .anyEvent]⟩

def loopedType : Declaration :=
  ⟨home "Looped", "Looped", .struct .bare [], [home "Looped", auditable.type]⟩

def orderEventType : Declaration :=
  ⟨home "OrderEvent", "OrderEvent", .struct .named [plain "order" (.int .u64)], []⟩

def orderShippedType : Declaration :=
  ⟨home "OrderShipped", "OrderShipped",
    .struct .positional [parent "0" orderEventType.type, plain "1" string], [billable.type]⟩

def signalType : Declaration :=
  ⟨home "Signal", "Signal",
    .enum [⟨home "Signal", "Start", .bare, []⟩,
      ⟨home "Signal", "Stop", .named, [plain "code" (.int .i32)]⟩],
    [auditable.type, billable.type, accountEventType.type]⟩

def envelopeType (payload : EventType) : Declaration :=
  ⟨applied "Envelope" payload, "Envelope", .struct .named [plain "payload" payload], []⟩

def jointType : Declaration :=
  ⟨home "Joint", "Joint",
    .struct .named [parent "left" accountOpenedType.type, plain "memo" string,
      parent "right" orderShippedType.type, parent "again" accountEventType.type],
    [auditable.type]⟩

def twinType : Declaration :=
  ⟨home "Twin", "Twin",
    .struct .positional [parent "0" accountEventType.type, parent "1" accountEventType.type], []⟩

def namedType : Declaration :=
  ⟨home "Named", "Named", .struct .positional [plain "0" (.int .u8), parent "1" string], []⟩

def boxedType (inner : EventType) : Declaration :=
  ⟨applied "Boxed" inner, "Boxed", .struct .positional [parent "0" inner], []⟩

def freeCount : Nat := 12

def freeName (n : Nat) : String := "K" ++ Number.natText n

def freeType (n : Nat) : EventType := home ("K<" ++ Number.natText n ++ ">")

/-- The declared types by short name, markers last. -/
def declared : List (String × Declaration) :=
  [("AccountEvent", accountEventType), ("AccountOpened", accountOpenedType),
    ("PremiumAccountOpened", premiumAccountOpenedType), ("Impostor", impostorType),
    ("OrderEvent", orderEventType), ("OrderShipped", orderShippedType), ("Signal", signalType),
    ("Envelope<u8>", envelopeType (.int .u8)), ("Envelope<String>", envelopeType string),
    ("Joint", jointType), ("Twin", twinType), ("Named", namedType),
    ("Boxed<AccountOpened>", boxedType accountOpenedType.type),
    ("Boxed<Boxed<Named>>", boxedType (boxedType namedType.type).type),
    ("Boxed<Named>", boxedType namedType.type), ("FakeDead", fakeDeadType), ("Omni", omniType),
    ("Looped", loopedType)]

def markers : List (String × Declaration) :=
  [("Auditable", auditable), ("Billable", billable)]

def scalars : List (String × EventType) :=
  [("unit", .unit), ("bool", .bool), ("char", .char)] ++
    IntWidth.all.map (fun w => (w.name, .int w)) ++
    [("f32", .single), ("f64", .double), ("str", .text .borrowed), ("String", string),
      ("Cow", .text .either), ("Duration", .duration)]

def entries : List (String × EventType) :=
  scalars ++ [("DeadEvent", .deadEvent)] ++ declared.map (fun d => (d.1, d.2.type)) ++
    (List.range freeCount).map (fun n => (freeName n, freeType n)) ++
    [("AnyEvent", .anyEvent)] ++ markers.map (fun d => (d.1, d.2.type))

def names : List String := entries.map (·.1)

def lookup (name : String) : Option EventType := entries.lookup name

/-- Whether a type has no values: only its subtypes can be posted. -/
def isMarker (t : EventType) : Bool :=
  t == .anyEvent || markers.any (fun d => d.2.type == t)

/-- The supertypes that the catalogue itself declares. -/
def hierarchy : Hierarchy :=
  .ofDeclarations ((declared ++ markers).map (·.2))

/-- The path under which listener classes are printed. -/
def classHome : String := "driver::world::"

def className (label : String) : String := classHome ++ label

def classLabel (name : String) : String :=
  String.ofList (name.toList.drop classHome.length)

/-! ### Values -/

def whole (width : IntWidth) (n : Int) : Event := .scalar (.int width n)

def owned (s : String) : Event := .scalar (.text .owned s)

def accountEvent (account : Int) : Event :=
  accountEventType.value [whole .u64 account]

def accountOpened (base : Event) (owner : String) : Event :=
  accountOpenedType.value [base, owned owner]

def premiumAccountOpened (opened : Event) (tier : Int) : Event :=
  premiumAccountOpenedType.value [opened, whole .u8 tier]

def impostor : Event := impostorType.value []

def fakeDead : Event := fakeDeadType.value []

def omni : Event := omniType.value []

def looped : Event := loopedType.value []

def orderEvent (order : Int) : Event := orderEventType.value [whole .u64 order]

def orderShipped (base : Event) (dock : String) : Event :=
  orderShippedType.value [base, owned dock]

def signalStart : Event := signalType.variantValue 0 []

def signalStop (code : Int) : Event := signalType.variantValue 1 [whole .i32 code]

def envelope (payload : Scalar) : Event :=
  (envelopeType payload.type).value [.scalar payload]

def joint (left : Event) (memo : String) (right again : Event) : Event :=
  jointType.value [left, owned memo, right, again]

def twin (a b : Event) : Event := twinType.value [a, b]

def named (n : Int) (name : String) : Event := namedType.value [whole .u8 n, owned name]

def boxed (inner : Event) : Event := (boxedType inner.type).value [inner]

def free (n : Nat) (tag : String) (views : List Event) (aliases : List (EventType × Event)) :
    Event :=
  .free (freeType n) (freeName n) tag views aliases

end EventBus.Catalogue
