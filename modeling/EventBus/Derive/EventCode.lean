import EventBus.Derive.Item
import EventBus.Event.Basic

/-!
The code derived for an event type.

`EventCode.derive` reads the `event` attributes of an item: `implements(..)` on the item lists
types it counts as, `parent` on a field of a struct says that the field embeds an event.  The code
it makes declares the supertypes and finds views: a parent field of the wanted type first, then
whatever view a parent field has.  The first mistake ends the reading.

`EventCode.tokens` writes the code; `EventCode.supertypeList` and `EventCode.view` say what the
code computes.
-/

namespace EventBus.Derive

/-- A field that embeds an event. -/
structure Parent where
  member : Member
  type : TypeExpr
deriving Repr

/-- Why no code can be derived for an event type, and which key or variant is to blame. -/
inductive EventMistake where
  | misreading (m : Misreading)
  | unknownItemKey (key : Path)
  | unknownFieldKey (key : Path)
  | parentInEnum (variant : String)
  | union
deriving DecidableEq, Repr

def EventMistake.message : EventMistake → String
  | .misreading m => m.message
  | .unknownItemKey _ => "unsupported event attribute, expected `implements(..)`"
  | .unknownFieldKey _ => "unsupported field attribute, expected `parent`"
  | .parentInEnum _ => "#[event(parent)] is only supported on struct fields"
  | .union => "Event cannot be derived for unions"

def orMisread {α : Type} (r : Except Misreading α) : Except EventMistake α :=
  r.mapError .misreading

/-! ### Reading attributes -/

/-- The types in the keys of one `event` attribute of an item, and the brackets of the first group
in which something is left.  The piece after a final comma is no key. -/
def readImplements : List (List Tree) → Except EventMistake (List TypeExpr × Option Bracket)
  | [] | [[]] => .ok ([], none)
  | piece :: rest => do
    let key ← orMisread (Key.ofPiece rest.isEmpty piece)
    if key.path.isName "implements" then
      let (types, left) ← orMisread key.types
      let (more, leftLater) ← readImplements rest
      return (types ++ more, left.or leftLater)
    else .error (.unknownItemKey key.path)

def checkLeft : Option Bracket → Except EventMistake Unit
  | none => .ok ()
  | some b => .error (.misreading (.leftover b))

def implemented : List Attribute → Except EventMistake (List TypeExpr)
  | [] => .ok []
  | a :: rest => do
    let pieces ← orMisread a.keyPieces
    let (types, left) ← readImplements pieces
    checkLeft left
    let more ← implemented rest
    return types ++ more

/-- The keys of one `event` attribute of a field all say `parent`; tells if there is one. -/
def readParent : List (List Tree) → Except EventMistake Bool
  | [] | [[]] => .ok false
  | piece :: rest => do
    let key ← orMisread (Key.ofPiece rest.isEmpty piece)
    if key.path.isName "parent" then
      orMisread key.bare
      -- The other keys are judged as well.
      let _ ← readParent rest
      return true
    else .error (.unknownFieldKey key.path)

/-- The `event` attributes of a field; tells if one of them says `parent`. -/
def marksParent : List Attribute → Except EventMistake Bool
  | [] => .ok false
  | a :: rest => do
    let pieces ← orMisread a.keyPieces
    let here ← readParent pieces
    let later ← marksParent rest
    return here || later

def parentsAmong : List (Member × Field) → Except EventMistake (List Parent)
  | [] => .ok []
  | (member, field) :: rest => do
    let marked ← marksParent (Attribute.named "event" field.attributes)
    let parents ← parentsAmong rest
    return if marked then ⟨member, field.type⟩ :: parents else parents

def checkVariants : List Variant → Except EventMistake Unit
  | [] => .ok ()
  | v :: rest => do
    let parents ← parentsAmong v.fields.members
    if parents.isEmpty then checkVariants rest
    else .error (.parentInEnum v.name)

def Body.parents : Body → Except EventMistake (List Parent)
  | .struct fields => parentsAmong fields.members
  | .enum variants => do
    checkVariants variants
    return []
  | .union _ => .error .union

/-! ### The code -/

/-- The body of a `view` function: for each arm of `direct` the member is returned if its type is
the wanted one, then for each of `nested` the view of the member, if it has one. -/
structure ViewCode where
  direct : List Parent
  nested : List Member
deriving Repr

/-- The code derived for an event type.  Without a `view` function there are no views. -/
structure EventCode where
  header : Header
  supertypes : List TypeExpr
  viewCode : Option ViewCode
deriving Repr

namespace EventCode

/-- The code for a type with the given parent fields that counts as the given types. -/
def ofParents (header : Header) (parents : List Parent) (types : List TypeExpr) : EventCode where
  header := header
  supertypes := parents.map (·.type) ++ types
  viewCode := if parents.isEmpty then none else some ⟨parents, parents.map (·.member)⟩

def derive (item : Item) : Except EventMistake EventCode := do
  let types ← implemented (Attribute.named "event" item.attributes)
  let parents ← item.body.parents
  return ofParents item.toHeader parents types

/-! ### What the code computes -/

/-- The supertypes that the code declares; `typeOf` is what type an expression stands for. -/
def supertypeList (code : EventCode) (typeOf : TypeExpr → EventType) : List EventType :=
  code.supertypes.map typeOf

/-- The view of `t` that the code finds in a value with the given members. -/
def view (code : EventCode) (typeOf : TypeExpr → EventType) (members : Member → Event)
    (t : EventType) : Option Event :=
  match code.viewCode with
  | none => none
  | some body =>
    match body.direct.find? fun p => typeOf p.type == t with
    | some p => some (members p.member)
    | none => body.nested.findSome? fun m => (members m).view t

/-! ### The code as tokens -/

def typeCall (start : String) (t : TypeExpr) : List Token :=
  Token.read start ++ Token.inAngles t.tokens ++ Token.read "()"

def returnSome (value : List Token) : List Token :=
  Token.read "return ::std::option::Option::Some" ++ Token.inParens value ++ [.mark ';']

def borrowed (m : Member) : List Token :=
  Token.read "&self." ++ m.tokens

def directTokens (p : Parent) : List Token :=
  Token.read "if ty ==" ++ typeCall "::std::any::TypeId::of::" p.type ++
    Token.inBraces (returnSome (borrowed p.member))

def nestedTokens (m : Member) : List Token :=
  Token.read "if let ::std::option::Option::Some(view) = ::herald_event_bus::Event::view" ++
    Token.inParens (borrowed m ++ Token.read ", ty") ++
    Token.inBraces (returnSome [.word "view"])

def viewTokens (body : ViewCode) : List Token :=
  Token.read "fn view(&self, ty: ::std::any::TypeId)" ++
    Token.read "-> ::std::option::Option<&dyn ::std::any::Any>" ++
    Token.inBraces
      (body.direct.flatMap directTokens ++ body.nested.flatMap nestedTokens ++
        Token.read "::std::option::Option::None")

def supertypeTokens (types : List TypeExpr) : List Token :=
  Token.read "fn supertypes() -> ::std::vec::Vec<::herald_event_bus::EventType>" ++
    Token.inBraces
      (Token.read "::std::vec!" ++
        Token.inBrackets
          (Token.commas (types.map (typeCall "::herald_event_bus::EventType::of::"))))

/-- The derived code as tokens: the kind with its supertypes, then the event with its views. -/
def tokens (code : EventCode) : List Token :=
  let derived := Token.read "#[automatically_derived]"
  derived ++
    code.header.implementation (Token.read "::herald_event_bus::EventKind")
      (supertypeTokens code.supertypes) ++
    derived ++
    code.header.implementation (Token.read "::herald_event_bus::Event")
      ((code.viewCode.map viewTokens).getD [])

end EventCode

end EventBus.Derive
