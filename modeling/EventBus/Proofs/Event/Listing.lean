import Mathlib
import EventBus.Derive.EventCode

/-!
# What the code of an event says

The code derived for an event type is a list of tokens. An `EventListing` is what is to be read in
them: the types that `supertypes` lists and the statements that `view` runs, one after the other.
`EventListing.text` writes a listing as code, and `EventListing.viewOf` runs its statements.
`tokens_eq_text` says that the derived tokens are the text of a listing, with a lemma for each piece
of them; `viewOf_listing` says that its statements find the views that the code is said to find.
-/

namespace EventBus.Derive

/-- A statement of `view`. -/
inductive Statement where
  /-- Return the field if the wanted type is the given one. -/
  | returnMember (type : TypeExpr) (member : Member)
  /-- Return the view that the field has of the wanted type, if it has one. -/
  | returnViewOf (member : Member)

/-- The code of an event as it reads. -/
structure EventListing where
  header : Header
  supertypes : List TypeExpr
  view : Option (List Statement)

namespace Statement

/-- A field by its name, or by its place. -/
def memberText : Member → List Token
  | .named name => [.word name]
  | .index place => [.literal (toString place)]

/-- `if ty == TypeId::of::<type>() { return Some(&self.member); }`, or
`if let Some(view) = Event::view(&self.member, ty) { return Some(view); }`. -/
def text : Statement → List Token
  | returnMember type member =>
    Token.read "if ty ==" ++ Token.read "::std::any::TypeId::of::" ++ Token.inAngles type.tokens ++
      Token.read "()" ++
      Token.inBraces
        (Token.read "return ::std::option::Option::Some" ++
          Token.inParens (Token.read "&self." ++ memberText member) ++ [.mark ';'])
  | returnViewOf member =>
    Token.read "if let ::std::option::Option::Some(view) = ::herald_event_bus::Event::view" ++
      Token.inParens (Token.read "&self." ++ memberText member ++ Token.read ", ty") ++
      Token.inBraces
        (Token.read "return ::std::option::Option::Some" ++ Token.inParens [.word "view"] ++
          [.mark ';'])

/-- What the statement returns for a value with the given members, unless the next one is run. -/
def returns (typeOf : TypeExpr → EventType) (members : Member → Event) (t : EventType) :
    Statement → Option Event
  | returnMember type member => if typeOf type = t then some (members member) else none
  | returnViewOf member => (members member).view t

end Statement

namespace EventListing

/-! ### Listings as code -/

def supertypesText (types : List TypeExpr) : List Token :=
  Token.read "fn supertypes() -> ::std::vec::Vec<::herald_event_bus::EventType>" ++
    Token.inBraces
      (Token.read "::std::vec!" ++
        Token.inBrackets
          (Token.commas (types.map fun t =>
            Token.read "::herald_event_bus::EventType::of::" ++ Token.inAngles t.tokens ++
              Token.read "()")))

def viewText (statements : List Statement) : List Token :=
  Token.read "fn view(&self, ty: ::std::any::TypeId)" ++
    Token.read "-> ::std::option::Option<&dyn ::std::any::Any>" ++
    Token.inBraces
      (statements.flatMap Statement.text ++ Token.read "::std::option::Option::None")

/-- The implementation of a trait for the item with the given header. -/
def implText (h : Header) (trait : String) (body : List Token) : List Token :=
  Token.read "#[automatically_derived]" ++ [.word "impl"] ++
    h.generics.listed GenericParam.bounded ++ Token.read trait ++ [.word "for", .word h.name] ++
    h.generics.listed GenericParam.use ++ h.whereTokens ++ Token.inBraces body

def text (l : EventListing) : List Token :=
  implText l.header "::herald_event_bus::EventKind" (supertypesText l.supertypes) ++
    implText l.header "::herald_event_bus::Event" ((l.view.map viewText).getD [])

/-! ### What listings do -/

def supertypeList (l : EventListing) (typeOf : TypeExpr → EventType) : List EventType :=
  l.supertypes.map typeOf

def statements (l : EventListing) : List Statement := l.view.getD []

/-- What the first statement returns that does. -/
def viewOf (l : EventListing) (typeOf : TypeExpr → EventType) (members : Member → Event)
    (t : EventType) : Option Event :=
  l.statements.findSome? (Statement.returns typeOf members t)

end EventListing

namespace EventCode

variable {code : EventCode}

def statementsOf (body : ViewCode) : List Statement :=
  body.direct.map (fun p => .returnMember p.type p.member) ++ body.nested.map .returnViewOf

/-- What is to be read in the code. -/
def listing (code : EventCode) : EventListing where
  header := code.header
  supertypes := code.supertypes
  view := code.viewCode.map statementsOf

/-! ### The tokens of each piece -/

/-- What is borrowed is the member itself. -/
lemma borrowed_eq (m : Member) : borrowed m = Token.read "&self." ++ Statement.memberText m := by
  cases m with
  | named name => rfl
  | index place => rfl

/-- The first kind of arm returns a field. -/
lemma directTokens_eq (p : Parent) :
    directTokens p = (Statement.returnMember p.type p.member).text := by
  simp only [Statement.text, directTokens, typeCall, returnSome, borrowed_eq, List.append_assoc]

/-- `if ty == ::std::any::TypeId::of::<Base>() { return ::std::option::Option::Some(&self.1); }`. -/
example : directTokens ⟨.index 1, .named false [.plain "Base"]⟩ =
    [.word "if", .word "ty", .mark '=', .mark '=',
      .mark ':', .mark ':', .word "std", .mark ':', .mark ':', .word "any",
      .mark ':', .mark ':', .word "TypeId", .mark ':', .mark ':', .word "of",
      .mark ':', .mark ':', .mark '<', .word "Base", .mark '>', .mark '(', .mark ')',
      .mark '\x7b', .word "return",
      .mark ':', .mark ':', .word "std", .mark ':', .mark ':', .word "option",
      .mark ':', .mark ':', .word "Option", .mark ':', .mark ':', .word "Some",
      .mark '(', .mark '&', .word "self", .mark '.', .literal "1", .mark ')', .mark ';',
      .mark '\x7d'] := by decide +kernel

/-- The second kind of arm returns the view of a field. -/
lemma nestedTokens_eq (m : Member) : nestedTokens m = (Statement.returnViewOf m).text := by
  simp only [Statement.text, nestedTokens, returnSome, borrowed_eq, List.append_assoc]

/-- The function `view` has the arms as its statements. -/
lemma viewTokens_eq (body : ViewCode) :
    viewTokens body = EventListing.viewText (statementsOf body) := by
  have statements : (statementsOf body).flatMap Statement.text =
      body.direct.flatMap directTokens ++ body.nested.flatMap nestedTokens := by
    rw [statementsOf, List.flatMap_append, List.flatMap_map, List.flatMap_map,
      funext directTokens_eq, funext nestedTokens_eq]
  rw [viewTokens, EventListing.viewText, statements]

/-- The function `supertypes` lists the types that are declared. -/
lemma supertypeTokens_eq (types : List TypeExpr) :
    supertypeTokens types = EventListing.supertypesText types := by
  rw [supertypeTokens, EventListing.supertypesText, ← funext (typeCall.eq_1 _)]

/-- An implementation says for which item it is. -/
lemma implementation_eq (h : Header) (trait : String) (body : List Token) :
    Token.read "#[automatically_derived]" ++ h.implementation (Token.read trait) body =
      EventListing.implText h trait body := by
  simp only [EventListing.implText, Header.implementation, List.append_assoc, List.cons_append,
    List.nil_append]

/-- The derived tokens are the text of what is to be read in them. -/
theorem tokens_eq_text : code.tokens = code.listing.text := by
  have view : code.listing.view.map EventListing.viewText = code.viewCode.map viewTokens := by
    rw [listing, Option.map_map, funext viewTokens_eq]
    rfl
  rw [EventListing.text, view, ← implementation_eq, ← implementation_eq, listing,
    ← supertypeTokens_eq, tokens]
  simp only [List.append_assoc]

/-! ### What the statements do -/

/-- The listing declares the supertypes that the code is said to declare. -/
lemma supertypeList_listing (typeOf : TypeExpr → EventType) :
    code.listing.supertypeList typeOf = code.supertypeList typeOf := rfl

/-- Of the statements that return a field, the first one for the wanted type returns its field. -/
lemma findSome?_direct {typeOf : TypeExpr → EventType} {members : Member → Event} {t : EventType}
    (ps : List Parent) :
    (ps.map fun p => .returnMember p.type p.member).findSome? (Statement.returns typeOf members t) =
      (ps.find? fun p => typeOf p.type == t).map fun p => members p.member := by
  induction ps with
  | nil => rfl
  | cons p ps ih =>
    rw [List.map_cons, List.findSome?_cons, List.find?_cons, ih, Statement.returns]
    by_cases wanted : typeOf p.type = t
    · rw [if_pos wanted, beq_iff_eq.2 wanted]
      rfl
    · rw [if_neg wanted, beq_eq_false_iff_ne.2 wanted]

/-- The statements of the code find its views. -/
theorem viewOf_listing (typeOf : TypeExpr → EventType) (members : Member → Event) (t : EventType) :
    code.listing.viewOf typeOf members t = code.view typeOf members t := by
  rw [EventListing.viewOf, EventListing.statements, listing, view]
  cases code.viewCode with
  | none => rfl
  | some body =>
    rw [Option.map_some, Option.getD_some, statementsOf, List.findSome?_append, findSome?_direct,
      List.findSome?_map]
    dsimp only
    -- Either a field is returned, or the fields are asked for views.
    cases body.direct.find? fun p => typeOf p.type == t with
    | none => rfl
    | some p => rfl

end EventCode

end EventBus.Derive
