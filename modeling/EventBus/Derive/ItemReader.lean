import EventBus.Derive.Item

/-!
Reading items: `Item.ofText?` gives the item that a text is the code of.
-/

namespace EventBus.Derive

/-- The kinds of items. -/
inductive ItemKind where
  | struct
  | enum
  | union
deriving DecidableEq, Repr

namespace ItemKind

def ofKeyword? : String → Option ItemKind
  | "struct" => some struct
  | "enum" => some enum
  | "union" => some union
  | _ => none

def wanted : List Wanted := ["struct", "enum", "union"].map .sign

end ItemKind

namespace Reader

def isRestriction : List Tree → Bool
  | [.word w] => w == "crate" || w == "self" || w == "super"
  | .word w :: _ => w == "in"
  | _ => false

def visibility : Reader (List Token) := do
  match ← word? "pub" with
  | [] => return []
  | start =>
    match ← rest with
    | .group .round body :: ts =>
      if isRestriction body then
        goOn ts
        return start ++ Token.inParens (Tree.listTokens body)
      else return start
    | _ => return start

def field : Reader Field := do
  let as ← attributes
  let v ← visibility
  return ⟨as, v, ← type⟩

def namedField : Reader NamedField := do
  let as ← attributes
  let v ← visibility
  let n ← if ← seesWord "_" then ident else name
  let _ ← sign ":"
  return ⟨⟨as, v, ← type⟩, n⟩

def namedFields : Reader (List NamedField) :=
  return (← inside .curly (list namedField atEnd)).1

def positionalFields : Reader (List Field) :=
  return (← inside .round (list field atEnd)).1

def variantFields : Reader Fields := do
  if ← seesGroup .curly then return .named (← namedFields)
  else if ← seesGroup .round then return .positional (← positionalFields)
  else return .unit

def discriminant : Reader (List Token) := do
  match ← sign? "=" with
  | [] => return []
  | equals => return equals ++ (← expression)

def variant : Reader Variant := do
  let as ← attributes
  let _ ← visibility
  let n ← name
  let fields ← variantFields
  return ⟨as, n, fields, ← discriminant⟩

def generics : Reader Generics := do
  if ← sees "<" then (← Nested.ofRest).params else return ⟨[], false⟩

def condition : Reader (List Token) := do
  match ← lifetime? with
  | some l =>
    let colon ← sign ":"
    return .lifetime l :: colon ++ (← Nested.lifetimeBounds ((← rest).length + 1))
  | none =>
    let n ← Nested.ofRest
    let binder ← n.binder
    let t ← n.type true
    let colon ← sign ":"
    return binder ++ t.tokens ++ colon ++ (← n.bounds)

def conditions : Reader (List Token) := do
  match ← word? "where" with
  | [] => return []
  | _ =>
    let (cs, trailing) ← list condition (do return (← seesGroup .curly) || (← sees ";"))
    return Token.commas cs ++ Token.finalComma trailing

/-- An item after its attributes, its visibility and the word for its kind. -/
def itemOf (as : List Attribute) (v : List Token) (kind : ItemKind) : Reader Item := do
  let n ← name
  let g ← generics
  let before ← conditions
  let header (after : List Token) : Header := ⟨as, v, n, g, before ++ after⟩
  match kind with
  | .enum => return ⟨header [], .enum (← inside .curly (list variant atEnd)).1⟩
  | .union => return ⟨header [], .union (← namedFields)⟩
  | .struct =>
    if ← seesGroup .curly then return ⟨header [], .struct (.named (← namedFields))⟩
    else if ← seesGroup .round then
      let fields ← positionalFields
      let after ← conditions
      let _ ← sign ";"
      return ⟨header after, .struct (.positional fields)⟩
    else
      let _ ← sign ";"
      return ⟨header [], .struct .unit⟩

def itemKind : Reader ItemKind := do
  match ← rest with
  | .word w :: ts =>
    match ItemKind.ofKeyword? w with
    | some kind => goOn ts; return kind
    | none => missing ItemKind.wanted
  | _ => missing ItemKind.wanted

def item : Reader Item := do
  let as ← attributes
  let v ← visibility
  itemOf as v (← itemKind)

end Reader

def Item.ofText? (s : String) : Option Item :=
  (Tree.ofText? s).bind (Reader.whole? Reader.item)

end EventBus.Derive
