import EventBus.Derive.Expression

/-!
Attributes of items, and the keys in their parentheses.

An attribute has a path and maybe a value or arguments.  Arguments are kept as the pieces between
their commas, and a piece is trees that mean something only to whom they are for.  A reader that
wants keys takes the pieces one by one: `Attribute.pieces` gives them if there are any brackets,
`Key.ofPiece` the path that a piece begins with and what follows it.
-/

namespace EventBus.Derive

/-- An attribute. -/
inductive Attribute where
  | word (path : Path)
  | value (path : Path) (value : List Token)
  /-- `path(a, b)`, with brackets of any kind; a final comma is followed by an empty piece. -/
  | list (path : Path) (bracket : Bracket) (pieces : List (List Tree))
deriving Repr

namespace Attribute

def tokens : Attribute → List Token
  | word path => path.tokens
  | value path ts => path.tokens ++ .mark '=' :: ts
  | list path bracket pieces => path.tokens ++ bracket.around (Tree.pieceTokens pieces)

def outer (as : List Attribute) : List Token :=
  as.flatMap fun a => .mark '#' :: Token.inBrackets a.tokens

def path : Attribute → Path
  | word p | value p _ | list p _ _ => p

def isNamed (n : String) (a : Attribute) : Bool :=
  a.path.isName n

def named (n : String) (as : List Attribute) : List Attribute :=
  as.filter (isNamed n)

end Attribute

/-! ### Reading attributes -/

namespace Reader

/-- The names that follow, each after `::`; keywords are names here. -/
def moreNames : Nat → Reader (List String)
  | 0 => return []
  | fuel + 1 => do
    if (← sign? "::").isEmpty then return []
    else
      let n ← ident
      return n :: (← moreNames fuel)

def keyPath : Reader Path := do
  let leading ← sign? "::"
  match ← rest with
  | .word _ :: _ => pure ()
  | [] => missing [.nestedAttribute]
  | _ => throw (if ← seesLiteral then .literalForKey else .tokenForKey)
  let first ← ident
  return ⟨!leading.isEmpty, first :: (← moreNames (← rest).length)⟩

def attributeInside : Reader Attribute := do
  let p ← keyPath
  match ← rest with
  | .group b body :: ts =>
    goOn ts
    return .list p b (Tree.commaPieces body)
  | _ =>
    if ← sees "=" then
      let _ ← sign "="
      return .value p (← value)
    else return .word p

def attributesOuter : Nat → Reader (List Attribute)
  | 0 => return []
  | fuel + 1 => do
    match ← rest with
    | .mark '#' _ :: .group .square body :: ts =>
      goOn (.group .square body :: ts)
      let a ← inside .square attributeInside
      return a :: (← attributesOuter fuel)
    | _ => return []

def attributes : Reader (List Attribute) := do
  attributesOuter (← rest).length

def typesInside : Reader (List TypeExpr) := do
  let n ← Nested.ofRest
  return (← inside .round (list (n.type true) atEnd)).1

end Reader

/-! ### Reading arguments -/

/-- A key among the arguments of an attribute. -/
structure Key where
  path : Path
  payload : List Tree
  last : Bool
deriving Repr

/-- The mistake when a comma may follow what was read: it is at the end only if none does. -/
def Misreading.before (last : Bool) : Misreading → Misreading
  | .missing wanted atEnd =>
    if atEnd && !last then
      if wanted == [.nestedAttribute] then .tokenForKey else .missing wanted false
    else .missing wanted atEnd
  | m => m

def Misreading.commaMissing : Misreading := .missing [.sign ","] false

namespace Key

/-- The key that a piece consists of; `last` tells if no comma follows it. -/
def ofPiece (last : Bool) (piece : List Tree) : Except Misreading Key :=
  match Reader.run Reader.keyPath piece with
  | .ok (p, s) => .ok ⟨p, s.rest, last⟩
  | .error m => .error (m.before last)

def bare (k : Key) : Except Misreading Unit :=
  if k.payload.isEmpty then .ok () else .error .commaMissing

/-- The key has types in parentheses and nothing else: the types, and the brackets of the first
group in which something is left. -/
def types (k : Key) : Except Misreading (List TypeExpr × Option Bracket) :=
  match Reader.run Reader.typesInside k.payload with
  | .ok (ts, s) => if s.rest.isEmpty then .ok (ts, s.leftover) else .error .commaMissing
  | .error m => .error (if k.payload.isEmpty then m.before k.last else m)

end Key

namespace Attribute

def keyPieces : Attribute → Except Misreading (List (List Tree))
  | list _ _ pieces => .ok pieces
  | value p _ => .error (.valueGiven p)
  | word p => .error (.argumentsMissing p)

end Attribute

end EventBus.Derive
