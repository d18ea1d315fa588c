import EventBus.Derive.Lexer

/-!
Paths, type expressions and generic parameters as they are written in items.

A type that is a path keeps its structure, and so do references, arrays, slices and tuples; any
other type, such as a function type, is the tokens it is written with.  The main question asked of
a type is `TypeExpr.isContext`: if it has the shape of the context of an error.
-/

namespace EventBus.Derive

/-- A path such as `a::b`; a leading one starts with `::`. -/
structure Path where
  leading : Bool
  segments : List String
deriving DecidableEq, Repr

namespace Path

def name (n : String) : Path := ⟨false, [n]⟩

def isName (p : Path) (n : String) : Bool :=
  p == name n

def last? (p : Path) : Option String :=
  p.segments.getLast?

def text (p : Path) : String :=
  (if p.leading then "::" else "") ++ "::".intercalate p.segments

def separator : List Token := [.mark ':', .mark ':']

/-- Parts with the sign of paths between each two, and one in front if `leading`. -/
def joined (leading : Bool) (parts : List (List Token)) : List Token :=
  (if leading then separator else []) ++ separator.intercalate parts

def tokens (p : Path) : List Token :=
  joined p.leading (p.segments.map fun s => [.word s])

end Path

mutual

/-- A type expression. -/
inductive TypeExpr where
  | named (leading : Bool) (segments : List Segment)
  /-- A type that belongs to another one, such as `<T as Tr>::Out`; the owner is written with its
  angle brackets. -/
  | owned (owner : List Token) (segments : List Segment)
  | ref (lifetime : Option String) (mutable : Bool) (target : TypeExpr)
  | array (item : TypeExpr) (length : List Token)
  | slice (item : TypeExpr)
  | tuple (items : List TypeExpr) (trailing : Bool)
  | other (written : List Token)
deriving Repr

/-- A part of the path of a named type. -/
inductive Segment where
  | plain (name : String)
  /-- With arguments in angle brackets; `::` stands before them if `detached`, and a comma follows
  the last one if `trailing`. -/
  | applied (name : String) (detached : Bool) (arguments : List Argument) (trailing : Bool)
  /-- With arguments in parentheses and maybe a result, as they are written. -/
  | called (name : String) (signature : List Token)
deriving Repr

/-- A generic argument. -/
inductive Argument where
  | lifetime (name : String)
  | type (type : TypeExpr)
  /-- A constant, or the value or the bounds of an associated type, as they are written. -/
  | other (written : List Token)
deriving Repr

end

namespace Segment

def name : Segment → String
  | plain n | applied n _ _ _ | called n _ => n

def arguments : Segment → List Argument
  | applied _ _ as _ => as
  | _ => []

end Segment

namespace TypeExpr

mutual

def tokens : TypeExpr → List Token
  | named leading segments => Path.joined leading (segmentTokens segments)
  | owned owner segments => owner ++ Path.joined true (segmentTokens segments)
  | ref lifetime mutable target =>
    .mark '&' :: (lifetime.map Token.lifetime).toList ++
      (if mutable then [.word "mut"] else []) ++ target.tokens
  | array item length => Token.inBrackets (item.tokens ++ .mark ';' :: length)
  | slice item => Token.inBrackets item.tokens
  | tuple items trailing =>
    Token.inParens (Token.commas (listTokens items) ++ Token.finalComma trailing)
  | other written => written

def segmentTokens : List Segment → List (List Token)
  | [] => []
  | .plain name :: rest => [.word name] :: segmentTokens rest
  | .applied name detached arguments trailing :: rest =>
    (.word name :: (if detached then Path.separator else []) ++
        Token.inAngles (Token.lifetimesFirst (argumentTokens arguments) trailing)) ::
      segmentTokens rest
  | .called name signature :: rest => (.word name :: signature) :: segmentTokens rest

def argumentTokens : List Argument → List (Bool × List Token)
  | [] => []
  | .lifetime name :: rest => (true, [.lifetime name]) :: argumentTokens rest
  | .type t :: rest => (false, t.tokens) :: argumentTokens rest
  | .other written :: rest => (false, written) :: argumentTokens rest

def listTokens : List TypeExpr → List (List Token)
  | [] => []
  | t :: ts => t.tokens :: listTokens ts

end

def lastSegment? : TypeExpr → Option Segment
  | named _ segments | owned _ segments => segments.getLast?
  | _ => none

def argumentsOf? (name : String) (t : TypeExpr) : Option (List Argument) :=
  match t.lastSegment? with
  | some s => if s.name == name then some s.arguments else none
  | none => none

/-- A type of the shape `Cow<'static, str>`; more arguments may follow. -/
def isStaticText (t : TypeExpr) : Bool :=
  match t.argumentsOf? "Cow" with
  | some (.lifetime "static" :: .type text :: _) =>
    text.lastSegment?.any (·.name == "str")
  | _ => false

/-- A type of the shape `Option<Cow<'static, str>>`, by the last segment of each path; more
arguments may follow. -/
def isContext (t : TypeExpr) : Bool :=
  match t.argumentsOf? "Option" with
  | some (.type text :: _) => text.isStaticText
  | _ => false

end TypeExpr

/-! ### Generic parameters -/

/-- A generic parameter. -/
inductive GenericParam where
  | lifetime (name : String) (bounds : List Token)
  | const (name : String) (type : TypeExpr) (default : Option (List Token))
  | type (name : String) (bounds : List Token) (default : Option TypeExpr)
deriving Repr

namespace GenericParam

def isLifetime : GenericParam → Bool
  | lifetime _ _ => true
  | _ => false

def boundTokens (bounds : List Token) : List Token :=
  if bounds.isEmpty then [] else .mark ':' :: bounds

def defaultTokens : Option (List Token) → List Token
  | none => []
  | some ts => .mark '=' :: ts

def use : GenericParam → List Token
  | lifetime n _ => [.lifetime n]
  | const n _ _ | type n _ _ => [.word n]

def bounded : GenericParam → List Token
  | lifetime n bounds => .lifetime n :: boundTokens bounds
  | const n t _ => .word "const" :: .word n :: .mark ':' :: t.tokens
  | type n bounds _ => .word n :: boundTokens bounds

def declared : GenericParam → List Token
  | lifetime n bounds => bounded (lifetime n bounds)
  | const n t d => bounded (const n t d) ++ defaultTokens d
  | type n bounds d => bounded (type n bounds d) ++ defaultTokens (d.map TypeExpr.tokens)

end GenericParam

/-- A list of generic parameters; a comma follows the last one if `trailing`. -/
structure Generics where
  params : List GenericParam
  trailing : Bool
deriving Repr

namespace Generics

/-- The list in angle brackets, each parameter written by `write`; nothing without parameters. -/
def listed (write : GenericParam → List Token) (g : Generics) : List Token :=
  if g.params.isEmpty then []
  else
    Token.inAngles
      (Token.lifetimesFirst (g.params.map fun p => (p.isLifetime, write p)) g.trailing)

end Generics

end EventBus.Derive
