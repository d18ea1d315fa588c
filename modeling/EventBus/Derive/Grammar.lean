import EventBus.Derive.Reader

/-!
The grammar of types, bounds, generic parameters and expressions.

What is read is written again as it stood, but for three habits of the printer: generic arguments
and parameters have their lifetimes in front, the sign `::` is dropped before arguments in
parentheses, and a chain of places such as `x.0.1` has every place as a number of its own.

Types, bounds and expressions nest in each other.  `Nested` holds readers for what is inside; each
reader here is written for given readers of its inside, and `Nested.upTo` ties the knot for any
depth.
-/

namespace EventBus.Derive

/-- Readers of the parts that may stand inside of what is being read. -/
structure Nested where
  /-- A type; bounds joined by `+` are part of it if the flag is set. -/
  type : Bool → Reader TypeExpr
  bounds : Reader (List Token)
  expression : Reader (List Token)
  code : Reader (List Token)

namespace Nested

open Reader

/-! ### Paths -/

/-- A constant as a generic argument or as a default: a literal, a name or a block. -/
def constant (n : Nested) : Reader (List Token) := do
  if ← seesLiteral then literal
  else if ← seesName then return [.word (← name)]
  else if ← seesGroup .curly then return Token.inBraces (← inside .curly n.code)
  else missing []

/-- The last and only segment of a type without owner, if it has no signature. -/
def bareSegment? : TypeExpr → Option Segment
  | .named false [.plain n] => some (.plain n)
  | .named false [.applied n d as t] => some (.applied n d as t)
  | _ => none

def argument (n : Nested) : Reader Argument := do
  match ← rest with
  | .lifetime l :: ts =>
    if (afterSign? ['+'] ts).isNone then
      goOn ts
      return .lifetime l
  | _ => pure ()
  if (← seesLiteral) || (← seesGroup .curly) then return .other (← n.constant)
  let t ← n.type true
  match bareSegment? t with
  | none => return .type t
  | some _ =>
    if ← sees "=" then
      let equals ← sign "="
      let value ←
        if (← seesLiteral) || (← seesGroup .curly) then n.constant
        else do pure (← n.type true).tokens
      return .other (t.tokens ++ equals ++ value)
    else if ← sees ":" then
      let colon ← sign ":"
      return .other (t.tokens ++ colon ++ (← n.bounds))
    else return .type t

/-- Generic arguments in angle brackets, and if a comma follows the last one. -/
def arguments (n : Nested) : Reader (List Argument × Bool) := do
  let _ ← sign "<"
  let r ← list n.argument (sees ">")
  let _ ← sign ">"
  return r

def seesAfterColons (test : Tree → Bool) : Reader Bool := do
  match afterSign? [':', ':'] (← rest) with
  | some (t :: _) => return test t
  | _ => return false

def isRound : Tree → Bool
  | .group .round _ => true
  | _ => false

/-- A segment of a path; in an expression, generic arguments have `::` before them. -/
def segment (n : Nested) (inExpression : Bool) : Reader Segment := do
  if (← seesWord "super") || (← seesWord "self") || (← seesWord "crate") || (← seesWord "try") then
    return .plain (← ident)
  let called ← if ← seesWord "Self" then ident else name
  let attached := !inExpression && (← sees "<") && !(← sees "<=")
  if attached || (← seesAfterColons (Tree.isMark '<')) then
    let colons ← sign? "::"
    let (arguments, trailing) ← n.arguments
    return .applied called (!colons.isEmpty) arguments trailing
  else return .plain called

/-- The segments that follow, each after `::`; arguments in parentheses end a path. -/
def moreSegments (n : Nested) (inExpression : Bool) : Nat → Reader (List Segment)
  | 0 => return []
  | fuel + 1 => do
    if (← sees "::") && !(← seesAfterColons isRound) then
      let _ ← sign "::"
      let s ← n.segment inExpression
      return s :: (← moreSegments n inExpression fuel)
    else return []

def segments (n : Nested) (inExpression : Bool) : Reader (List Segment) := do
  let first ← n.segment inExpression
  return first :: (← n.moreSegments inExpression (← rest).length)

def path (n : Nested) (inExpression : Bool) : Reader TypeExpr := do
  let leading ← sign? "::"
  return .named (!leading.isEmpty) (← n.segments inExpression)

def ownedPath (n : Nested) (inExpression : Bool) : Reader TypeExpr := do
  if ← sees "<" then
    let _ ← sign "<"
    let owner ← n.type true
    let trait ←
      if ← seesWord "as" then do pure ((← word "as") ++ (← n.path false).tokens)
      else pure []
    let _ ← sign ">"
    let _ ← sign "::"
    return .owned (Token.inAngles (owner.tokens ++ trait)) (← n.segments inExpression)
  else n.path inExpression

def result (n : Nested) : Reader (Option TypeExpr) := do
  if ← sees "->" then
    let _ ← sign "->"
    return some (← n.type false)
  else return none

def resultTokens : Option TypeExpr → List Token
  | some t => Token.read "->" ++ t.tokens
  | none => []

/-- Arguments in parentheses, as tokens, and the result after them. -/
def signature (n : Nested) : Reader (List Token × Option TypeExpr) := do
  let (inputs, trailing) ← inside .round (list (n.type true) atEnd)
  let written :=
    Token.inParens (Token.commas (TypeExpr.listTokens inputs) ++ Token.finalComma trailing)
  return (written, ← n.result)

def seesSignature : Reader Bool :=
  return (← seesGroup .round) || (← seesAfterColons isRound)

/-- The segments with a signature for the last one, if that is plain. -/
def withSignature (written : List Token) : List Segment → List Segment
  | [.plain name] => [.called name written]
  | s :: ss => s :: withSignature written ss
  | [] => []

def endsPlain (segments : List Segment) : Bool :=
  match segments.getLast? with
  | some (.plain _) => true
  | _ => false

def isParenthesized : TypeExpr → Bool
  | .other (.mark '(' :: _) => true
  | _ => false

/-- Segments with the signatures that may follow them; more segments may follow a signature without
a result or with one in parentheses. -/
def signed (n : Nested) : Nat → List Segment → Reader (List Segment)
  | 0, segments => return segments
  | fuel + 1, segments => do
    if endsPlain segments && (← seesSignature) then
      let _ ← sign? "::"
      let (written, result) ← n.signature
      let segments := withSignature (written ++ resultTokens result) segments
      if result.all isParenthesized then
        n.signed fuel (segments ++ (← n.moreSegments false (← rest).length))
      else return segments
    else return segments

def pathType (n : Nested) : Reader TypeExpr := do
  match ← n.ownedPath false with
  | .named leading segments => return .named leading (← n.signed (← rest).length segments)
  | .owned owner segments => return .owned owner (← n.signed (← rest).length segments)
  | t => return t

/-! ### Parameters and bounds -/

def lifetimeBounds : Nat → Reader (List Token)
  | 0 => return []
  | fuel + 1 => do
    match ← lifetime? with
    | none => return []
    | some l =>
      match ← sign? "+" with
      | [] => return [.lifetime l]
      | plus => return .lifetime l :: plus ++ (← lifetimeBounds fuel)

def param (n : Nested) : Reader GenericParam := do
  if ← seesName then
    let called ← name
    let bounds ← if (← sign? ":").isEmpty then pure [] else n.bounds
    let default ← if (← sign? "=").isEmpty then pure none else some <$> n.type true
    return .type called bounds default
  else if ← seesLifetime then
    let called ← lifetime
    let bounds ←
      if (← sign? ":").isEmpty then pure [] else lifetimeBounds ((← rest).length + 1)
    return .lifetime called bounds
  else if ← seesWord "const" then
    let _ ← word "const"
    let called ← name
    let _ ← sign ":"
    let t ← n.type true
    let default ← if (← sign? "=").isEmpty then pure none else some <$> n.constant
    return .const called t default
  else missing [.identifier, .lifetime, .sign "const"]

def params (n : Nested) : Reader Generics := do
  let _ ← sign "<"
  let (ps, trailing) ← list n.param (sees ">")
  let _ ← sign ">"
  return ⟨ps, trailing⟩

/-- The binder of a bound or of a function type, such as `for<'a>`, if there is one. -/
def binder (n : Nested) : Reader (List Token) := do
  if ← seesWord "for" then
    let start ← word "for"
    let g ← n.params
    let ps := Token.commas (g.params.map GenericParam.declared)
    return start ++ Token.inAngles (ps ++ Token.finalComma g.trailing)
  else return []

def constMark (allowed : Bool) : Reader (List Token) := do
  if ← seesGroup .square then
    let written ← inside .square (word "const")
    if allowed then return Token.inBrackets written else throw (.constMisplaced "[const]")
  else
    match ← word? "const" with
    | [] => return []
    | written => if allowed then return written else throw (.constMisplaced "const")

/-- A bound that is a trait, without the parentheses that may stand around it. -/
def traitBound (n : Nested) (const : Bool) : Reader (List Token) := do
  let before ← rest
  let outer ← n.binder
  let mark ← constMark const
  let maybe ← sign? "?"
  let inner ← if outer.isEmpty && !maybe.isEmpty then n.binder else pure []
  let trait ←
    match ← n.path false with
    | .named leading segments =>
      if endsPlain segments && (← seesSignature) then
        let _ ← sign? "::"
        let (written, result) ← n.signature
        pure (TypeExpr.named leading (withSignature (written ++ resultTokens result) segments))
      else pure (.named leading segments)
    | t => pure t
  if !maybe.isEmpty && !(outer.isEmpty && inner.isEmpty) then throw .binderOnMaybe
  if mark.isEmpty then return outer ++ maybe ++ trait.tokens else takenSince before

def capture : Reader (List Token) := do
  let start ← word "use"
  let _ ← sign "<"
  let one : Reader (List Token) := do
    match ← lifetime? with
    | some l => return [.lifetime l]
    | none => return [.word (← ident)]
  let (parts, trailing) ← list one (sees ">")
  let _ ← sign ">"
  return start ++ Token.inAngles (Token.commas parts ++ Token.finalComma trailing)

def bound (n : Nested) (captures const : Bool) : Reader (Bool × List Token) := do
  match ← lifetime? with
  | some l => return (false, [.lifetime l])
  | none =>
    if ← seesWord "use" then
      let written ← capture
      if captures then return (false, written) else throw .captureMisplaced
    else if ← seesGroup .round then
      return (true, Token.inParens (← inside .round (n.traitBound const)))
    else return (true, ← n.traitBound const)

def seesBound (const : Bool) : Reader Bool :=
  return (← seesIdent) || (← sees "::") || (← sees "?") || (← seesLifetime) ||
    (← seesGroup .round) || (const && (← seesGroup .square))

def boundsUpTo (n : Nested) (plus captures const : Bool) : Nat → Reader (Bool × List Token)
  | 0 => return (false, [])
  | fuel + 1 => do
    let (isTrait, written) ← n.bound captures const
    if plus && (← sees "+") then
      let sum ← sign "+"
      if ← seesBound const then
        let (other, more) ← boundsUpTo n plus captures const fuel
        return (isTrait || other, written ++ sum ++ more)
      else return (isTrait, written ++ sum)
    else return (isTrait, written)

def boundsEnd : Reader Bool :=
  return (← atEnd) || (← seesGroup .curly) || (← sees ",") || (← sees ">") || (← sees "=") ||
    (← sees ";") || ((← sees ":") && !(← sees "::"))

def openBounds (n : Nested) : Nat → Reader (List Token)
  | 0 => return []
  | fuel + 1 => do
    if ← boundsEnd then return []
    let (_, written) ← n.bound false true
    match ← sign? "+" with
    | [] => return written
    | plus => return written ++ plus ++ (← openBounds n fuel)

/-! ### Types -/

def objectBounds (n : Nested) (plus : Bool) : Reader (List Token) := do
  let (any, written) ← n.boundsUpTo plus false false ((← rest).length + 1)
  if any then return written else throw .objectWithoutTrait

/-- Bounds that follow the first one of a trait object, each after `+`. -/
def moreBounds (n : Nested) (needed : Bool) : Nat → Reader (List Token)
  | 0 => return []
  | fuel + 1 => do
    match ← sign? "+" with
    | [] => return []
    | plus =>
      if needed || (← seesBound false) then
        let (_, written) ← n.bound false false
        return plus ++ written ++ (← moreBounds n needed fuel)
      else return plus

def isSingleBound : TypeExpr → Bool
  | .named _ _ => true
  | .other ts => !(ts.contains (.mark '+')) && ts.head?.any (· == .mark '?')
  | _ => false

/-- What stands in parentheses at the place of a type. -/
inductive RoundType where
  | tuple (items : List TypeExpr) (trailing : Bool)
  | single (t : TypeExpr)
  | maybe (written : List Token)
  | object (written : List Token)

def roundInside (n : Nested) : Reader RoundType := do
  if ← atEnd then return .tuple [] false
  if ← seesLifetime then return .object (← n.objectBounds true)
  if ← sees "?" then return .maybe (← n.traitBound false)
  let first ← n.type true
  if ← sees "," then
    let _ ← sign ","
    let (more, trailing) ← list (n.type true) atEnd
    return .tuple (first :: more) (trailing || more.isEmpty)
  else return .single first

def roundType (n : Nested) (plus : Bool) : Reader TypeExpr := do
  match ← inside .round n.roundInside with
  | .tuple items trailing => return .tuple items trailing
  | .object written => return .other (Token.inParens written)
  | .maybe written =>
    return .other (Token.inParens written ++ (← n.moreBounds true ((← rest).length + 1)))
  | .single t =>
    let written := Token.inParens t.tokens
    if plus && isSingleBound t then
      return .other (written ++ (← n.moreBounds true ((← rest).length + 1)))
    else return .other written

def attributesUpTo : Nat → Reader (List Token)
  | 0 => return []
  | fuel + 1 => do
    match ← rest with
    | .mark '#' _ :: .group .square body :: ts =>
      goOn ts
      return .mark '#' :: Token.inBrackets (Tree.listTokens body) ++ (← attributesUpTo fuel)
    | _ => return []

/-- The word of a method that may change its value is at the front. -/
def seesMutableSelf : Reader Bool := do
  match ← rest with
  | .word "mut" :: .word "self" :: _ => return true
  | _ => return false

def argumentName (first : Bool) : Reader (List Token) := do
  match ← rest with
  | .word w :: .mark ':' joint :: ts =>
    let taken := w == "_" || !keywords.contains w || (first && w == "self")
    if taken && !(joint && (afterSign? [':'] ts).isSome) then
      goOn ts
      return [.word w, .mark ':']
    else return []
  | _ => return []

def functionInput (n : Nested) (first : Bool) : Reader (List Token) := do
  let before ← rest
  let mutable ← if first && (← seesMutableSelf) then word "mut" else pure []
  let label ← argumentName first
  if first && label.head? != some (.word "self") && (← seesMutableSelf) then
    let _ ← word "mut"
    let _ ← word "self"
    takenSince before
  else if label.isEmpty && !mutable.isEmpty then
    let _ ← word "self"
    takenSince before
  else
    let t ← n.type true
    if mutable.isEmpty then return label ++ t.tokens else takenSince before

/-- The sign that stands for any more arguments, maybe with a name, if it is there. -/
def anyMore : Reader (List Token) := do
  match ← sign? "..." with
  | [] =>
    match ← rest with
    | .word w :: .mark ':' _ :: ts =>
      if (w == "_" || !keywords.contains w) && (afterSign? ['.', '.', '.'] ts).isSome then
        goOn ts
        return .word w :: .mark ':' :: (← sign "...")
      else return []
    | _ => return []
  | written => return written

/-- The arguments of a function type, of which the last may stand for any more; `first` holds until
one has been read. -/
def functionInputs (n : Nested) (first : Bool) : Nat → Reader (List Token)
  | 0 => return []
  | fuel + 1 => do
    if ← atEnd then return []
    let attributes ← attributesUpTo (← rest).length
    match ← anyMore with
    | [] =>
      let written ← n.functionInput first
      if ← atEnd then return attributes ++ written
      let comma ← sign ","
      return attributes ++ written ++ comma ++ (← functionInputs n false fuel)
    | written => return attributes ++ written ++ (← sign? ",")

def functionType (n : Nested) (binder : List Token) : Reader TypeExpr := do
  let safety ← word? "unsafe"
  let start ← word? "extern"
  let convention ←
    match start, ← rest with
    | _ :: _, .literal t :: ts =>
      goOn ts
      pure [Token.literal t]
    | _, _ => pure []
  let keyword ← word "fn"
  let inputs ← inside .round (do n.functionInputs true ((← rest).length + 1))
  return .other
    (binder ++ safety ++ start ++ convention ++ keyword ++ Token.inParens inputs ++
      resultTokens (← n.result))

def isPlain : TypeExpr → Bool
  | .named _ segments =>
    segments.all fun
      | .plain _ => true
      | _ => false
  | _ => false

/-- A type that starts with a path: the path, a macro call, or bounds. -/
def pathLike (n : Nested) (binder : List Token) (plus : Bool) : Reader TypeExpr := do
  let t ← n.pathType
  match t with
  | .owned _ _ => return t
  | _ =>
    if (← sees "!") && !(← sees "!=") && isPlain t then
      let bang ← sign "!"
      return .other (t.tokens ++ bang ++ (← anyGroup))
    else if plus && (← sees "+") then
      return .other (binder ++ t.tokens ++ (← n.moreBounds false ((← rest).length + 1)))
    else if binder.isEmpty then return t
    else return .other (binder ++ t.tokens)

def squareInside (n : Nested) : Reader TypeExpr := do
  let item ← n.type true
  if ← sees ";" then
    let _ ← sign ";"
    return .array item (← n.expression)
  else return .slice item

def pointer (n : Nested) : Reader TypeExpr := do
  let star ← sign "*"
  let kind ←
    match ← word? "const" with
    | [] =>
      match ← word? "mut" with
      | [] => missing [.sign "const", .sign "mut"]
      | written => pure written
    | written => pure written
  return .other (star ++ kind ++ (← n.type false).tokens)

def reference (n : Nested) : Reader TypeExpr := do
  let _ ← sign "&"
  let l ← lifetime?
  let mutable ← word? "mut"
  return .ref l (!mutable.isEmpty) (← n.type false)

def afterBinder : List Wanted :=
  .identifier :: ["fn", "unsafe", "extern", "super", "self", "Self", "crate"].map .sign

def typeStart : List Wanted :=
  [.sign "for", .parentheses, .sign "fn", .sign "unsafe", .sign "extern", .identifier, .sign "::",
    .sign "<", .sign "dyn", .squareBrackets, .sign "*", .sign "&", .sign "!", .sign "impl",
    .sign "_", .lifetime]

def typeOver (n : Nested) (plus : Bool) : Reader TypeExpr := do
  let binder ← n.binder
  let isFunction := (← seesWord "fn") || (← seesWord "unsafe") || (← seesWord "extern")
  let isName := (← seesName) || (← seesWord "super") || (← seesWord "self") ||
    (← seesWord "Self") || (← seesWord "crate")
  if !binder.isEmpty && !isFunction && !isName then missing afterBinder
  else if isFunction then n.functionType binder
  else if isName || (← sees "::") || (← sees "<") then n.pathLike binder plus
  else if ← seesGroup .round then n.roundType plus
  else if ← seesGroup .square then inside .square n.squareInside
  else if ← sees "*" then n.pointer
  else if ← sees "&" then n.reference
  else if ← sees "!" then return .other (← sign "!")
  else if ← seesWord "dyn" then
    let before ← rest
    let start ← word "dyn"
    let star ← sign? "*"
    let bounds ← n.objectBounds plus
    return .other (← if star.isEmpty then pure (start ++ bounds) else takenSince before)
  else if ← seesWord "impl" then
    let start ← word "impl"
    let (any, written) ← n.boundsUpTo plus true true ((← rest).length + 1)
    if any then return .other (start ++ written) else throw .opaqueWithoutTrait
  else if ← seesWord "_" then return .other (← word "_")
  else if ← seesLifetime then return .other (← n.objectBounds true)
  else missing typeStart

end Nested

end EventBus.Derive
