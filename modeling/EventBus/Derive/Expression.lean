import EventBus.Derive.Grammar
import EventBus.Number.Text

/-!
Expressions, as far as they occur in items: lengths of arrays, defaults, values of attributes.

An expression is read as operands with signs between them; what binds closer does not matter for
writing it again.  What is inside braces, and what a control keyword starts, is not looked at
closely (`Nested.codeOver`), only written by the habits of the grammar.
-/

namespace EventBus.Derive

namespace Nested

open Reader

/-- A place after a point: a whole number, which is written again in decimal digits. -/
def placeText (written : String) : String :=
  Number.natText <|
    match written.toList with
    | '0' :: 'x' :: cs => Lexer.wholeValue 16 cs
    | '0' :: 'o' :: cs => Lexer.wholeValue 8 cs
    | '0' :: 'b' :: cs => Lexer.wholeValue 2 cs
    | cs => Lexer.wholeValue 10 cs

def placeTokens (literal : String) : List Token :=
  [.mark '.'].intercalate
    ((literal.splitOn ".").map fun part => if part.isEmpty then [] else [.literal (placeText part)])

/-! ### Code that is not looked at closely -/

def callsMacro (w : String) : Bool := !keywords.contains w

def detachedArguments (n : Nested) : Reader (List Token) := do
  let (arguments, trailing) ← n.arguments
  return Token.inAngles (Token.lifetimesFirst (TypeExpr.argumentTokens arguments) trailing)

/-- The next piece of code, as tokens; nothing is left if it is none. -/
def piece (n : Nested) : Reader (List Token) := do
  match ← rest with
  | .group b _ :: _ => return b.around (← inside b n.code)
  | .word w :: .mark '!' false :: .group b body :: ts =>
    goOn (if callsMacro w then ts else .mark '!' false :: .group b body :: ts)
    return .word w ::
      (if callsMacro w then .mark '!' :: (Tree.group b body).tokens else [])
  | .word "as" :: ts =>
    goOn ts
    match ← attempt (n.type false) with
    | some t => return .word "as" :: t.tokens
    | none => return [.word "as"]
  | .mark '.' true :: .mark '.' joint :: ts =>
    goOn ts
    if joint then return [.mark '.', .mark '.'] ++ (← sign? "=") else return [.mark '.', .mark '.']
  | .mark '.' _ :: .literal t :: ts =>
    goOn ts
    return .mark '.' :: placeTokens t
  | .mark ':' true :: .mark ':' _ :: ts =>
    goOn ts
    match ← attempt n.detachedArguments with
    | some written => return Path.separator ++ written
    | none => return Path.separator
  | t :: ts =>
    goOn ts
    return t.tokens
  | [] => return []

def piecesUpTo (n : Nested) : Nat → Reader (List Token)
  | 0 => remainder
  | fuel + 1 => do
    if ← atEnd then return []
    let written ← n.piece
    return written ++ (← piecesUpTo n fuel)

/-- All that is left of a piece of code, for given readers of its inside. -/
def codeOver (n : Nested) : Reader (List Token) := do
  n.piecesUpTo (← rest).length

/-! ### Operands -/

/-- Expressions with commas between them, up to the end of a group. -/
def operands (n : Nested) : Reader (List Token) := do
  let (parts, trailing) ← list n.expression atEnd
  return Token.commas parts ++ Token.finalComma trailing

/-- The inside of square brackets: the items of an array, or an item and how often it stands. -/
def squareOperand (n : Nested) : Reader (List Token) := do
  if ← atEnd then return []
  let first ← n.expression
  if ← atEnd then return first
  if ← sees ";" then
    let semicolon ← sign ";"
    return first ++ semicolon ++ (← n.expression)
  else if ← sees "," then
    let comma ← sign ","
    return first ++ comma ++ (← n.operands)
  else missing [.sign ",", .sign ";"]

/-- The words that start an expression with blocks or one that leaves a block. -/
def controlWords : List String :=
  ["async", "break", "const", "continue", "for", "if", "let", "loop", "match", "move", "return",
    "static", "unsafe", "while", "yield", "become"]

/-- An expression that a control keyword, a label or the parameters of a function start. -/
def seesControl : Reader Bool := do
  match ← rest with
  | .word w :: _ => return controlWords.contains w
  | .lifetime _ :: _ | .mark '|' _ :: _ => return true
  | _ => return false

/-- An operand that is a path: a value, a macro call, or a value with named fields. -/
def pathOperand (n : Nested) : Reader (List Token) := do
  let t ← n.ownedPath true
  if (← sees "!") && !(← sees "!=") && isPlain t then
    let bang ← sign "!"
    return t.tokens ++ bang ++ (← anyGroup)
  else if ← seesGroup .curly then
    return t.tokens ++ Token.inBraces (← inside .curly n.code)
  else return t.tokens

def atom (n : Nested) : Reader (List Token) := do
  if ← seesLiteral then literal
  else if ← seesControl then n.codeOver
  else if (← seesName) || (← sees "::") || (← sees "<") || (← seesWord "self") ||
      (← seesWord "Self") || (← seesWord "super") || (← seesWord "crate") then n.pathOperand
  else if ← seesGroup .round then return Token.inParens (← inside .round n.operands)
  else if ← seesGroup .square then return Token.inBrackets (← inside .square n.squareOperand)
  else if ← seesGroup .curly then return Token.inBraces (← inside .curly n.code)
  else if ← seesWord "_" then word "_"
  else missing [.expression]

def trailers (n : Nested) : Nat → Reader (List Token)
  | 0 => return []
  | fuel + 1 => do
    if ← seesGroup .round then
      let written := Token.inParens (← inside .round n.operands)
      return written ++ (← trailers n fuel)
    else if ← seesGroup .square then
      let written := Token.inBrackets (← inside .square n.expression)
      return written ++ (← trailers n fuel)
    else if ← sees "?" then
      let written ← sign "?"
      return written ++ (← trailers n fuel)
    else if (← sees ".") && !(← sees "..") then
      let point ← sign "."
      match ← rest with
      | .literal t :: ts =>
        goOn ts
        let pointed := t.endsWith "."
        let next ←
          if pointed then
            match ← rest with
            | .literal u :: us => do goOn us; pure [Token.literal u]
            | _ => do pure [.word (← name)]
          else pure []
        return point ++ placeTokens t ++ next ++ (← trailers n fuel)
      | _ =>
        let place ← if ← seesWord "await" then word "await" else do pure [.word (← name)]
        let applied ←
          if ← sees "::" then
            do pure ((← sign "::") ++ (← n.detachedArguments))
          else pure []
        return point ++ place ++ applied ++ (← trailers n fuel)
    else return []

def marksBefore : Nat → Reader (List Token)
  | 0 => return []
  | fuel + 1 => do
    if ← sees "&" then
      let and ← sign "&"
      let raw ←
        match ← rest with
        | .word "raw" :: .word w :: ts =>
          if w == "const" || w == "mut" then
            goOn ts
            pure [Token.word "raw", .word w]
          else word? "mut"
        | _ => word? "mut"
      return and ++ raw ++ (← marksBefore fuel)
    else if (← sees "*") || (← sees "!") || (← sees "-") then
      match ← rest with
      | .mark c _ :: ts =>
        goOn ts
        return .mark c :: (← marksBefore fuel)
      | _ => return []
    else return []

def operand (n : Nested) : Reader (List Token) := do
  let attributes ← attributesUpTo (← rest).length
  let marks ← marksBefore (← rest).length
  let first ← n.atom
  return attributes ++ marks ++ first ++ (← n.trailers ((← rest).length + 1))

/-! ### Operands with signs between them -/

/-- The signs that may stand between operands, the longer ones first. -/
def operators : List String :=
  ["<<=", ">>=", "+=", "-=", "*=", "/=", "%=", "^=", "&=", "|=", "&&", "||", "<<", ">>", "==",
    "<=", "!=", ">=", "+", "-", "*", "/", "%", "^", "&", "|", "<", ">", "="]

def operator? : List String → Reader (List Token)
  | [] => return []
  | o :: os => do
    match ← sign? o with
    | [] => operator? os
    | written => return written

def seesEnd : Reader Bool :=
  return (← atEnd) || (← sees ",") || (← sees ";") || (← sees "=>")

def moreOperands (n : Nested) : Nat → Reader (List Token)
  | 0 => return []
  | fuel + 1 => do
    if ← sees ".." then
      let dots ← if ← sees "..=" then sign "..=" else sign ".."
      if ← seesEnd then return dots
      let next ← n.operand
      return dots ++ next ++ (← moreOperands n fuel)
    else if ← seesWord "as" then
      let cast ← word "as"
      let t ← n.type false
      return cast ++ t.tokens ++ (← moreOperands n fuel)
    else if ← sees "=>" then return []
    else
      match ← operator? operators with
      | [] => return []
      | written =>
        let next ← n.operand
        return written ++ next ++ (← moreOperands n fuel)

def expressionOver (n : Nested) : Reader (List Token) := do
  let first ← if ← sees ".." then pure [] else n.operand
  return first ++ (← n.moreOperands ((← rest).length + 1))

/-! ### Any depth -/

def upTo : Nat → Nested
  | 0 => ⟨fun _ => missing typeStart, return [], missing [.expression], remainder⟩
  | fuel + 1 =>
    let inner := upTo fuel
    ⟨inner.typeOver, do inner.openBounds ((← rest).length + 1), inner.expressionOver,
      inner.codeOver⟩

/-- Readers of what nests in the trees that are left: each step inside takes a token. -/
def ofRest : Reader Nested := do
  return upTo (4 * Tree.listSize (← rest) + 4)

end Nested

namespace Reader

def type : Reader TypeExpr := do
  (← Nested.ofRest).type true

def bounds : Reader (List Token) := do
  (← Nested.ofRest).bounds

def expression : Reader (List Token) := do
  (← Nested.ofRest).expression

def value : Reader (List Token) := do
  let n ← Nested.ofRest
  let start ← rest
  match ← attempt n.expression with
  | some e =>
    if ← atEnd then return e
    else
      goOn start
      n.code
  | none => n.code

end Reader

end EventBus.Derive
