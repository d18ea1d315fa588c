import EventBus.Derive.TypeExpr

/-!
Readers of written code.

A reader takes trees off the front of a list and says what it read, or why it cannot: `Misreading`
lists what can go wrong.  What is left in a group when its reader is done is not a mistake at
once: the readers around it go on, and only when all is read the first group with something left
counts (`Stream.leftover`).
-/

namespace EventBus.Derive

/-- What is looked for at a place of written code. -/
inductive Wanted where
  | sign (text : String)
  | identifier
  | ident
  | lifetime
  | parentheses
  | squareBrackets
  | curlyBraces
  | delimiter
  | expression
  | nestedAttribute
deriving DecidableEq, Repr

def Wanted.words : Wanted → String
  | .sign text => "`" ++ text ++ "`"
  | .identifier => "identifier"
  | .ident => "ident"
  | .lifetime => "lifetime"
  | .parentheses => "parentheses"
  | .squareBrackets => "square brackets"
  | .curlyBraces => "curly braces"
  | .delimiter => "delimiter"
  | .expression => "an expression"
  | .nestedAttribute => "nested attribute"

def Wanted.anyOf : List Wanted → String
  | [a] => "expected " ++ a.words
  | [a, b] => "expected " ++ a.words ++ " or " ++ b.words
  | ws => "expected one of: " ++ ", ".intercalate (ws.map words)

/-- Why written code cannot be read. -/
inductive Misreading where
  | argumentsMissing (path : Path)
  | valueGiven (path : Path)
  | literalForKey
  | tokenForKey
  /-- None of the wanted things is there; `atEnd` tells if nothing is. -/
  | missing (wanted : List Wanted) (atEnd : Bool)
  | keywordForName (word : String)
  | objectWithoutTrait
  | opaqueWithoutTrait
  | captureMisplaced
  | constMisplaced (written : String)
  | binderOnMaybe
  | leftover (bracket : Bracket)
deriving DecidableEq, Repr

def Misreading.message : Misreading → String
  | .argumentsMissing p =>
    "expected attribute arguments in parentheses: #[" ++ p.text ++ "(...)]"
  | .valueGiven p => "expected parentheses: #[" ++ p.text ++ "(...)]"
  | .literalForKey => "unexpected literal in nested attribute, expected ident"
  | .tokenForKey => "unexpected token in nested attribute, expected ident"
  | .missing wanted atEnd =>
    (if atEnd then "unexpected end of input, " else "") ++ Wanted.anyOf wanted
  | .keywordForName word => "expected identifier, found keyword `" ++ word ++ "`"
  | .objectWithoutTrait => "at least one trait is required for an object type"
  | .opaqueWithoutTrait => "at least one trait must be specified"
  | .captureMisplaced => "`use<...>` precise capturing syntax is not allowed here"
  | .constMisplaced written => "`" ++ written ++ "` is not allowed here"
  | .binderOnMaybe => "`for<...>` binder not allowed with `?` trait polarity modifier"
  | .leftover b => "unexpected token, expected `" ++ b.closing.toString ++ "`"

/-- What is still to be read. -/
structure Stream where
  rest : List Tree
  leftover : Option Bracket

abbrev Reader := StateT Stream (Except Misreading)

namespace Reader

/-! ### Looking ahead -/

def rest : Reader (List Tree) := return (← get).rest

def atEnd : Reader Bool := return (← rest).isEmpty

def afterWord? (w : String) : List Tree → Option (List Tree)
  | .word v :: ts => if v == w then some ts else none
  | _ => none

/-- What follows the sign at the front, if it is there: its characters stand together. -/
def afterSign? : List Char → List Tree → Option (List Tree)
  | [c], .mark d _ :: ts => if c == d then some ts else none
  | c :: cs, .mark d true :: ts => if c == d then afterSign? cs ts else none
  | _, _ => none

def sees (sign : String) : Reader Bool :=
  return (afterSign? sign.toList (← rest)).isSome

def seesWord (w : String) : Reader Bool :=
  return (afterWord? w (← rest)).isSome

def seesGroup (b : Bracket) : Reader Bool := do
  match ← rest with
  | .group c _ :: _ => return b == c
  | _ => return false

def seesLifetime : Reader Bool := do
  match ← rest with
  | .lifetime _ :: _ => return true
  | _ => return false

def seesIdent : Reader Bool := do
  match ← rest with
  | .word _ :: _ => return true
  | _ => return false

def keywords : List String :=
  ["_", "abstract", "as", "async", "await", "become", "box", "break", "const", "continue",
    "crate", "do", "dyn", "else", "enum", "extern", "false", "final", "fn", "for", "if", "impl",
    "in", "let", "loop", "macro", "match", "mod", "move", "mut", "override", "priv", "pub", "ref",
    "return", "Self", "self", "static", "struct", "super", "trait", "true", "try", "type",
    "typeof", "unsafe", "unsized", "use", "virtual", "where", "while", "yield"]

def seesName : Reader Bool := do
  match ← rest with
  | .word w :: _ => return !keywords.contains w
  | _ => return false

def isNumber (literal : String) : Bool := literal.toList.head?.any Char.isDigit

/-- A literal is at the front; a minus sign may stand before a number. -/
def seesLiteral : Reader Bool := do
  match ← rest with
  | .literal _ :: _ => return true
  | .mark '-' _ :: .literal t :: _ => return isNumber t
  | .word w :: _ => return w == "true" || w == "false"
  | _ => return false

/-! ### Taking off the front -/

def goOn (ts : List Tree) : Reader Unit := modify fun s => { s with rest := ts }

def missing {α : Type} (wanted : List Wanted) : Reader α := do
  throw (.missing wanted (← atEnd))

def sign? (sign : String) : Reader (List Token) := do
  match afterSign? sign.toList (← rest) with
  | some ts => goOn ts; return sign.toList.map .mark
  | none => return []

def sign (text : String) : Reader (List Token) := do
  match ← sign? text with
  | [] => missing [.sign text]
  | ts => return ts

def word? (w : String) : Reader (List Token) := do
  match afterWord? w (← rest) with
  | some ts => goOn ts; return [.word w]
  | none => return []

def word (w : String) : Reader (List Token) := do
  match ← word? w with
  | [] => missing [.sign w]
  | ts => return ts

def name : Reader String := do
  match ← rest with
  | .word w :: ts =>
    if keywords.contains w then throw (.keywordForName w)
    else goOn ts; return w
  | _ => missing [.identifier]

def ident : Reader String := do
  match ← rest with
  | .word w :: ts => goOn ts; return w
  | _ => missing [.ident]

def lifetime? : Reader (Option String) := do
  match ← rest with
  | .lifetime n :: ts => goOn ts; return some n
  | _ => return none

def lifetime : Reader String := do
  match ← lifetime? with
  | some n => return n
  | none => missing [.lifetime]

def literal : Reader (List Token) := do
  match ← rest with
  | .mark '-' _ :: .literal t :: ts => goOn ts; return [.mark '-', .literal t]
  | t :: ts => goOn ts; return t.tokens
  | [] => missing [.expression]

def wantedGroup : Bracket → Wanted
  | .round => .parentheses
  | .square => .squareBrackets
  | .curly => .curlyBraces

/-- Reads the inside of a group by `read`, and goes on after the group. -/
def inside {α : Type} (b : Bracket) (read : Reader α) : Reader α := do
  match ← rest with
  | .group c body :: ts =>
    if b = c then
      goOn body
      let a ← read
      modify fun s =>
        ⟨ts, s.leftover.or (if s.rest.isEmpty then none else some b)⟩
      return a
    else missing [wantedGroup b]
  | _ => missing [wantedGroup b]

def anyGroup : Reader (List Token) := do
  match ← rest with
  | .group b body :: ts => goOn ts; return (Tree.group b body).tokens
  | _ => missing [.delimiter]

def remainder : Reader (List Token) := do
  let ts ← rest
  goOn []
  return Tree.listTokens ts

/-- What has been taken off since `before` was to be read, as it is written. -/
def takenSince (before : List Tree) : Reader (List Token) := do
  return Tree.listTokens (before.take (before.length - (← rest).length))

/-- Things with commas between them until `done`, and if a comma follows the last one; each is
read by `one`, at most as many as the fuel. -/
def listUpTo {α : Type} (one : Reader α) (done : Reader Bool) : Nat → Reader (List α × Bool)
  | 0 => return ([], false)
  | fuel + 1 => do
    if ← done then return ([], false)
    let a ← one
    if ← done then return ([a], false)
    let _ ← sign ","
    let (more, trailing) ← listUpTo one done fuel
    return (a :: more, trailing || more.isEmpty)

/-- Things with commas between them until `done`, and if a comma follows the last one. -/
def list {α : Type} (one : Reader α) (done : Reader Bool) : Reader (List α × Bool) := do
  listUpTo one done ((← rest).length + 1)

/-- What a reader makes of what is left, if it can; else nothing is taken off. -/
def attempt {α : Type} (read : Reader α) : Reader (Option α) := fun s =>
  match StateT.run read s with
  | .ok (a, t) => .ok (some a, t)
  | .error _ => .ok (none, s)

def run {α : Type} (read : Reader α) (ts : List Tree) : Except Misreading (α × Stream) :=
  StateT.run read ⟨ts, none⟩

def whole? {α : Type} (read : Reader α) (ts : List Tree) : Option α :=
  match run read ts with
  | .ok (a, ⟨[], none⟩) => some a
  | _ => none

end Reader

end EventBus.Derive
