import EventBus.Derive.Token

/-!
Written code with its brackets matched.

A `Tree` is a token that is no bracket, or a group: what stands between two brackets that belong
together.  `Tree.listTokens` forgets the structure.  A list of trees is what a reader of code works
on; `Tree.commaPieces` cuts it at its commas, of which those inside groups do not count.
-/

namespace EventBus.Derive

/-- A pair of brackets. -/
inductive Bracket where
  | round
  | square
  | curly
deriving DecidableEq, Repr

namespace Bracket

def opening : Bracket → Char
  | round => '('
  | square => '['
  | curly => '\x7b'

def closing : Bracket → Char
  | round => ')'
  | square => ']'
  | curly => '\x7d'

def ofOpening? : Char → Option Bracket
  | '(' => some round
  | '[' => some square
  | '\x7b' => some curly
  | _ => none

def ofClosing? : Char → Option Bracket
  | ')' => some round
  | ']' => some square
  | '\x7d' => some curly
  | _ => none

def around (b : Bracket) (ts : List Token) : List Token :=
  .mark b.opening :: ts ++ [.mark b.closing]

end Bracket

/-- A part of written code. -/
inductive Tree where
  | word (text : String)
  /-- A punctuation character; it is `joint` if another one follows at once, so that both can be
  read as one sign. -/
  | mark (c : Char) (joint : Bool)
  | literal (text : String)
  | lifetime (name : String)
  | group (bracket : Bracket) (body : List Tree)
deriving Repr

namespace Tree

mutual

def tokens : Tree → List Token
  | word t => [.word t]
  | mark c _ => [.mark c]
  | literal t => [.literal t]
  | lifetime n => [.lifetime n]
  | group b body => b.around (listTokens body)

def listTokens : List Tree → List Token
  | [] => []
  | t :: ts => t.tokens ++ listTokens ts

end

mutual

/-- How many tokens a tree has, where a group counts as one more than its body. -/
def size : Tree → Nat
  | group _ body => listSize body + 1
  | _ => 1

def listSize : List Tree → Nat
  | [] => 0
  | t :: ts => t.size + listSize ts

end

def isMark (c : Char) : Tree → Bool
  | mark d _ => c == d
  | _ => false

/-- The pieces between commas; `piece` holds the one being cut, last tree first. -/
def cutAtCommas (piece : List Tree) : List Tree → List (List Tree)
  | [] => [piece.reverse]
  | t :: ts =>
    if t.isMark ',' then piece.reverse :: cutAtCommas [] ts else cutAtCommas (t :: piece) ts

/-- The pieces between commas; there are none if there is nothing.  A final comma is followed by an
empty piece. -/
def commaPieces (ts : List Tree) : List (List Tree) :=
  if ts.isEmpty then [] else cutAtCommas [] ts

def pieceTokens (pieces : List (List Tree)) : List Token :=
  Token.commas (pieces.map listTokens)

end Tree

end EventBus.Derive
