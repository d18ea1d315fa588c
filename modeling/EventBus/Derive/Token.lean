/-!
Tokens of written code.

Every punctuation character is a token of its own, so that `::` is two, and so is every bracket.
`Token.line` writes tokens with a space between each two.
-/

namespace EventBus.Derive

/-- A token of written code. -/
inductive Token where
  | word (text : String)
  | mark (c : Char)
  | literal (text : String)
  | lifetime (name : String)
deriving DecidableEq, Repr

namespace Token

/-- The token as text; the tick of a lifetime stands apart from its name. -/
def text : Token → String
  | word t => t
  | mark c => String.singleton c
  | literal t => t
  | lifetime name => "' " ++ name

def line (ts : List Token) : String :=
  " ".intercalate (ts.map text)

/-! ### Putting tokens together -/

def inParens (ts : List Token) : List Token :=
  mark '(' :: ts ++ [mark ')']

def inBrackets (ts : List Token) : List Token :=
  mark '[' :: ts ++ [mark ']']

def inBraces (ts : List Token) : List Token :=
  mark '\x7b' :: ts ++ [mark '\x7d']

def inAngles (ts : List Token) : List Token :=
  mark '<' :: ts ++ [mark '>']

def commas (parts : List (List Token)) : List Token :=
  [mark ','].intercalate parts

def finalComma (present : Bool) : List Token :=
  if present then [mark ','] else []

/-- Parts with the lifetimes, which are flagged, moved to the front; `trailing` tells if a comma
follows the last part.  Each part keeps the comma that stood after it; a lifetime that stood last
gets one when others now follow it. -/
def lifetimesFirst (parts : List (Bool × List Token)) (trailing : Bool) : List Token :=
  let lifetimes := parts.filter (·.1)
  let others := parts.filter (!·.1)
  let moved := (parts.getLast?.map (·.1)).getD false && !others.isEmpty
  commas ((lifetimes ++ others).map (·.2)) ++ finalComma (trailing || moved)

end Token

end EventBus.Derive
