import EventBus.Derive.Tree
import EventBus.Text.Blank
import EventBus.Text.Quoted

/-!
Reading written code into trees.

`Tree.ofText?` splits a text into tokens and matches the brackets.  Blanks and comments separate
tokens; a comment that documents what follows is read as the attribute `#[doc = ".."]` that it
stands for.  A literal is kept as it was written, with the suffix that may follow it.
-/

namespace EventBus.Derive

namespace Lexer

/-! ### Blanks, comments and words -/

/-- Blanks between tokens; the two direction marks count as blanks. -/
def isGap (c : Char) : Bool :=
  Text.isBlank c || c == '\u200e' || c == '\u200f'

def isWordStart (c : Char) : Bool :=
  c.isAlpha || c == '_' || (0x80 ≤ c.toNat && !isGap c)

def isWordPart (c : Char) : Bool := isWordStart c || c.isDigit

/-- What follows the word at the front; without a word nothing is dropped. -/
def afterWord : List Char → List Char
  | c :: cs => if isWordStart c then cs.dropWhile isWordPart else c :: cs
  | [] => []

/-- What follows the line at the front: its end and the lines after it. -/
def afterLine : List Char → List Char
  | [] => []
  | '\n' :: cs => '\n' :: cs
  | '\r' :: '\n' :: cs => '\n' :: cs
  | _ :: cs => afterLine cs

/-- What follows a comment between `/*` and `*/`, in which such comments nest; `depth` of them are
open. -/
def afterComment? (depth : Nat) : List Char → Option (List Char)
  | '/' :: '*' :: cs => afterComment? (depth + 1) cs
  | '*' :: '/' :: cs => if depth ≤ 1 then some cs else afterComment? (depth - 1) cs
  | _ :: cs => afterComment? depth cs
  | [] => none

/-- What follows the comment at the front, if there is one that documents nothing. -/
def afterPlainComment? : List Char → Option (List Char)
  | '/' :: '/' :: cs =>
    match cs with
    | '!' :: _ => none
    | '/' :: '/' :: _ => some (afterLine cs)
    | '/' :: _ => none
    | _ => some (afterLine cs)
  | '/' :: '*' :: cs =>
    match cs with
    | '*' :: '/' :: rest => some rest
    | '!' :: _ => none
    | '*' :: '*' :: _ => afterComment? 1 cs
    | '*' :: _ => none
    | _ => afterComment? 1 cs
  | _ => none

def consumed (cs rest : List Char) : List Char := cs.take (cs.length - rest.length)

/-- The comment at the front that documents something: if it is about what it stands in, its text,
and what follows. -/
def documentation? (cs : List Char) : Option (Bool × List Char × List Char) :=
  let line (inner : Bool) (body : List Char) :=
    let rest := afterLine body
    let text := consumed body rest
    -- The end of the line is not part of the text, both characters of it.
    let returned := !rest.isEmpty && text.getLast? == some '\r'
    some (inner, (if returned then text.dropLast else text), rest)
  let block (inner : Bool) (body : List Char) :=
    (afterComment? 1 body).map fun rest =>
      let text := consumed body rest
      (inner, text.take (text.length - 2), rest)
  match cs with
  | '/' :: '/' :: '!' :: body => line true body
  | '/' :: '*' :: '!' :: body => block true body
  | '/' :: '/' :: '/' :: body => line false body
  | '/' :: '*' :: '*' :: body => block false body
  | _ => none

/-! ### Literals -/

/-- What follows a text that ends with `quote`; a backslash keeps the character after it from
ending the text. -/
def afterQuote? (quote : Char) : List Char → Option (List Char)
  | '\\' :: _ :: cs => afterQuote? quote cs
  | c :: cs => if c == quote then some cs else afterQuote? quote cs
  | [] => none

def afterFence? (fence : List Char) : List Char → Option (List Char)
  | [] => none
  | c :: cs =>
    if fence.isPrefixOf (c :: cs) then some ((c :: cs).drop fence.length)
    else afterFence? fence cs

def afterRawString? (cs : List Char) : Option (List Char) :=
  let fence := cs.takeWhile (· == '#')
  match cs.drop fence.length with
  | '"' :: rest => afterFence? ('"' :: fence) rest
  | _ => none

def afterCharacter? : List Char → Option (List Char)
  | '\\' :: c :: cs => afterQuote? '\'' ('\\' :: c :: cs)
  | _ :: '\'' :: cs => some cs
  | _ => none

/-- What follows the quoted literal at the front, up to its suffix. -/
def afterQuoted? : List Char → Option (List Char)
  | '"' :: cs | 'b' :: '"' :: cs | 'c' :: '"' :: cs => afterQuote? '"' cs
  | '\'' :: cs | 'b' :: '\'' :: cs => afterCharacter? cs
  | 'r' :: cs | 'b' :: 'r' :: cs | 'c' :: 'r' :: cs => afterRawString? cs
  | _ => none

/-- What follows the exponent of a number, after its letter; there has to be a digit. -/
def afterExponent? (signed valued : Bool) : List Char → Option (List Char)
  | [] => if valued then some [] else none
  | c :: cs =>
    if c == '+' || c == '-' then
      if valued then some (c :: cs) else if signed then none else afterExponent? true false cs
    else if c.isDigit then afterExponent? signed true cs
    else if c == '_' then afterExponent? signed valued cs
    else if valued then some (c :: cs)
    else none

/-- What follows the digits of a number with a point, an exponent, or both; `pointed` tells if the
point has been read.  A point that another point or a word follows is none of the number. -/
def afterFraction? (pointed : Bool) : List Char → Option (List Char)
  | [] => if pointed then some [] else none
  | c :: cs =>
    if c.isDigit || c == '_' then afterFraction? pointed cs
    else if c == '.' && !pointed then
      match cs with
      | d :: _ => if d == '.' || isWordStart d then none else afterFraction? true cs
      | [] => some []
    else if c == 'e' || c == 'E' then
      match afterExponent? false false cs with
      | some rest => some rest
      | none => if pointed then some (c :: cs) else none
    else if pointed then some (c :: cs)
    else none

/-- Whether a character is a digit of a base, or stands between digits. -/
def isDigitOf (base : Nat) (c : Char) : Bool :=
  c.isDigit || c == '_' ||
    (base == 16 && (('a' ≤ c && c ≤ 'f') || ('A' ≤ c && c ≤ 'F')))

def afterWhole : List Char → List Char
  | '0' :: 'x' :: cs => cs.dropWhile (isDigitOf 16)
  | '0' :: 'o' :: cs => cs.dropWhile (isDigitOf 8)
  | '0' :: 'b' :: cs => cs.dropWhile (isDigitOf 2)
  | cs => cs.dropWhile (isDigitOf 10)

def digitValue (c : Char) : Nat :=
  if c.isDigit then c.toNat - '0'.toNat else c.toLower.toNat - 'a'.toNat + 10

/-- The value of the digits of a whole number, between which underscores may stand. -/
def wholeValue (base : Nat) (cs : List Char) : Nat :=
  (cs.filter (· != '_')).foldl (fun n c => n * base + digitValue c) 0

def afterNumber? : List Char → Option (List Char)
  | c :: cs =>
    if c.isDigit then
      match afterFraction? false (c :: cs) with
      | some rest => some rest
      | none => some (afterWhole (c :: cs))
    else none
  | [] => none

def afterLiteral? (cs : List Char) : Option (List Char) :=
  match afterQuoted? cs with
  | some rest => some (afterWord rest)
  | none => (afterNumber? cs).map afterWord

/-! ### Tokens -/

def isPunctuation (c : Char) : Bool := "~!@#$%^&*-=+|;:,<.>/?'".toList.contains c

/-- Whether punctuation follows at once; the start of a comment is none. -/
def punctuationNext : List Char → Bool
  | '/' :: '/' :: _ | '/' :: '*' :: _ => false
  | c :: _ => isPunctuation c
  | [] => false

/-- The word at the front, which may be marked as a name by `r#`, and what follows it. -/
def word? (cs : List Char) : Option (String × List Char) :=
  let start : List Char × List Char :=
    match cs with
    | 'r' :: '#' :: rest => (['r', '#'], rest)
    | rest => ([], rest)
  let rest := afterWord start.2
  if rest.length < start.2.length then
    some (String.ofList (start.1 ++ consumed start.2 rest), rest)
  else none

/-- A token, or one bracket of a group. -/
inductive Lexeme where
  | tree (t : Tree)
  | opening (b : Bracket)
  | closing (b : Bracket)

def documenting (inner : Bool) (text : List Char) : List Lexeme :=
  let literal := Text.quote (String.ofList text)
  .tree (.mark '#' false) :: (if inner then [.tree (.mark '!' false)] else []) ++
    [.tree (.group .square [.word "doc", .mark '=' false, .literal literal])]

def leaf? (cs : List Char) : Option (Tree × List Char) :=
  match afterLiteral? cs with
  | some rest => some (.literal (String.ofList (consumed cs rest)), rest)
  | none =>
    match cs with
    | '\'' :: rest => (word? rest).map fun r => (.lifetime r.1, r.2)
    | c :: rest =>
      if isPunctuation c then some (.mark c (punctuationNext rest), rest)
      else (word? cs).map fun r => (.word r.1, r.2)
    | [] => none

/-- What is at the front, and what follows it; blanks and comments are nothing. -/
def first? (c : Char) (cs : List Char) : Option (List Lexeme × List Char) :=
  if isGap c then some ([], cs)
  else
    match afterPlainComment? (c :: cs), documentation? (c :: cs) with
    | some rest, _ => some ([], rest)
    | none, some (inner, text, rest) => some (documenting inner text, rest)
    | none, none =>
      match Bracket.ofOpening? c, Bracket.ofClosing? c with
      | some b, _ => some ([.opening b], cs)
      | none, some b => some ([.closing b], cs)
      | none, none => (leaf? (c :: cs)).map fun r => ([.tree r.1], r.2)

def lexemes? : Nat → List Char → Option (List Lexeme)
  | _, [] => some []
  | 0, _ => none
  | fuel + 1, c :: cs =>
    match first? c cs with
    | none => none
    | some (ls, rest) => (lexemes? fuel rest).map (ls ++ ·)

/-- The trees that lexemes make up.  `done` holds the trees of the group being read, last one
first, and `outer` the same for the groups around it. -/
def nest? (outer : List (Bracket × List Tree)) (done : List Tree) : List Lexeme → Option (List Tree)
  | [] => if outer.isEmpty then some done.reverse else none
  | .tree t :: ls => nest? outer (t :: done) ls
  | .opening b :: ls => nest? ((b, done) :: outer) [] ls
  | .closing b :: ls =>
    match outer with
    | (c, before) :: outer =>
      if b = c then nest? outer (.group b done.reverse :: before) ls else none
    | [] => none

end Lexer

/-- The trees of a text, if every part of it is a token and its brackets match. -/
def Tree.ofText? (s : String) : Option (List Tree) :=
  (Lexer.lexemes? s.length s.toList).bind (Lexer.nest? [] [])

def Token.read (s : String) : List Token :=
  ((Tree.ofText? s).map Tree.listTokens).getD []

end EventBus.Derive
