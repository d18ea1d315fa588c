import EventBus.Toml.Table

/-!
The lines of a TOML text.

A text is a list of statements: headers, headers of one more table of a list, and assignments.
`Toml.read?` reads the statements one after the other and builds the table that they describe.
-/

namespace EventBus.Toml

abbrev Reader (α : Type) := List Char → Option (α × List Char)

def lineEnd? : List Char → Option (List Char)
  | '\n' :: cs => some cs
  | '\r' :: '\n' :: cs => some cs
  | _ => none

def isSpace (c : Char) : Bool := c == ' ' || c == '\t'

def skipSpaces (cs : List Char) : List Char := cs.dropWhile isSpace

/-- Whether a character may stand in a comment or a string of one line. -/
def isPrintable (c : Char) : Bool := c == '\t' || (32 ≤ c.toNat && c.toNat != 127)

def skipComment : List Char → Option (List Char)
  | '#' :: cs =>
    let rest := cs.dropWhile isPrintable
    if rest.isEmpty || (lineEnd? rest).isSome then some rest else none
  | cs => some cs

def skipLines : Nat → List Char → Option (List Char)
  | 0, cs => some cs
  | fuel + 1, cs =>
    match skipComment (skipSpaces cs) with
    | none => none
    | some rest =>
      match lineEnd? rest with
      | some rest => skipLines fuel rest
      | none => some rest

/-- The end of a statement: blanks, a comment, and a line end or the end of the text. -/
def statementEnd (cs : List Char) : Option (List Char) :=
  match skipComment (skipSpaces cs) with
  | none => none
  | some [] => some []
  | some rest => lineEnd? rest

/-! ### Strings -/

def numbered? (n : Nat) (cs : List Char) : Option (Char × List Char) :=
  let ds := cs.take n
  if ds.length = n ∧ ds.all (fun c => (digitIn? 16 c).isSome) then
    let v := digitsValue 16 ds
    if v < 0xD800 ∨ (0xDFFF < v ∧ v < 0x110000) then some (Char.ofNat v, cs.drop n) else none
  else none

def escape? : List Char → Option (Char × List Char)
  | 'b' :: cs => some ('\x08', cs)
  | 't' :: cs => some ('\t', cs)
  | 'n' :: cs => some ('\n', cs)
  | 'f' :: cs => some ('\x0c', cs)
  | 'r' :: cs => some ('\r', cs)
  | 'e' :: cs => some ('\x1b', cs)
  | '"' :: cs => some ('"', cs)
  | '\\' :: cs => some ('\\', cs)
  | 'x' :: cs => numbered? 2 cs
  | 'u' :: cs => numbered? 4 cs
  | 'U' :: cs => numbered? 8 cs
  | _ => none

def basic? : Nat → List Char → Reader String
  | 0, _, _ => none
  | _, _, [] => none
  | fuel + 1, done, c :: cs =>
    if c = '"' then some (String.ofList done.reverse, cs)
    else if c = '\\' then
      match escape? cs with
      | some (x, cs) => basic? fuel (x :: done) cs
      | none => none
    else if isPrintable c then basic? fuel (c :: done) cs
    else none

def literal? (cs : List Char) : Option (String × List Char) :=
  let body := cs.takeWhile (fun c => c != '\'' && isPrintable c)
  match cs.drop body.length with
  | '\'' :: rest => some (String.ofList body, rest)
  | _ => none

def leadingQuotes (quote : Char) (cs : List Char) : Nat := (cs.takeWhile (· == quote)).length

def skipBlankLines : Nat → List Char → List Char
  | 0, cs => cs
  | fuel + 1, cs =>
    match lineEnd? (skipSpaces cs) with
    | some rest => skipBlankLines fuel rest
    | none => skipSpaces cs

/-- After a backslash at the end of a line: all blanks and line ends up to the next word, if there
is a line end among them. -/
def joinLines? (cs : List Char) : Option (List Char) :=
  (lineEnd? (skipSpaces cs)).map fun rest => skipBlankLines (rest.length + 1) rest

/-- A string of several lines, after its three opening quotes; line ends stay as they are. -/
def lines? (quote : Char) : Nat → List Char → Reader String
  | 0, _, _ => none
  | _, _, [] => none
  | fuel + 1, done, c :: cs =>
    if c = quote then
      -- Up to two quotes may stand right before the three closing ones.
      let n := leadingQuotes quote (c :: cs)
      if n < 3 then lines? quote fuel (c :: done) cs
      else if 5 < n then none
      else
        some (String.ofList (List.replicate (n - 3) quote ++ done).reverse, cs.drop (n - 1))
    else if c = '\\' ∧ quote = '"' then
      match joinLines? cs with
      | some cs => lines? quote fuel done cs
      | none =>
        match escape? cs with
        | some (x, cs) => lines? quote fuel (x :: done) cs
        | none => none
    else
      match c, cs with
      | '\r', '\n' :: cs => lines? quote fuel ('\n' :: '\r' :: done) cs
      | c, cs => if c = '\n' ∨ isPrintable c then lines? quote fuel (c :: done) cs else none

def dropFirstLineEnd (cs : List Char) : List Char := (lineEnd? cs).getD cs

def string? : Reader String
  | '"' :: '"' :: '"' :: cs => lines? '"' (cs.length + 1) [] (dropFirstLineEnd cs)
  | '\'' :: '\'' :: '\'' :: cs => lines? '\'' (cs.length + 1) [] (dropFirstLineEnd cs)
  | '"' :: cs => basic? (cs.length + 1) [] cs
  | '\'' :: cs => literal? cs
  | _ => none

/-! ### Keys -/

def isBare (c : Char) : Bool := c.isAlphanum || c == '_' || c == '-'

def simpleKey? (cs : List Char) : Option (String × List Char) :=
  match cs with
  | '"' :: rest => basic? (rest.length + 1) [] rest
  | '\'' :: rest => literal? rest
  | cs =>
    let key := cs.takeWhile isBare
    if key.isEmpty then none else some (String.ofList key, cs.drop key.length)

def keyLimit : Nat := 80

def keyParts? : Nat → Reader (List String × String)
  | 0, _ => none
  | fuel + 1, cs =>
    match simpleKey? (skipSpaces cs) with
    | none => none
    | some (k, rest) =>
      match skipSpaces rest with
      | '.' :: rest => (keyParts? fuel rest).map fun r => ((k :: r.1.1, r.1.2), r.2)
      | rest => some (([], k), rest)

def dottedKey? : Reader (List String × String) := fun cs =>
  (keyParts? (cs.length + 1) cs).filter fun r => r.1.1.length < keyLimit

/-! ### Values -/

/-- Whether a character may stand in a word: a scalar without quotes. -/
def isWordChar (c : Char) : Bool :=
  c.isAlphanum || c == '_' || c == '-' || c == '+' || c == '.' || c == ':'

/-- A scalar without quotes.  A blank may stand between a date and a time. -/
def word? (cs : List Char) : Option (Json × List Char) :=
  let word := cs.takeWhile isWordChar
  let rest := cs.drop word.length
  let joined : Option (Json × List Char) :=
    match (date? word), rest with
    | some (_, []), ' ' :: d :: more =>
      if d.isDigit then
        let time := (d :: more).takeWhile isWordChar
        (scalarOfWord? (word ++ ' ' :: time)).map (·, (d :: more).drop time.length)
      else none
    | _, _ => none
  match joined with
  | some r => some r
  | none => (scalarOfWord? word).map (·, rest)

def depthLimit : Nat := 80

/-- A key in a table between braces, and its equals sign; line ends may stand around the sign. -/
def memberKey? : Reader (List String × String) := fun cs =>
  match dottedKey? cs with
  | none => none
  | some (path, rest) =>
    match skipLines (rest.length + 1) rest with
    | some ('=' :: rest) => (skipLines (rest.length + 1) rest).map (path, ·)
    | _ => none

mutual

def value? : Nat → Nat → Reader Json
  | 0, _, _ => none
  | fuel + 1, depth, cs =>
    match cs, depth with
    | '[' :: rest, depth + 1 => items? fuel depth [] rest
    | '\x7b' :: rest, depth + 1 => members? fuel depth [] rest
    | '"' :: _, _ | '\'' :: _, _ => (string? cs).map fun r => (.text r.1, r.2)
    | _, _ => word? cs

def items? : Nat → Nat → List Json → Reader Json
  | 0, _, _, _ => none
  | fuel + 1, depth, done, cs =>
    match skipLines (cs.length + 1) cs with
    | none => none
    | some (']' :: rest) => some (.array done.reverse, rest)
    | some rest =>
      match value? fuel depth rest with
      | none => none
      | some (v, rest) =>
        match skipLines (rest.length + 1) rest with
        | some (',' :: rest) => items? fuel depth (v :: done) rest
        | some (']' :: rest) => some (.array (v :: done).reverse, rest)
        | _ => none

def members? : Nat → Nat → Members → Reader Json
  | 0, _, _, _ => none
  | fuel + 1, depth, done, cs =>
    match skipLines (cs.length + 1) cs with
    | none => none
    | some ('\x7d' :: rest) => some (.object (Node.members done), rest)
    | some rest =>
      match memberKey? rest with
      | none => none
      | some (path, rest) =>
        match value? fuel depth rest with
        | none => none
        | some (v, rest) =>
          match assign path.2 v path.1 done, skipLines (rest.length + 1) rest with
          | some done, some (',' :: rest) => members? fuel depth done rest
          | some done, some ('\x7d' :: rest) => some (.object (Node.members done), rest)
          | _, _ => none

end

/-! ### Statements -/

def assignment? : Reader ((List String × String) × Json) := fun cs =>
  match dottedKey? cs with
  | some (path, '=' :: rest) =>
    (value? (2 * rest.length + 2) depthLimit (skipSpaces rest)).map fun r => ((path, r.1), r.2)
  | _ => none

/-- The table built so far, and the path of the table that assignments go to. -/
structure Draft where
  root : Members
  current : List String

/-- A header after its opening bracket or brackets, closed by `closing`. -/
def header? (closing : List Char) (cs : List Char) : Option ((List String × String) × List Char) :=
  match dottedKey? cs with
  | none => none
  | some (path, rest) =>
    if closing.isPrefixOf rest then some (path, rest.drop closing.length) else none

def statement? (d : Draft) (cs : List Char) : Option (Draft × List Char) :=
  match cs with
  | '[' :: '[' :: rest =>
    (header? [']', ']'] rest).bind fun r =>
      (modify (addTable r.1.2) r.1.1 d.root).map fun root =>
        (⟨root, r.1.1 ++ [r.1.2]⟩, r.2)
  | '[' :: rest =>
    (header? [']'] rest).bind fun r =>
      (modify (openTable r.1.2) r.1.1 d.root).map fun root =>
        (⟨root, r.1.1 ++ [r.1.2]⟩, r.2)
  | cs =>
    (assignment? cs).bind fun r =>
      (modify (assign r.1.1.2 r.1.2 r.1.1.1) d.current d.root).map fun root =>
        ({ d with root := root }, r.2)

def statements? : Nat → Draft → List Char → Option Draft
  | 0, _, _ => none
  | fuel + 1, d, cs =>
    match skipLines (cs.length + 1) cs with
    | none => none
    | some [] => some d
    | some rest =>
      match statement? d rest with
      | none => none
      | some (d, rest) =>
        match statementEnd rest with
        | none => none
        | some rest => statements? fuel d rest

def withoutMark : List Char → List Char
  | '\ufeff' :: cs => cs
  | cs => cs

def read? (text : String) : Option Json :=
  let cs := withoutMark text.toList
  (statements? (cs.length + 1) ⟨[], []⟩ cs).map fun d => .object (Node.members d.root)

end EventBus.Toml
