import EventBus.Settings.Tree
import EventBus.Table

/-!
Settings from environment variables.

A variable counts if its name starts with the prefix and two underscores, in any case.  What
follows is the key, in lower case: two underscores stand for the point of a path, and in each step
of the path the words are joined by single underscores.
-/

namespace EventBus.Settings.Environment

def namePrefix : String := "HERALD"

def origin : String := "the environment"

def separate : List Char → List Char
  | '_' :: '_' :: cs => '.' :: separate cs
  | c :: cs => c :: separate cs
  | [] => []

/-- Whether a word ends between two characters: a letter and a digit. -/
def wordBreak (a b : Char) : Bool :=
  (a.isDigit && b.isAlpha) || (a.isAlpha && b.isDigit)

def isJoint (c : Char) : Bool := c == '_' || c == '-' || c == ' '

/-- The words of a key; `word` holds the one being read, last character first. -/
def words (word : List Char) : List Char → List (List Char)
  | [] => [word.reverse]
  | c :: cs =>
    if isJoint c then word.reverse :: words [] cs
    else
      match word with
      | [] => words [c] cs
      | a :: _ => if wordBreak a c then word.reverse :: words [c] cs else words (c :: word) cs

def snakeCase (cs : List Char) : String :=
  "_".intercalate (((words [] cs).filter (fun w => !w.isEmpty)).map String.ofList)

/-- The steps of a path, between its points; `step` holds the one being read, last character
first. -/
def steps (step : List Char) : List Char → List (List Char)
  | [] => [step.reverse]
  | c :: cs => if c == '.' then step.reverse :: steps [] cs else steps (c :: step) cs

/-- A character in lower case.  Of the letters beyond ASCII only the Kelvin sign matters, which
becomes a `k`: a key with any other is no path. -/
def lower (c : Char) : Char := if c = '\u212a' then 'k' else c.toLower

def keyOf? (name : String) : Option String :=
  let start := (namePrefix ++ "__").toList.map lower
  let cs := name.toList.map lower
  if start.isPrefixOf cs then
    some (".".intercalate ((steps [] (separate (cs.drop start.length))).map snakeCase))
  else none

/-- The variables that are set: of two with one name the later one counts. -/
def assigned (environment : List (String × String)) : List (String × String) :=
  (environment.foldl (fun t v => t.set v.1 v.2) (Table.empty : Table String String)).entries

def source (environment : List (String × String)) : List (String × Tree) :=
  ((assigned environment).foldl
    (fun t v =>
      match keyOf? v.1 with
      | some key => t.set key (.text (some origin) v.2)
      | none => t)
    (Table.empty : Table String Tree)).entries

end EventBus.Settings.Environment
