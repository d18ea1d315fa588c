/-!
Records, tuples and lists as text, each part already written.

`record` closes after its last field; `openRecord` ends with two points, for a value that has more
inside than it shows.
-/

namespace EventBus.Text

def joinWith (separator : String) (parts : List String) : String :=
  separator.intercalate parts

def field (f : String × String) : String :=
  f.1 ++ ": " ++ f.2

/-- `Name` followed by its fields in braces; no braces without fields. -/
def record (name : String) (fields : List (String × String)) : String :=
  if fields.isEmpty then name
  else name ++ " \x7b " ++ joinWith ", " (fields.map field) ++ " \x7d"

def openRecord (name : String) (fields : List (String × String)) : String :=
  name ++ " \x7b " ++ joinWith ", " (fields.map field ++ [".."]) ++ " \x7d"

/-- `Name` followed by its parts in parentheses; no parentheses without parts. -/
def tuple (name : String) (parts : List String) : String :=
  if parts.isEmpty then name else name ++ "(" ++ joinWith ", " parts ++ ")"

def list (parts : List String) : String :=
  "[" ++ joinWith ", " parts ++ "]"

def option : Option String → String
  | none => "None"
  | some s => tuple "Some" [s]

def truth (b : Bool) : String :=
  if b then "true" else "false"

end EventBus.Text
