import EventBus.Number.Text
import EventBus.Text.Quoted

/-!
JSON values.

Numbers keep whether they were written as whole numbers.  The members of an object are in the
order of their keys' bytes, each key once.
-/

namespace EventBus

/-- A JSON value. -/
inductive Json where
  | null
  | bool (b : Bool)
  | whole (n : Int)
  | float (x : Number.Binary)
  | text (s : String)
  | array (items : List Json)
  | object (members : List (String × Json))

namespace Json

/-- What a value is found to be where another kind is wanted. -/
inductive Found where
  | null
  | bool (b : Bool)
  | whole (n : Int)
  | float (x : Number.Binary)
  | text (s : String)
  | sequence
  | map
deriving DecidableEq, Repr

def found : Json → Found
  | null => .null
  | bool b => .bool b
  | whole n => .whole n
  | float x => .float x
  | text s => .text s
  | array _ => .sequence
  | object _ => .map

/-- Fractions are written with an exponent from `10 ^ 16` on and below `10 ^ -5`; a half goes to the
even digit, and the exponent has its sign. -/
def layout : Number.Layout := ⟨.even, -4, true⟩

def floatText (x : Number.Binary) : String := x.compact .double layout

def Found.words : Found → String
  | .null => "null"
  | .bool b => "boolean `" ++ (if b then "true" else "false") ++ "`"
  | .whole n => "integer `" ++ Number.intText n ++ "`"
  | .float x => "floating point `" ++ floatText x ++ "`"
  | .text s => "string " ++ Text.quote s
  | .sequence => "sequence"
  | .map => "map"

def member? (key : String) : Json → Option Json
  | object members => members.lookup key
  | _ => none

/-- The members with one more, in its place; the value of a key that is there is replaced. -/
def insertMember (key : String) (value : Json) : List (String × Json) → List (String × Json)
  | [] => [(key, value)]
  | (k, v) :: rest =>
    if key = k then (key, value) :: rest
    else if key < k then (key, value) :: (k, v) :: rest
    else (k, v) :: insertMember key value rest

end Json

/-- Why a value cannot be read as what it is wanted for. -/
inductive Mismatch where
  | invalidType (found : Json.Found) (expected : String)
  | invalidValue (found : Json.Found) (expected : String)
  | invalidLength (length : Nat) (expected : String)
  | unknownVariant (name : String) (known : List String)
  | duplicateField (name : String)
deriving DecidableEq, Repr

def alternatives : List String → String
  | [] => ""
  | [a] => "`" ++ a ++ "`"
  | [a, b] => "`" ++ a ++ "` or `" ++ b ++ "`"
  | names => "one of " ++ ", ".intercalate (names.map fun a => "`" ++ a ++ "`")

def Mismatch.message : Mismatch → String
  | .invalidType found expected => "invalid type: " ++ found.words ++ ", expected " ++ expected
  | .invalidValue found expected => "invalid value: " ++ found.words ++ ", expected " ++ expected
  | .invalidLength n expected =>
    "invalid length " ++ Number.natText n ++ ", expected " ++ expected
  | .unknownVariant name known =>
    "unknown variant `" ++ name ++ "`, expected " ++ alternatives known
  | .duplicateField name => "duplicate field `" ++ name ++ "`"

end EventBus
