import EventBus.Error
import EventBus.Json.Reader
import EventBus.Settings.Basic
import EventBus.Settings.Environment
import EventBus.Toml.Statement

/-!
Settings from a file and the environment.

The format of a file follows from its extension.  Environment variables are laid over the file.
`Settings.load` gives the settings or an error, which says whether putting the sources together
failed or reading the settings from them.
-/

namespace EventBus.Settings

/-- A format of settings files. -/
inductive FileFormat where
  | toml | json
deriving DecidableEq, Repr

/-- A file and what is in it. -/
structure File where
  name : String
  content : Option String
deriving Repr

namespace File

/-- The parts of a name between slashes; `part` holds the one being read, last character first. -/
def parts (part : List Char) : List Char → List (List Char)
  | [] => [part.reverse]
  | c :: cs => if c == '/' then part.reverse :: parts [] cs else parts (c :: part) cs

/-- The parts that lead to a file: without those that stay where they are. -/
def route (name : String) : List (List Char) :=
  (parts [] name.toList).filter fun part => !(part.isEmpty || part == ['.'])

def origin (name : String) : String := "/".intercalate ((route name).map String.ofList)

/-- The extension of a name: what follows the last point of its last part, unless that is the first
character. -/
def extension (name : String) : String :=
  let cs := (route name).getLastD []
  let tail := (cs.reverse.takeWhile (· != '.')).reverse
  if tail.length + 1 < cs.length then String.ofList tail else ""

def format? (name : String) : Option FileFormat :=
  match extension name with
  | "toml" => some .toml
  | "json" => some .json
  | _ => none

end File

/-- Why the sources could not be put together. -/
inductive SourceError where
  | notFound (name : String)
  | unknownFormat (name : String)
  | malformed (reason name : String)
  | notTable (found : Json.Found) (name : String)
deriving DecidableEq, Repr

def foundWords : Json.Found → String
  | .null => "unit value"
  | .bool b => "boolean `" ++ Text.truth b ++ "`"
  | .whole n =>
    (if n < 0x8000000000000000 then "64-bit integer `" else "64-bit unsigned integer `") ++
      Number.intText n ++ "`"
  | .float x => "floating point `" ++ x.positional .double ++ "`"
  | .text s => "string " ++ Text.quote s
  | .sequence => "sequence"
  | .map => "map"

namespace SourceError

def message : SourceError → String
  | notFound name => "configuration file \"" ++ name ++ "\" not found"
  | unknownFormat name =>
    "configuration file \"" ++ name ++ "\" is not of a supported file format"
  | malformed reason name => reason ++ " in " ++ name
  | notTable found name =>
    "invalid type: " ++ foundWords found ++ ", expected a map in " ++ name ++ " in " ++ name

end SourceError

/-- Why settings could not be read from the sources. -/
inductive ReadError where
  | kind (found : Json.Found) (key : String) (origin : Option String)
  | unknownMode (name : String)
  | notMode
deriving DecidableEq, Repr

namespace ReadError

def message : ReadError → String
  | kind found key origin =>
    "invalid type: " ++ foundWords found ++ ", expected a string for key `" ++ key ++ "`" ++
      (match origin with
        | some o => " in " ++ o
        | none => "")
  | unknownMode name =>
    "enum DispatchMode does not have variant constructor " ++ name ++ " for key `dispatch`"
  | notMode =>
    "value of enum DispatchMode should be represented by either string or table with exactly " ++
      "one key for key `dispatch`"

end ReadError

/-- The bytes that may open a text to mark its encoding, as a character. -/
def encodingMark : Char := '\ufeff'

def withoutMark (s : String) : String :=
  match s.toList with
  | c :: cs => if c = encodingMark then String.ofList cs else s
  | [] => s

def fileValue (format : FileFormat) (name text : String) : Except SourceError Json :=
  let text := withoutMark text
  match format with
  | .json =>
    match Json.ofText text with
    | .ok v => .ok v
    | .error e => .error (.malformed (e.message (Json.bytesOf text)) (File.origin name))
  | .toml =>
    match Toml.read? text with
    | some v => .ok v
    | none => .error (.malformed "TOML parse error" (File.origin name))

def File.source (f : File) : Except SourceError (List (String × Tree)) :=
  match f.content with
  | none => .error (.notFound f.name)
  | some text =>
    match File.format? f.name with
    | none => .error (.unknownFormat f.name)
    | some format =>
      match fileValue format f.name text with
      | .error e => .error e
      | .ok (.object ms) => .ok (Tree.ofMembers (File.origin f.name) ms)
      | .ok v => .error (.notTable v.found (File.origin f.name))

def gather (f : File) (environment : List (String × String)) : Except SourceError Tree :=
  f.source.map fun source =>
    ((Tree.table []).laySource source).laySource (Environment.source environment)

/-- The identifier that a tree gives; plain values are taken as their text. -/
def identifierFrom : Tree → Except ReadError String
  | .text _ s => .ok s
  | .bool _ b => .ok (Text.truth b)
  | .whole _ n => .ok (Number.intText n)
  | .float _ x => .ok (x.positional .double)
  | .null o => .error (.kind .null "identifier" o)
  | .list o _ => .error (.kind .sequence "identifier" o)
  | .table _ => .error (.kind .map "identifier" none)

def modeFrom (name : String) : Except ReadError DispatchMode :=
  match DispatchMode.ofKeyword? name with
  | some mode => .ok mode
  | none => .error (.unknownMode name)

/-- The mode that a tree gives: its keyword, or a table with the keyword as its only key. -/
def dispatchFrom : Tree → Except ReadError DispatchMode
  | .text _ s => modeFrom s
  | .table [(name, _)] => modeFrom name
  | _ => .error .notMode

/-- The settings that a tree gives; what is missing has its default. -/
def ofTree (t : Tree) : Except ReadError Settings :=
  let dispatch : Except ReadError DispatchMode :=
    match t.members.lookup "dispatch" with
    | some v => dispatchFrom v
    | none => .ok default.dispatch
  let identifier : Except ReadError String :=
    match t.members.lookup "identifier" with
    | some v => identifierFrom v
    | none => .ok default.identifier
  match dispatch, identifier with
  | .ok d, .ok i => .ok ⟨i, d⟩
  | .error e, _ => .error e
  | _, .error e => .error e

def load (f : File) (environment : List (String × String)) : Except BusError Settings :=
  match gather f environment with
  | .error e => .error (.settings (.other e.message) (some "Failed to build config"))
  | .ok t =>
    match ofTree t with
    | .error e => .error (.settings (.other e.message) (some "Failed to deserialize config"))
    | .ok s => .ok s

end EventBus.Settings
