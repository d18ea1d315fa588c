import EventBus.Json.Reader
import EventBus.Settings.Basic

/-!
Settings written as JSON.

Settings are an object with the members `identifier` and `dispatch`, or a list of the two; what is
missing has its default, and other members do not count.  A dispatch mode is its keyword, or an
object with the keyword as its only key.

`Settings.ofJson` reads a value, and meets the members of an object in the order of their keys.
`Settings.ofText` reads a text from left to right and stops at the first fault, be it one of the
text or one of its contents.
-/

namespace EventBus.Settings

def wanted : String := "struct EventBusConfig"

def modeKeywords : List String := [DispatchMode.queued.keyword, DispatchMode.immediate.keyword]

def modeNamed (name : String) : Except Mismatch DispatchMode :=
  match DispatchMode.ofKeyword? name with
  | some mode => .ok mode
  | none => .error (.unknownVariant name modeKeywords)

/-! ### From a value -/

def identifierOf : Json → Except Mismatch String
  | .text s => .ok s
  | v => .error (.invalidType v.found "a string")

def modeOf : Json → Except Mismatch DispatchMode
  | .text s => modeNamed s
  | .object [(name, v)] =>
    match modeNamed name, v with
    | .error e, _ => .error e
    | .ok mode, .null => .ok mode
    | .ok _, v => .error (.invalidType v.found "unit")
  | .object _ => .error (.invalidValue .map "map with a single key")
  | v => .error (.invalidType v.found "string or map")

def takeMember (s : Settings) (key : String) (v : Json) : Except Mismatch Settings :=
  if key = "identifier" then (identifierOf v).map fun t => { s with identifier := t }
  else if key = "dispatch" then (modeOf v).map fun m => { s with dispatch := m }
  else .ok s

def takeMembers (s : Settings) : List (String × Json) → Except Mismatch Settings
  | [] => .ok s
  | (key, v) :: rest =>
    match takeMember s key v with
    | .error e => .error e
    | .ok s => takeMembers s rest

def takeItems : List Json → Except Mismatch Settings
  | [] => .ok default
  | [v] => takeMember default "identifier" v
  | v :: w :: rest =>
    match takeMember default "identifier" v with
    | .error e => .error e
    | .ok s =>
      match takeMember s "dispatch" w with
      | .error e => .error e
      | .ok s =>
        if rest.isEmpty then .ok s
        else .error (.invalidLength (rest.length + 2) "fewer elements in array")

def ofJson : Json → Except Mismatch Settings
  | .object members => takeMembers default members
  | .array vs => takeItems vs
  | v => .error (.invalidType v.found wanted)

/-! ### From a text -/

open Json (Bytes Scan Fault fault faultAt front skipGaps)

/-- A value of a kind that is not wanted: what it is found to be is the fault. -/
def refuse {α : Type} (expected : String) (s : Bytes) : Except Fault α :=
  match front s with
  | some '[' => fault (.mismatch (.invalidType .sequence expected)) s
  | some '\x7b' => fault (.mismatch (.invalidType .map expected)) s
  | some c =>
    match Json.scalarFrom c s with
    | .error e => .error e
    | .ok (v, s) => fault (.mismatch (.invalidType v.found expected)) s
  | none => faultAt .expectedValue s

def readText (expected : String) (s : Bytes) : Scan String :=
  let s := skipGaps s
  match front s with
  | none => faultAt .endOfValue s
  | some '"' => Json.string (s.drop 1)
  | some _ => refuse expected s

def readModeName (s : Bytes) : Scan DispatchMode :=
  match readText "variant identifier" s with
  | .error e => .error e
  | .ok (name, s) =>
    match modeNamed name with
    | .ok mode => .ok (mode, s)
    | .error m => fault (.mismatch m) s

def readNull (s : Bytes) : Except Fault Bytes :=
  let s := skipGaps s
  match front s with
  | none => faultAt .endOfValue s
  | some 'n' => Json.word ['u', 'l', 'l'] (s.drop 1)
  | some _ => refuse "unit" s

def readModeKey (s : Bytes) : Scan DispatchMode :=
  let s := skipGaps s
  match front s with
  | some '"' => readModeName s
  | some '\x7d' => faultAt .expectedValue s
  | some _ => faultAt .keyNotText s
  | none => faultAt .endOfObject s

def readMode (s : Bytes) : Scan DispatchMode :=
  let s := skipGaps s
  match front s with
  | none => faultAt .endOfValue s
  | some '"' => readModeName s
  | some '\x7b' =>
    match readModeKey (s.drop 1) with
    | .error e => .error e
    | .ok (mode, s) =>
      match Json.colon s with
      | .error e => .error e
      | .ok s =>
        match readNull s with
        | .error e => .error e
        | .ok s =>
          let s := skipGaps s
          match front s with
          | some '\x7d' => .ok (mode, s.drop 1)
          | some _ => fault .expectedValue s
          | none => fault .endOfObject s
  | some _ => faultAt .expectedValue s

/-- A second member of one key: the fault is noticed where the object would have to end. -/
def repeatedMember {α : Type} (key : String) (s : Bytes) : Except Fault α :=
  let s := skipGaps s
  fault (.mismatch (.duplicateField key)) (if front s = some '\x7d' then s.drop 1 else s)

/-- Reads the members of an object; of the two members, those present have been read. -/
def readMembers : Nat → Bool → Option String → Option DispatchMode → Bytes → Scan Settings
  | 0, _, _, _, s => fault .tooDeep s
  | fuel + 1, first, identifier, mode, s =>
    match Json.nextKey first s with
    | .error e => .error e
    | .ok (none, s) =>
      let settings : Settings :=
        ⟨identifier.getD default.identifier, mode.getD default.dispatch⟩
      (Json.objectEnd s).map (settings, ·)
    | .ok (some key, s) =>
      if key = "identifier" then
        if identifier.isSome then repeatedMember key s
        else
          match Json.colon s with
          | .error e => .error e
          | .ok s =>
            match readText "a string" s with
            | .error e => .error e
            | .ok (t, s) => readMembers fuel false (some t) mode s
      else if key = "dispatch" then
        if mode.isSome then repeatedMember key s
        else
          match Json.colon s with
          | .error e => .error e
          | .ok s =>
            match readMode s with
            | .error e => .error e
            | .ok (m, s) => readMembers fuel false identifier (some m) s
      else
        match Json.colon s with
        | .error e => .error e
        | .ok s =>
          match Json.skipValue s with
          | .error e => .error e
          | .ok s => readMembers fuel false identifier mode s

/-- Reads the items of a list: an identifier and a mode, as far as they are there. -/
def readItems (s : Bytes) : Scan Settings :=
  match Json.nextItem true s with
  | .error e => .error e
  | .ok (false, s) => (Json.listEnd s).map (default, ·)
  | .ok (true, s) =>
    match readText "a string" s with
    | .error e => .error e
    | .ok (t, s) =>
      match Json.nextItem false s with
      | .error e => .error e
      | .ok (false, s) => (Json.listEnd s).map (⟨t, default.dispatch⟩, ·)
      | .ok (true, s) =>
        match readMode s with
        | .error e => .error e
        | .ok (m, s) => (Json.listEnd s).map (⟨t, m⟩, ·)

def readSettings (s : Bytes) : Scan Settings :=
  let s := skipGaps s
  match front s with
  | none => faultAt .endOfValue s
  | some '[' => readItems (s.drop 1)
  | some '\x7b' => readMembers (s.length + 1) true none none (s.drop 1)
  | some _ => refuse wanted s

def ofText (text : String) : Except String Settings :=
  let bs := Json.bytesOf text
  let result : Except Fault Settings :=
    match readSettings bs with
    | .error e => .error e
    | .ok (s, rest) => (Json.textEnd rest).map fun _ => s
  result.mapError (Fault.message bs)

end EventBus.Settings
