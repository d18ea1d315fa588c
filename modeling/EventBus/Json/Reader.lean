import EventBus.Json.Scan

/-!
Reading whole JSON values.

`Json.ofText` reads a text that holds one value and nothing else.  `skipValue` checks that a value
comes next and passes over it.
-/

namespace EventBus.Json

def depthLimit : Nat := 127

def listEnd (s : Bytes) : Except Fault Bytes :=
  let s := skipGaps s
  match front s with
  | some ']' => .ok (s.drop 1)
  | some ',' =>
    let s := skipGaps (s.drop 1)
    match front s with
    | some ']' => faultAt .trailingComma s
    | _ => faultAt .trailingCharacters s
  | some _ => faultAt .trailingCharacters s
  | none => faultAt .endOfList s

def nextItem (first : Bool) (s : Bytes) : Scan Bool :=
  let s := skipGaps s
  match front s with
  | some ']' => .ok (false, s)
  | some c =>
    if first then .ok (true, s)
    else if c = ',' then
      let s := skipGaps (s.drop 1)
      match front s with
      | some ']' => faultAt .trailingComma s
      | some _ => .ok (true, s)
      | none => faultAt .endOfValue s
    else faultAt .expectedListEnd s
  | none => faultAt .endOfList s

def objectEnd (s : Bytes) : Except Fault Bytes :=
  let s := skipGaps s
  match front s with
  | some '\x7d' => .ok (s.drop 1)
  | some ',' => faultAt .trailingComma s
  | some _ => faultAt .trailingCharacters s
  | none => faultAt .endOfObject s

/-- The next key of an object and the bytes after it, or no key at its end. -/
def nextKey (first : Bool) (s : Bytes) : Scan (Option String) :=
  let s := skipGaps s
  let key (s : Bytes) : Scan (Option String) :=
    match string (s.drop 1) with
    | .error e => .error e
    | .ok (k, s) => .ok (some k, s)
  match front s with
  | some '\x7d' => .ok (none, s)
  | some c =>
    if first then
      if c = '"' then key s else faultAt .keyNotText s
    else if c = ',' then
      let s := skipGaps (s.drop 1)
      match front s with
      | some '"' => key s
      | some '\x7d' => faultAt .trailingComma s
      | some _ => faultAt .keyNotText s
      | none => faultAt .endOfValue s
    else faultAt .expectedObjectEnd s
  | none => faultAt .endOfObject s

def colon (s : Bytes) : Except Fault Bytes :=
  let s := skipGaps s
  match front s with
  | some ':' => .ok (s.drop 1)
  | some _ => faultAt .expectedColon s
  | none => faultAt .endOfObject s

/-- A value that is neither a list nor an object, of which the first character is given. -/
def scalarFrom (c : Char) (s : Bytes) : Scan Json :=
  match c with
  | 'n' => (word ['u', 'l', 'l'] (s.drop 1)).map (.null, ·)
  | 't' => (word ['r', 'u', 'e'] (s.drop 1)).map (.bool true, ·)
  | 'f' => (word ['a', 'l', 's', 'e'] (s.drop 1)).map (.bool false, ·)
  | '-' => number false (s.drop 1)
  | '"' => (string (s.drop 1)).map fun r => (.text r.1, r.2)
  | _ => if digitAhead s then number true s else faultAt .expectedValue s

mutual

def value : Nat → Nat → Bytes → Scan Json
  | 0, _, s => fault .tooDeep s
  | fuel + 1, depth, s =>
    let s := skipGaps s
    match front s with
    | none => faultAt .endOfValue s
    | some '[' =>
      match depth with
      | 0 => faultAt .tooDeep s
      | depth + 1 => items fuel depth true [] (s.drop 1)
    | some '\x7b' =>
      match depth with
      | 0 => faultAt .tooDeep s
      | depth + 1 => members fuel depth true [] (s.drop 1)
    | some c => scalarFrom c s

/-- Reads the rest of a list; `done` holds the items read, last first. -/
def items : Nat → Nat → Bool → List Json → Bytes → Scan Json
  | 0, _, _, _, s => fault .tooDeep s
  | fuel + 1, depth, first, done, s =>
    match nextItem first s with
    | .error e => .error e
    | .ok (false, s) => (listEnd s).map (.array done.reverse, ·)
    | .ok (true, s) =>
      match value fuel depth s with
      | .error e => .error e
      | .ok (v, s) => items fuel depth false (v :: done) s

def members : Nat → Nat → Bool → List (String × Json) → Bytes → Scan Json
  | 0, _, _, _, s => fault .tooDeep s
  | fuel + 1, depth, first, done, s =>
    match nextKey first s with
    | .error e => .error e
    | .ok (none, s) => (objectEnd s).map (.object done, ·)
    | .ok (some key, s) =>
      match colon s with
      | .error e => .error e
      | .ok s =>
        match value fuel depth s with
        | .error e => .error e
        | .ok (v, s) => members fuel depth false (insertMember key v done) s

end

def textEnd (s : Bytes) : Except Fault Unit :=
  let s := skipGaps s
  if s.isEmpty then .ok () else faultAt .trailingCharacters s

def ofBytes (bs : Bytes) : Except Fault Json :=
  match value (2 * bs.length + 2) depthLimit bs with
  | .error e => .error e
  | .ok (v, s) => (textEnd s).map fun _ => v

def ofText (s : String) : Except Fault Json := ofBytes (bytesOf s)

/-! ### Passing over a value -/

/-- Goes back out of lists and objects that end here, until another item is due.  `nested` are the
closing brackets still to come, innermost first; nothing is due when none is left. -/
def leaveNested (due : Bool) : List Char → Bytes → Scan (List Char)
  | [], s => .ok ([], s)
  | close :: outer, s =>
    let s := skipGaps s
    match front s with
    | none => faultAt (if close = ']' then .endOfList else .endOfObject) s
    | some c =>
      if due && c == ',' then .ok (close :: outer, s.drop 1)
      else if c = close then leaveNested true outer (s.drop 1)
      else if due then
        faultAt (if close = ']' then .expectedListEnd else .expectedObjectEnd) s
      else .ok (close :: outer, s)

def skipKey (s : Bytes) : Except Fault Bytes :=
  let s := skipGaps s
  match front s with
  | none => faultAt .endOfObject s
  | some '"' =>
    match skipString (s.length + 1) (s.drop 1) with
    | .error e => .error e
    | .ok s => colon s
  | some _ => faultAt .keyNotText s

def skipScalar (c : Char) (s : Bytes) : Except Fault Bytes :=
  match c with
  | 'n' => word ['u', 'l', 'l'] (s.drop 1)
  | 't' => word ['r', 'u', 'e'] (s.drop 1)
  | 'f' => word ['a', 'l', 's', 'e'] (s.drop 1)
  | '-' => skipNumber (s.drop 1)
  | '"' => skipString (s.length + 1) (s.drop 1)
  | _ => if digitAhead s then skipNumber s else faultAt .expectedValue s

/-- Passes over the values that are due inside the lists and objects `nested`. -/
def skipNested : Nat → List Char → Bytes → Except Fault Bytes
  | 0, _, s => fault .tooDeep s
  | fuel + 1, nested, s =>
    let s := skipGaps s
    let entered : Scan (List Char) :=
      match front s with
      | none => faultAt .endOfValue s
      | some '[' => leaveNested false (']' :: nested) (s.drop 1)
      | some '\x7b' => leaveNested false ('\x7d' :: nested) (s.drop 1)
      | some c =>
        match skipScalar c s with
        | .error e => .error e
        | .ok s => leaveNested true nested s
    match entered with
    | .error e => .error e
    | .ok ([], s) => .ok s
    | .ok (close :: outer, s) =>
      if close = '\x7d' then
        match skipKey s with
        | .error e => .error e
        | .ok s => skipNested fuel (close :: outer) s
      else skipNested fuel (close :: outer) s

def skipValue (s : Bytes) : Except Fault Bytes := skipNested (s.length + 1) [] s

end EventBus.Json
