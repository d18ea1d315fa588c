import EventBus.Toml.Scalar

/-!
Tables of a TOML text while it is read.

A table may be opened by a header once, and may grow through dotted keys as long as no header has
opened it; a table that has grown so cannot be opened by a header any more.  Values between
brackets or braces are closed.  A statement that breaks these rules has no result.
-/

namespace EventBus.Toml

/-- How a table came to be. -/
inductive TableKind where
  | implied
  | headed
  | dotted
deriving DecidableEq, Repr

/-- What a key stands for. -/
inductive Node where
  | value (v : Json)
  | table (kind : TableKind) (members : List (String × Node))
  | tables (closed : List (List (String × Node))) (last : List (String × Node))

abbrev Members := List (String × Node)

mutual

def Node.json : Node → Json
  | .value v => v
  | .table _ ms => .object (Node.members ms)
  | .tables closed last => .array (Node.lists closed ++ [.object (Node.members last)])

def Node.members : List (String × Node) → List (String × Json)
  | [] => []
  | m :: ms => Json.insertMember m.1 (Node.member m) (Node.members ms)

def Node.member : String × Node → Json
  | (_, n) => Node.json n

def Node.lists : List (List (String × Node)) → List Json
  | [] => []
  | t :: ts => .object (Node.members t) :: Node.lists ts

end

def find? (k : String) (ms : Members) : Option Node := ms.lookup k

def put (k : String) (n : Node) : Members → Members
  | [] => [(k, n)]
  | m :: ms => if m.1 = k then (k, n) :: ms else m :: put k n ms

/-- Changes the table at the end of a path of headers; tables missing on the way are made. -/
def modify (change : Members → Option Members) : List String → Members → Option Members
  | [], ms => change ms
  | k :: ks, ms =>
    match find? k ms with
    | none => (modify change ks []).map fun sub => put k (.table .implied sub) ms
    | some (.table kind sub) => (modify change ks sub).map fun sub => put k (.table kind sub) ms
    | some (.tables closed last) =>
      (modify change ks last).map fun last => put k (.tables closed last) ms
    | some (.value _) => none

def openTable (k : String) (ms : Members) : Option Members :=
  match find? k ms with
  | none => some (put k (.table .headed []) ms)
  | some (.table .implied sub) => some (put k (.table .headed sub) ms)
  | some _ => none

def addTable (k : String) (ms : Members) : Option Members :=
  match find? k ms with
  | none => some (put k (.tables [] []) ms)
  | some (.tables closed last) => some (put k (.tables (closed ++ [last]) []) ms)
  | some _ => none

/-- Gives a value to the key at the end of a dotted path.  The path may lead through the last table
of a list, but the key may not be one of that table itself. -/
def assign (last : String) (v : Json) : List String → Members → Option Members
  | [], ms =>
    match find? last ms with
    | none => some (put last (.value v) ms)
    | some _ => none
  | k :: ks, ms =>
    match find? k ms with
    | none => (assign last v ks []).map fun sub => put k (.table .dotted sub) ms
    | some (.table .headed _) => none
    | some (.table _ sub) => (assign last v ks sub).map fun sub => put k (.table .dotted sub) ms
    | some (.tables closed grown) =>
      match ks with
      | [] => none
      | _ => (assign last v ks grown).map fun grown => put k (.tables closed grown) ms
    | some (.value _) => none

end EventBus.Toml
