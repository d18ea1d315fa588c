import EventBus.Json.Basic

/-!
Settings from several sources, laid over one another.

A `Tree` holds what the sources say, and each scalar and list remembers the source it comes from.
A source is laid over a tree key by key: tables are merged, anything else takes the place of what
was there.  A key of a source may be a path (`a.b[0]`); a key that is no path stands for itself.
-/

namespace EventBus.Settings

/-- What sources say. -/
inductive Tree where
  | null (origin : Option String)
  | bool (origin : Option String) (b : Bool)
  | whole (origin : Option String) (n : Int)
  | float (origin : Option String) (x : Number.Binary)
  | text (origin : Option String) (s : String)
  | list (origin : Option String) (items : List Tree)
  | table (members : List (String × Tree))

namespace Tree

mutual

def ofJson (origin : String) : Json → Tree
  | .null => .null (some origin)
  | .bool b => .bool (some origin) b
  | .whole n => .whole (some origin) n
  | .float x => .float (some origin) x
  | .text s => .text (some origin) s
  | .array items => .list (some origin) (ofItems origin items)
  | .object ms => .table (ofMembers origin ms)

def ofItems (origin : String) : List Json → List Tree
  | [] => []
  | v :: vs => ofJson origin v :: ofItems origin vs

def ofMembers (origin : String) : List (String × Json) → List (String × Tree)
  | [] => []
  | m :: ms => ofMember origin m :: ofMembers origin ms

def ofMember (origin : String) : String × Json → String × Tree
  | (k, v) => (k, ofJson origin v)

end

/-- The members of a table; anything else counts as a table without members. -/
def members : Tree → List (String × Tree)
  | table ms => ms
  | _ => []

/-- The items of a list; anything else counts as a list without items. -/
def items : Tree → List Tree
  | list _ ts => ts
  | _ => []

def update (k : String) (change : Option Tree → Tree) :
    List (String × Tree) → List (String × Tree)
  | [] => [(k, change none)]
  | m :: ms => if m.1 = k then (k, change (some m.2)) :: ms else m :: update k change ms

mutual

def lay (upper : Tree) (lower : Option Tree) : Tree :=
  match upper with
  | .table ms => .table (layMembers ms ((lower.map members).getD []))
  | t => t

def layMembers : List (String × Tree) → List (String × Tree) → List (String × Tree)
  | [], lower => lower
  | m :: ms, lower => layMembers ms (layMember m lower)

def layMember : String × Tree → List (String × Tree) → List (String × Tree)
  | (k, t), lower => update k (lay t) lower

end

/-- A step of a path: into a table or into a list. -/
inductive PathStep where
  | key (k : String)
  | index (i : Int)
deriving DecidableEq, Repr

def isPathChar (c : Char) : Bool := c.isAlphanum || c == '_' || c == '-'

def isIndex (i : Int) : Bool := -0x8000000000000000 ≤ i && i < 0x8000000000000000

/-- A number in brackets, read up to its closing bracket; blanks and tabs around it do not count. -/
def index? (cs : List Char) : Option Int :=
  let isGap (c : Char) : Bool := c == ' ' || c == '\t'
  match ((cs.dropWhile isGap).reverse.dropWhile isGap).reverse with
  | '+' :: _ => none
  | digits => (Number.readInt? digits).filter isIndex

def pathRest? : Nat → List Char → Option (List PathStep)
  | 0, _ => none
  | _, [] => some []
  | fuel + 1, '.' :: cs =>
    let key := cs.takeWhile isPathChar
    if key.isEmpty then none
    else
      (pathRest? fuel (cs.drop key.length)).map (.key (String.ofList key) :: ·)
  | fuel + 1, '[' :: cs =>
    let inside := cs.takeWhile (· != ']')
    match cs.drop inside.length, index? inside with
    | ']' :: rest, some i => (pathRest? fuel rest).map (.index i :: ·)
    | _, _ => none
  | _, _ => none

def pathOf (key : String) : List PathStep :=
  match pathRest? (key.length + 2) ('.' :: key.toList) with
  | some path => path
  | none => [.key key]

/-- A list with one item changed; it is filled up to the item if needed.  Negative indices count
from the end. -/
def updateItem (i : Int) (change : Option Tree → Tree) (ts : List Tree) : List Tree :=
  let i := if i < 0 then i + (ts.length : Int) else i
  if i < 0 then
    change none :: List.replicate ((-i).toNat - 1) (.null none) ++ ts
  else
    let n := i.toNat
    let filled := ts ++ List.replicate (n + 1 - ts.length) (.null none)
    filled.mapIdx fun k t => if k = n then change (some t) else t

def layAt (upper : Tree) : List PathStep → Option Tree → Tree
  | [], lower => lay upper lower
  | .key k :: path, lower =>
    .table (update k (layAt upper path) ((lower.map members).getD []))
  | .index i :: path, lower =>
    let origin := match lower with
      | some (.list o _) => o
      | _ => none
    .list origin (updateItem i (layAt upper path) ((lower.map items).getD []))

def laySource (lower : Tree) (source : List (String × Tree)) : Tree :=
  source.foldl (fun t m => layAt m.2 (pathOf m.1) (some t)) lower

end Tree

end EventBus.Settings
