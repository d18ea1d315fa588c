import Mathlib
import EventBus.Derive.EventCode

/-!
# What event attributes say

The arguments of an `event` attribute are pieces between commas. `Field.isMarked` and
`Item.implementsTypes` read them off as they are written: a field is marked by a piece that is the
word `parent` alone, and an item lists types after the word `implements`. `isMarked_of_marksParent`
and `implementsTypes_of_implemented` say that the checks, if they pass, find just this.
-/

namespace EventBus.Derive

/-- What comes of two checks is accepted if both are. -/
lemma bind_eq_ok {α β ε : Type} {r : Except ε α} {next : α → Except ε β} {b : β} :
    r >>= next = .ok b ↔ ∃ a, r = .ok a ∧ next a = .ok b := by
  cases r with
  | error m =>
    constructor
    · rintro ⟨⟩
    · rintro ⟨_, ⟨⟩, _⟩
  | ok a =>
    constructor
    · intro ok
      exact ⟨a, rfl, ok⟩
    · rintro ⟨_, ⟨⟩, ok⟩
      exact ok

/-- A check that has passed is followed by the next one. -/
lemma ok_bind {α β ε : Type} {a : α} {next : α → Except ε β} :
    Except.ok a >>= next = next a :=
  rfl

/-- A misreading is passed on as it is. -/
lemma orMisread_eq_ok {α : Type} {r : Except Misreading α} {a : α} :
    orMisread r = .ok a ↔ r = .ok a := by
  cases r with
  | error m =>
    constructor
    · rintro ⟨⟩
    · rintro ⟨⟩
  | ok b =>
    constructor
    · rintro ⟨⟩
      rfl
    · rintro ⟨⟩
      rfl

/-! ### Reading a path -/

namespace Reader

variable {α β : Type} {s t : Stream} {b : β}

/-- Reading on from what has been read. -/
lemma bind_eq_ok {read : Reader α} {next : α → Reader β} :
    StateT.run (read >>= next) s = .ok (b, t) ↔
      ∃ a u, StateT.run read s = .ok (a, u) ∧ StateT.run (next a) u = .ok (b, t) := by
  rw [StateT.run_bind, Derive.bind_eq_ok, Prod.exists]

/-- What is left is told and stays there. -/
lemma rest_eq_ok {ts : List Tree} : StateT.run rest s = .ok (ts, t) ↔ ts = s.rest ∧ t = s := by
  constructor
  · rintro ⟨⟩
    exact ⟨rfl, rfl⟩
  · rintro ⟨rfl, rfl⟩
    rfl

/-- A sign is not there, or it is taken off the front. -/
lemma of_sign? {text : String} {ts : List Token} (ok : StateT.run (sign? text) s = .ok (ts, t)) :
    ts = [] ∧ t = s ∨ ts = text.toList.map .mark := by
  rw [sign?, bind_eq_ok] at ok
  obtain ⟨_, _, front, ok⟩ := ok
  obtain ⟨rfl, rfl⟩ := rest_eq_ok.1 front
  split at ok
  · cases ok
    exact .inr rfl
  · cases ok
    exact .inl ⟨rfl, rfl⟩

/-- A name is taken off the front. -/
lemma of_ident {n : String} (ok : StateT.run ident s = .ok (n, t)) :
    s.rest = .word n :: t.rest := by
  rw [ident, bind_eq_ok] at ok
  obtain ⟨_, _, front, ok⟩ := ok
  obtain ⟨rfl, rfl⟩ := rest_eq_ok.1 front
  split at ok
  · rename_i w ts front
    cases ok
    exact front
  · cases ok

/-- Where no more names were read, nothing was taken. -/
lemma of_moreNames_nil {fuel : Nat} (ok : StateT.run (moreNames fuel) s = .ok ([], t)) :
    t = s := by
  cases fuel with
  | zero =>
    cases ok
    rfl
  | succ fuel =>
    rw [moreNames, bind_eq_ok] at ok
    obtain ⟨colons, u, sign, ok⟩ := ok
    obtain ⟨rfl, rfl⟩ | rfl := of_sign? sign
    · cases ok
      rfl
    · rw [if_neg (by decide), bind_eq_ok] at ok
      obtain ⟨first, _, _, ok⟩ := ok
      obtain ⟨more, _, _, ⟨⟩⟩ := bind_eq_ok.1 ok

/-- A path that is a name alone is that name, taken off the front. -/
lemma of_keyPath_name {n : String} (ok : StateT.run keyPath s = .ok (.name n, t)) :
    s.rest = .word n :: t.rest := by
  rw [keyPath, bind_eq_ok] at ok
  obtain ⟨colons, u, sign, ok⟩ := ok
  rw [bind_eq_ok] at ok
  obtain ⟨ts, _, front, ok⟩ := ok
  obtain ⟨rfl, same⟩ := rest_eq_ok.1 front
  rw [same] at ok
  -- Whatever is at the front, a name is taken off it and then those that follow.
  have read : StateT.run (do
      let first ← ident
      return (⟨!colons.isEmpty, first :: (← moreNames (← rest).length)⟩ : Path)) u =
        .ok (Path.name n, t) := by
    split at ok
    · exact ok
    · obtain ⟨_, _, ⟨⟩, _⟩ := bind_eq_ok.1 ok
    · obtain ⟨_, _, _, ok⟩ := bind_eq_ok.1 ok
      obtain ⟨_, _, ⟨⟩, _⟩ := bind_eq_ok.1 ok
  rw [bind_eq_ok] at read
  obtain ⟨first, v, head, read⟩ := read
  rw [bind_eq_ok] at read
  obtain ⟨_, _, front, read⟩ := read
  obtain ⟨rfl, rfl⟩ := rest_eq_ok.1 front
  rw [bind_eq_ok] at read
  obtain ⟨more, w, tail, read⟩ := read
  obtain ⟨path, rfl⟩ := Prod.mk.inj (Except.ok.inj read)
  obtain ⟨leading, segments⟩ := Path.mk.inj path
  obtain ⟨rfl, rfl⟩ := List.cons.inj segments
  obtain ⟨rfl, rfl⟩ | rfl := of_sign? sign
  · rw [of_ident head, of_moreNames_nil tail]
  · cases leading

end Reader

/-! ### Keys as they are written -/

namespace Key

variable {last : Bool} {piece : List Tree} {key : Key} {n : String}

/-- A key has a path and whatever follows it. -/
lemma ofPiece_eq_ok :
    ofPiece last piece = .ok key ↔
      ∃ t, StateT.run Reader.keyPath ⟨piece, none⟩ = .ok (key.path, t) ∧ key.payload = t.rest ∧
        key.last = last := by
  rw [ofPiece, Reader.run]
  cases StateT.run Reader.keyPath ⟨piece, none⟩ with
  | error m =>
    constructor
    · rintro ⟨⟩
    · rintro ⟨_, ⟨⟩, _⟩
  | ok read =>
    constructor
    · rintro ⟨⟩
      exact ⟨_, rfl, rfl, rfl⟩
    · rintro ⟨t, same, payload, last⟩
      obtain ⟨path, rest⟩ := read
      cases same
      cases key
      cases payload
      cases last
      rfl

/-- A key that is called by a name alone begins with that name. -/
lemma eq_word_cons (ok : ofPiece last piece = .ok key) (named : key.path.isName n = true) :
    piece = .word n :: key.payload := by
  obtain ⟨t, read, payload, _⟩ := ofPiece_eq_ok.1 ok
  rw [eq_of_beq named] at read
  rw [payload]
  exact Reader.of_keyPath_name read

end Key

/-- The piece is the word `parent` alone. -/
def saysParent : List Tree → Bool
  | [.word w] => w == "parent"
  | _ => false

/-- The piece that says `parent` is the word alone. -/
lemma saysParent_iff {piece : List Tree} : saysParent piece = true ↔ piece = [.word "parent"] := by
  constructor
  · intro told
    rw [saysParent.eq_def] at told
    split at told
    · rw [eq_of_beq told]
    · cases told
  · rintro rfl
    rfl

/-- The types in the parentheses after the word `implements`. -/
def listedTypes : List Tree → List TypeExpr
  | .word w :: payload =>
    if w = "implements" then
      match Reader.run Reader.typesInside payload with
      | .ok (types, _) => types
      | .error _ => []
    else []
  | _ => []

namespace Attribute

/-- What stands between the commas of an attribute. -/
def pieces : Attribute → List (List Tree)
  | list _ _ pieces => pieces
  | _ => []

/-- The pieces that keys are read from are those of the attribute. -/
lemma keyPieces_eq_ok {a : Attribute} {pieces : List (List Tree)} (ok : a.keyPieces = .ok pieces) :
    pieces = a.pieces := by
  cases a with
  | word path => cases ok
  | value path value => cases ok
  | list path bracket pieces =>
    cases ok
    rfl

end Attribute

/-- The fields without their names. -/
def Fields.list (fs : Fields) : List Field :=
  fs.members.map (·.2)

/-- One of the `event` attributes of the field says that it is a parent. -/
def Field.isMarked (f : Field) : Bool :=
  (Attribute.named "event" f.attributes).any fun a => a.pieces.any saysParent

/-- The parents among some fields. -/
def embedded (ms : List (Member × Field)) : List Parent :=
  (ms.filter (·.2.isMarked)).map fun m => ⟨m.1, m.2.type⟩

/-- The first member is a parent if it is marked. -/
lemma embedded_cons {m : Member × Field} {ms : List (Member × Field)} :
    embedded (m :: ms) = if m.2.isMarked then ⟨m.1, m.2.type⟩ :: embedded ms else embedded ms := by
  rw [embedded, List.filter_cons]
  split
  · rfl
  · rfl

/-- The types that the `event` attributes of an item say it implements, in their order. -/
def Item.implementsTypes (item : Item) : List TypeExpr :=
  (Attribute.named "event" item.attributes).flatMap fun a => a.pieces.flatMap listedTypes

/-- A key `parent` without anything else was written as the word alone. -/
lemma Key.saysParent {last : Bool} {piece : List Tree} {key : Key}
    (ok : ofPiece last piece = .ok key) (named : key.path.isName "parent" = true)
    (bare : key.bare = .ok ()) : saysParent piece = true := by
  rw [eq_word_cons ok named]
  rw [Key.bare] at bare
  split at bare
  · rename_i empty
    rw [List.isEmpty_iff.1 empty]
    rfl
  · cases bare

/-- The types of a key are those read from all that follows it. -/
lemma Key.types_eq_ok {key : Key} {types : List TypeExpr} {left : Option Bracket} :
    key.types = .ok (types, left) ↔
      ∃ s, Reader.run Reader.typesInside key.payload = .ok (types, s) ∧ s.rest = [] ∧
        s.leftover = left := by
  rw [Key.types]
  cases Reader.run Reader.typesInside key.payload with
  | error m =>
    constructor
    · rintro ⟨⟩
    · rintro ⟨_, ⟨⟩, _⟩
  | ok found =>
    obtain ⟨ts, s⟩ := found
    dsimp only
    constructor
    · intro listed
      split at listed
      · rename_i empty
        cases listed
        exact ⟨s, rfl, List.isEmpty_iff.1 empty, rfl⟩
      · cases listed
    · rintro ⟨_, ⟨⟩, empty, rfl⟩
      rw [if_pos (List.isEmpty_iff.2 empty)]

/-- The types of a key `implements` are those its piece lists. -/
lemma Key.listedTypes {last : Bool} {piece : List Tree} {key : Key} {types : List TypeExpr}
    {left : Option Bracket} (ok : ofPiece last piece = .ok key)
    (named : key.path.isName "implements" = true) (listed : key.types = .ok (types, left)) :
    listedTypes piece = types := by
  obtain ⟨s, read, _⟩ := types_eq_ok.1 listed
  rw [eq_word_cons ok named, Derive.listedTypes, if_pos rfl, read]

/-! ### What the checks find -/

/-- The arguments of an attribute mark a field if one of them says so. -/
lemma saysParent_of_readParent {pieces : List (List Tree)} {marked : Bool}
    (ok : readParent pieces = .ok marked) : pieces.any saysParent = marked := by
  induction pieces using readParent.induct generalizing marked with
  | case1 =>
    cases ok
    rfl
  | case2 =>
    cases ok
    rfl
  | case3 piece rest more ih =>
    rw [readParent.eq_3 _ _ more, bind_eq_ok] at ok
    obtain ⟨key, read, ok⟩ := ok
    split at ok
    · rename_i named
      obtain ⟨_, bare, ok⟩ := bind_eq_ok.1 ok
      obtain ⟨_, _, ⟨⟩⟩ := bind_eq_ok.1 ok
      rw [List.any_cons,
        Key.saysParent (orMisread_eq_ok.1 read) named (orMisread_eq_ok.1 bare), Bool.true_or]
    · cases ok

/-- The attributes of a field mark it if one of them does. -/
lemma marked_of_marksParent {as : List Attribute} {marked : Bool}
    (ok : marksParent as = .ok marked) : (as.any fun a => a.pieces.any saysParent) = marked := by
  induction as generalizing marked with
  | nil =>
    cases ok
    rfl
  | cons a as ih =>
    rw [marksParent, bind_eq_ok] at ok
    obtain ⟨pieces, given, ok⟩ := ok
    obtain ⟨here, read, ok⟩ := bind_eq_ok.1 ok
    obtain ⟨later, reads, ⟨⟩⟩ := bind_eq_ok.1 ok
    rw [List.any_cons, ih reads, ← Attribute.keyPieces_eq_ok (orMisread_eq_ok.1 given),
      saysParent_of_readParent read]

/-- What the check finds is the mark as it is written. -/
lemma isMarked_of_marksParent {f : Field} {marked : Bool}
    (ok : marksParent (Attribute.named "event" f.attributes) = .ok marked) : f.isMarked = marked :=
  marked_of_marksParent ok

/-- The parents found are the marked fields. -/
lemma parents_of_parentsAmong {ms : List (Member × Field)} {ps : List Parent}
    (ok : parentsAmong ms = .ok ps) : ps = embedded ms := by
  induction ms generalizing ps with
  | nil =>
    cases ok
    rfl
  | cons m ms ih =>
    obtain ⟨member, field⟩ := m
    rw [parentsAmong, bind_eq_ok] at ok
    obtain ⟨marked, marks, ok⟩ := ok
    obtain ⟨later, among, ⟨⟩⟩ := bind_eq_ok.1 ok
    rw [ih among, embedded_cons, isMarked_of_marksParent marks]

/-- The types found in an attribute are those its pieces list. -/
lemma listedTypes_of_readImplements {pieces : List (List Tree)} {types : List TypeExpr}
    {left : Option Bracket} (ok : readImplements pieces = .ok (types, left)) :
    pieces.flatMap listedTypes = types := by
  induction pieces using readImplements.induct generalizing types left with
  | case1 =>
    cases ok
    rfl
  | case2 =>
    cases ok
    rfl
  | case3 piece rest more ih =>
    rw [readImplements.eq_3 _ _ more, bind_eq_ok] at ok
    obtain ⟨key, read, ok⟩ := ok
    split at ok
    · rename_i named
      obtain ⟨⟨here, _⟩, listed, ok⟩ := bind_eq_ok.1 ok
      obtain ⟨⟨later, _⟩, reads, ⟨⟩⟩ := bind_eq_ok.1 ok
      rw [List.flatMap_cons, ih reads,
        Key.listedTypes (orMisread_eq_ok.1 read) named (orMisread_eq_ok.1 listed)]
    · cases ok

/-- The types found in all attributes are those listed in them, in order. -/
lemma listedTypes_of_implemented {as : List Attribute} {types : List TypeExpr}
    (ok : implemented as = .ok types) :
    (as.flatMap fun a => a.pieces.flatMap listedTypes) = types := by
  induction as generalizing types with
  | nil =>
    cases ok
    rfl
  | cons a as ih =>
    rw [implemented, bind_eq_ok] at ok
    obtain ⟨pieces, given, ok⟩ := ok
    obtain ⟨⟨here, left⟩, read, ok⟩ := bind_eq_ok.1 ok
    obtain ⟨_, _, ok⟩ := bind_eq_ok.1 ok
    obtain ⟨later, reads, ⟨⟩⟩ := bind_eq_ok.1 ok
    rw [List.flatMap_cons, ih reads, ← Attribute.keyPieces_eq_ok (orMisread_eq_ok.1 given),
      listedTypes_of_readImplements read]

/-- What the check finds are the types as they are written. -/
lemma implementsTypes_of_implemented {item : Item} {types : List TypeExpr}
    (ok : implemented (Attribute.named "event" item.attributes) = .ok types) :
    item.implementsTypes = types :=
  listedTypes_of_implemented ok

end EventBus.Derive
