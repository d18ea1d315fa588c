import EventBus.Proofs.Event.Keys

/-!
# Which items an event can be derived for

If the `event` attributes of an item are lists of keys that can be read, what can be wrong is known
from the keys: the `offences` of an item, in the order in which they count. `first_offence_decides`
says that code is derived for the items without offences, which are the `Acceptable` ones, and that
for any other the first offence is the one mistake that is made known.
-/

namespace EventBus.Derive

/-- A key in an `event` attribute of an item. -/
inductive ItemKey where
  | implements (types : List TypeExpr)
  | unknown (path : Path)

/-- A key in an `event` attribute of a field. -/
inductive FieldKey where
  | parent
  | unknown (path : Path)
deriving DecidableEq

namespace ItemKey

/-- What a piece says, if it can be read: after `implements` there are types in parentheses and
nothing else, after any other path there may be anything. -/
def ofPiece? (piece : List Tree) : Option ItemKey :=
  match Key.ofPiece true piece with
  | .ok key =>
    if key.path.isName "implements" then
      match key.types with
      | .ok (types, none) => some (.implements types)
      | _ => none
    else some (.unknown key.path)
  | .error _ => none

def offence? : ItemKey → Option EventMistake
  | implements _ => none
  | unknown path => some (.unknownItemKey path)

def types : ItemKey → List TypeExpr
  | implements types => types
  | unknown _ => []

end ItemKey

namespace FieldKey

/-- What a piece says, if it can be read: `parent` stands alone, after any other path there may be
anything. -/
def ofPiece? (piece : List Tree) : Option FieldKey :=
  match Key.ofPiece true piece with
  | .ok key =>
    if key.path.isName "parent" then if key.payload.isEmpty then some .parent else none
    else some (.unknown key.path)
  | .error _ => none

def offence? : FieldKey → Option EventMistake
  | parent => none
  | unknown path => some (.unknownFieldKey path)

end FieldKey

/-- The pieces that are to be keys. There is none after a final comma. -/
def keyTexts : List (List Tree) → List (List Tree)
  | [] | [[]] => []
  | piece :: rest => piece :: keyTexts rest

section Keys

variable {K : Type} (read : List Tree → Option K)

/-- The keys of an attribute, if it has arguments and each of them can be read. -/
def Attribute.keys? : Attribute → Option (List K)
  | list _ _ pieces => (keyTexts pieces).mapM read
  | _ => none

/-- The keys of some attributes, in their order. -/
def keysOf? : List Attribute → Option (List K)
  | [] => some []
  | a :: as => do
    let here ← a.keys? read
    let later ← keysOf? as
    return here ++ later

end Keys

/-! ### Items, their keys and what is wrong with them -/

def Field.keys? (f : Field) : Option (List FieldKey) :=
  keysOf? FieldKey.ofPiece? (Attribute.named "event" f.attributes)

def Field.keys (f : Field) : List FieldKey := f.keys?.getD []

def Item.keys? (item : Item) : Option (List ItemKey) :=
  keysOf? ItemKey.ofPiece? (Attribute.named "event" item.attributes)

def Item.keys (item : Item) : List ItemKey := item.keys?.getD []

/-- The fields whose attributes are read. -/
def Body.fields : Body → List Field
  | .struct fields => fields.list
  | .enum variants => variants.flatMap (·.fields.list)
  | .union _ => []

/-- The `event` attributes of the item and of its fields are lists of keys that can be read. -/
structure Item.WellWritten (item : Item) : Prop where
  own : item.keys?.isSome
  fields : ∀ f ∈ item.body.fields, f.keys?.isSome

/-- Every key of the item says what it implements. Every key of a field of a struct says that the
field is a parent, and no field in an enum has a key. -/
def Item.Acceptable (item : Item) : Prop :=
  (∀ key ∈ item.keys, ∃ types, key = .implements types) ∧
    match item.body with
    | .struct fields => ∀ f ∈ fields.list, ∀ key ∈ f.keys, key = .parent
    | .enum variants => ∀ v ∈ variants, ∀ f ∈ v.fields.list, f.keys = []
    | .union _ => False

/-- The unknown keys of the fields, field by field. -/
def Fields.offences (fs : Fields) : List EventMistake :=
  fs.list.flatMap fun f => f.keys.filterMap FieldKey.offence?

/-- The unknown keys of the fields count before the complaint that there is a parent. -/
def Variant.offences (v : Variant) : List EventMistake :=
  v.fields.offences ++
    if v.fields.list.any (·.isMarked) then [.parentInEnum v.name] else []

def Body.offences : Body → List EventMistake
  | .struct fields => fields.offences
  | .enum variants => variants.flatMap Variant.offences
  | .union _ => [.union]

/-- What is wrong with an item: the unknown keys of its own come first. -/
def Item.offences (item : Item) : List EventMistake :=
  item.keys.filterMap ItemKey.offence? ++ item.body.offences

/-! ### Checks are decided by the first offence -/

/-- The outcome of checks that come upon the given offences: the first of them counts. -/
def decided {α : Type} (offences : List EventMistake) (a : α) : Except EventMistake α :=
  match offences with
  | [] => .ok a
  | m :: _ => .error m

section Decided

variable {α β : Type} {os os' : List EventMistake} {a : α} {b : β}

/-- Offences of a first check come before those of the next. -/
lemma decided_bind {next : α → Except EventMistake β} (after : next a = decided os' b) :
    decided os a >>= next = decided (os ++ os') b := by
  cases os with
  | nil => exact after
  | cons m os => rfl

/-- What is made of an accepted value changes no offence. -/
lemma decided_map (f : α → β) : (decided os a >>= fun a => pure (f a)) = decided os (f a) := by
  cases os with
  | nil => rfl
  | cons m os => rfl

end Decided

/-! ### Each check by its keys -/

section Reading

variable {piece : List Tree} {key : Key} {last : Bool}

/-- Whether a key is the last one makes a difference to the wording of a mistake only. -/
lemma Key.ofPiece_last (ok : ofPiece true piece = .ok key) :
    ofPiece last piece = .ok { key with last := last } := by
  obtain ⟨t, read, payload, _⟩ := ofPiece_eq_ok.1 ok
  exact ofPiece_eq_ok.2 ⟨t, read, payload, rfl⟩

/-- It makes no difference to its types whether a key is the last one. -/
lemma Key.types_last {types : List TypeExpr} {left : Option Bracket}
    (ok : key.types = .ok (types, left)) : { key with last := last }.types = .ok (types, left) := by
  obtain ⟨s, read⟩ := types_eq_ok.1 ok
  exact types_eq_ok.2 ⟨s, read⟩

/-- A key of an item lists types or is unknown. -/
lemma ItemKey.of_ofPiece? {k : ItemKey} (told : ofPiece? piece = some k) :
    ∃ key, Key.ofPiece true piece = .ok key ∧
      ((key.path.isName "implements" = true ∧
          ∃ types, key.types = .ok (types, none) ∧ k = .implements types) ∨
        (key.path.isName "implements" = false ∧ k = .unknown key.path)) := by
  rw [ofPiece?] at told
  split at told
  · rename_i key read
    refine ⟨key, read, ?_⟩
    split at told
    · rename_i named
      split at told
      · rename_i types listed
        cases told
        exact .inl ⟨named, types, listed, rfl⟩
      · cases told
    · rename_i other
      cases told
      exact .inr ⟨Bool.eq_false_iff.2 other, rfl⟩
  · cases told

/-- A key of a field is `parent` or unknown. -/
lemma FieldKey.of_ofPiece? {k : FieldKey} (told : ofPiece? piece = some k) :
    ∃ key, Key.ofPiece true piece = .ok key ∧
      ((key.path.isName "parent" = true ∧ key.payload = [] ∧ k = .parent) ∨
        (key.path.isName "parent" = false ∧ k = .unknown key.path)) := by
  rw [ofPiece?] at told
  split at told
  · rename_i key read
    refine ⟨key, read, ?_⟩
    split at told
    · rename_i named
      split at told
      · rename_i bare
        cases told
        exact .inl ⟨named, List.isEmpty_iff.1 bare, rfl⟩
      · cases told
    · rename_i other
      cases told
      exact .inr ⟨Bool.eq_false_iff.2 other, rfl⟩
  · cases told

/-- The word `parent` alone is a key `parent`, and nothing else is. -/
lemma FieldKey.saysParent_eq {k : FieldKey} (told : ofPiece? piece = some k) :
    saysParent piece = (FieldKey.parent == k) := by
  obtain ⟨key, read, ⟨named, bare, rfl⟩ | ⟨other, rfl⟩⟩ := of_ofPiece? told
  · rw [Key.eq_word_cons read named, bare]
    rfl
  · -- The word `parent` alone would have been read as the key `parent`.
    have unmarked : ¬saysParent piece = true := by
      intro marked
      rw [saysParent_iff.1 marked] at read
      have readParent : Key.ofPiece true [.word "parent"] = .ok ⟨.name "parent", [], true⟩ := by cbv
      rw [readParent] at read
      cases read
      exact absurd other (by decide)
    rw [Bool.eq_false_iff.2 unmarked]
    rfl

end Reading

/-- All of a list are told if the first is and the rest are. -/
lemma mapM_cons_eq_some {α β : Type} {f : α → Option β} {x : α} {xs : List α} {ys : List β} :
    (x :: xs).mapM f = some ys ↔ ∃ y zs, f x = some y ∧ xs.mapM f = some zs ∧ ys = y :: zs := by
  simp only [List.mapM_cons, Option.bind_eq_bind, Option.bind_eq_some_iff]
  constructor
  · rintro ⟨y, head, zs, tail, ⟨⟩⟩
    exact ⟨y, zs, head, tail, rfl⟩
  · rintro ⟨y, zs, head, tail, rfl⟩
    exact ⟨y, head, zs, tail, rfl⟩

/-- Reading the keys of an item finds the first that is unknown, or all types. -/
lemma readImplements_decided {pieces : List (List Tree)} {ks : List ItemKey}
    (told : (keyTexts pieces).mapM ItemKey.ofPiece? = some ks) :
    readImplements pieces =
      decided (ks.filterMap ItemKey.offence?) (ks.flatMap ItemKey.types, none) := by
  induction pieces using readImplements.induct generalizing ks with
  | case1 =>
    cases told
    rfl
  | case2 =>
    cases told
    rfl
  | case3 piece rest more ih =>
    rw [keyTexts.eq_3 _ _ more] at told
    obtain ⟨k, later, here, after, rfl⟩ := mapM_cons_eq_some.1 told
    rw [readImplements.eq_3 _ _ more]
    obtain ⟨key, read, ⟨named, types, listed, rfl⟩ | ⟨other, rfl⟩⟩ := ItemKey.of_ofPiece? here
    · rw [orMisread_eq_ok.2 (Key.ofPiece_last read), ok_bind, if_pos named,
        orMisread_eq_ok.2 (Key.types_last listed), ok_bind, ih after]
      exact decided_map fun found : List TypeExpr × Option Bracket => (types ++ found.1, found.2)
    · rw [orMisread_eq_ok.2 (Key.ofPiece_last read), ok_bind, if_neg (Bool.eq_false_iff.1 other)]
      rfl

/-- The keys of an attribute are told from its pieces. -/
lemma Attribute.pieces_of_keys? {K : Type} {read : List Tree → Option K} {a : Attribute} {ks : List K}
    (told : a.keys? read = some ks) :
    ∃ pieces, a.keyPieces = .ok pieces ∧ (keyTexts pieces).mapM read = some ks := by
  cases a with
  | word path => cases told
  | value path value => cases told
  | list path bracket pieces => exact ⟨pieces, rfl, told⟩

/-- The keys of several attributes are those of the first and of the rest. -/
lemma keysOf?_cons {K : Type} {read : List Tree → Option K} {a : Attribute} {as : List Attribute}
    {ks : List K} (told : keysOf? read (a :: as) = some ks) :
    ∃ here later, a.keys? read = some here ∧ keysOf? read as = some later ∧ ks = here ++ later := by
  simp only [keysOf?, Option.bind_eq_bind, Option.bind_eq_some_iff] at told
  obtain ⟨here, told, later, after, ⟨⟩⟩ := told
  exact ⟨here, later, told, after, rfl⟩

/-- Reading all attributes of an item finds the first unknown key, or all types. -/
lemma implemented_decided {as : List Attribute} {ks : List ItemKey}
    (told : keysOf? ItemKey.ofPiece? as = some ks) :
    implemented as = decided (ks.filterMap ItemKey.offence?) (ks.flatMap ItemKey.types) := by
  induction as generalizing ks with
  | nil =>
    cases told
    rfl
  | cons a as ih =>
    obtain ⟨here, later, front, after, rfl⟩ := keysOf?_cons told
    obtain ⟨pieces, given, read⟩ := Attribute.pieces_of_keys? front
    rw [implemented, orMisread_eq_ok.2 given, ok_bind, readImplements_decided read,
      List.filterMap_append, List.flatMap_append, ih after]
    apply decided_bind
    exact decided_map (here.flatMap ItemKey.types ++ ·)

/-- Reading the keys of a field finds the first that is unknown, or the mark. -/
lemma readParent_decided {pieces : List (List Tree)} {ks : List FieldKey}
    (told : (keyTexts pieces).mapM FieldKey.ofPiece? = some ks) :
    readParent pieces = decided (ks.filterMap FieldKey.offence?) (ks.contains .parent) := by
  induction pieces using readParent.induct generalizing ks with
  | case1 =>
    cases told
    rfl
  | case2 =>
    cases told
    rfl
  | case3 piece rest more ih =>
    rw [keyTexts.eq_3 _ _ more] at told
    obtain ⟨k, later, here, after, rfl⟩ := mapM_cons_eq_some.1 told
    rw [readParent.eq_3 _ _ more]
    obtain ⟨key, read, ⟨named, bare, rfl⟩ | ⟨other, rfl⟩⟩ := FieldKey.of_ofPiece? here
    · rw [orMisread_eq_ok.2 (Key.ofPiece_last read), ok_bind, if_pos named, Key.bare,
        if_pos (List.isEmpty_iff.2 bare), ih after]
      exact decided_map fun _ => true
    · rw [orMisread_eq_ok.2 (Key.ofPiece_last read), ok_bind, if_neg (Bool.eq_false_iff.1 other)]
      rfl

/-- Reading all attributes of a field finds the first unknown key, or the mark. -/
lemma marksParent_decided {as : List Attribute} {ks : List FieldKey}
    (told : keysOf? FieldKey.ofPiece? as = some ks) :
    marksParent as = decided (ks.filterMap FieldKey.offence?) (ks.contains .parent) := by
  induction as generalizing ks with
  | nil =>
    cases told
    rfl
  | cons a as ih =>
    obtain ⟨here, later, front, after, rfl⟩ := keysOf?_cons told
    obtain ⟨pieces, given, read⟩ := Attribute.pieces_of_keys? front
    rw [marksParent, orMisread_eq_ok.2 given, ok_bind, readParent_decided read,
      List.filterMap_append, ih after, List.contains_append]
    apply decided_bind
    exact decided_map (here.contains .parent || ·)

/-- The pieces that say `parent` are those told as such keys. -/
lemma saysParent_eq_contains {pieces : List (List Tree)} {ks : List FieldKey}
    (told : (keyTexts pieces).mapM FieldKey.ofPiece? = some ks) :
    pieces.any saysParent = ks.contains .parent := by
  induction pieces using keyTexts.induct generalizing ks with
  | case1 =>
    cases told
    rfl
  | case2 =>
    cases told
    rfl
  | case3 piece rest more ih =>
    rw [keyTexts.eq_3 _ _ more] at told
    obtain ⟨k, later, here, after, rfl⟩ := mapM_cons_eq_some.1 told
    rw [List.any_cons, List.contains_cons, ih after, FieldKey.saysParent_eq here]

/-- The attributes mark a field just if one of their keys does. -/
lemma marked_eq_contains {as : List Attribute} {ks : List FieldKey}
    (told : keysOf? FieldKey.ofPiece? as = some ks) :
    (as.any fun a => a.pieces.any saysParent) = ks.contains .parent := by
  induction as generalizing ks with
  | nil =>
    cases told
    rfl
  | cons a as ih =>
    obtain ⟨here, later, front, after, rfl⟩ := keysOf?_cons told
    obtain ⟨pieces, given, read⟩ := Attribute.pieces_of_keys? front
    rw [List.any_cons, List.contains_append, ih after, ← Attribute.keyPieces_eq_ok given,
      saysParent_eq_contains read]

/-- A field is marked if one of its keys is `parent`. -/
lemma Field.isMarked_eq {f : Field} (told : f.keys?.isSome) :
    f.isMarked = f.keys.contains .parent := by
  obtain ⟨ks, told⟩ := Option.isSome_iff_exists.1 told
  rw [Field.keys, told, Option.getD_some]
  exact marked_eq_contains told

/-- The check of a field finds its first offence, or whether it is marked. -/
lemma Field.marksParent_decided {f : Field} (told : f.keys?.isSome) :
    marksParent (Attribute.named "event" f.attributes) =
      decided (f.keys.filterMap FieldKey.offence?) f.isMarked := by
  rw [Field.isMarked_eq told]
  obtain ⟨ks, told⟩ := Option.isSome_iff_exists.1 told
  rw [Field.keys, told, Option.getD_some]
  exact Derive.marksParent_decided told

/-- The check of some members finds the first offence of a field, or the parents. -/
lemma parentsAmong_decided {ms : List (Member × Field)} (told : ∀ m ∈ ms, m.2.keys?.isSome) :
    parentsAmong ms =
      decided (ms.flatMap fun m => m.2.keys.filterMap FieldKey.offence?) (embedded ms) := by
  induction ms with
  | nil => rfl
  | cons m ms ih =>
    obtain ⟨member, field⟩ := m
    rw [List.forall_mem_cons] at told
    rw [parentsAmong, field.marksParent_decided told.1, List.flatMap_cons, ih told.2, embedded_cons]
    apply decided_bind
    exact decided_map fun ps : List Parent => if field.isMarked then ⟨member, field.type⟩ :: ps else ps

/-- The check of all fields finds their first offence, or the parents. -/
lemma Fields.parentsAmong_decided {fs : Fields} (told : ∀ f ∈ fs.list, f.keys?.isSome) :
    parentsAmong fs.members = decided fs.offences (embedded fs.members) := by
  rw [offences, list, List.flatMap_map]
  exact Derive.parentsAmong_decided fun m mem => told _ (List.mem_map_of_mem mem)

/-- There are no parents where no field is marked. -/
lemma Fields.embedded_isEmpty {fs : Fields} :
    (embedded fs.members).isEmpty = !fs.list.any (·.isMarked) := by
  rw [embedded, list, List.isEmpty_map, List.any_map, Bool.eq_iff_iff]
  simp

/-- The check of the variants finds the first offence among them. -/
lemma checkVariants_decided {vs : List Variant}
    (told : ∀ v ∈ vs, ∀ f ∈ v.fields.list, f.keys?.isSome) :
    checkVariants vs = decided (vs.flatMap Variant.offences) () := by
  induction vs with
  | nil => rfl
  | cons v vs ih =>
    rw [List.forall_mem_cons] at told
    rw [checkVariants, Fields.parentsAmong_decided told.1, List.flatMap_cons, Variant.offences,
      List.append_assoc]
    apply decided_bind
    rw [Fields.embedded_isEmpty]
    cases v.fields.list.any (·.isMarked) with
    | false => exact ih told.2
    | true => rfl

/-- The check of a body finds its first offence. -/
lemma Body.parents_decided {body : Body} (told : ∀ f ∈ body.fields, f.keys?.isSome) :
    ∃ parents, body.parents = decided body.offences parents := by
  cases body with
  | struct fields => exact ⟨_, Fields.parentsAmong_decided told⟩
  | enum variants =>
    refine ⟨[], ?_⟩
    rw [parents, checkVariants_decided fun v mem f there => told f (List.mem_flatMap.2 ⟨v, mem, there⟩)]
    exact decided_map fun _ => []
  | union fields => exact ⟨[], rfl⟩

/-- Deriving code is decided by the first offence of the item. -/
lemma Item.derive_decided {item : Item} (written : item.WellWritten) :
    ∃ code, EventCode.derive item = decided item.offences code := by
  obtain ⟨ks, told⟩ := Option.isSome_iff_exists.1 written.own
  obtain ⟨parents, body⟩ := Body.parents_decided written.fields
  refine ⟨.ofParents item.toHeader parents (ks.flatMap ItemKey.types), ?_⟩
  rw [EventCode.derive, implemented_decided told, offences, keys, told, Option.getD_some]
  apply decided_bind
  rw [body]
  exact decided_map (EventCode.ofParents item.toHeader · _)

/-! ### Items without offences -/

/-- The keys of an item do not offend if all of them list types. -/
lemma ItemKey.offences_eq_nil {ks : List ItemKey} :
    ks.filterMap offence? = [] ↔ ∀ key ∈ ks, ∃ types, key = .implements types := by
  rw [List.filterMap_eq_nil_iff]
  apply forall₂_congr
  intro key _
  cases key with
  | implements types => exact ⟨fun _ => ⟨types, rfl⟩, fun _ => rfl⟩
  | unknown path =>
    constructor
    · rintro ⟨⟩
    · rintro ⟨_, ⟨⟩⟩

/-- The keys of a field do not offend if all of them say `parent`. -/
lemma FieldKey.offences_eq_nil {ks : List FieldKey} :
    ks.filterMap offence? = [] ↔ ∀ key ∈ ks, key = .parent := by
  rw [List.filterMap_eq_nil_iff]
  apply forall₂_congr
  intro key _
  cases key with
  | parent => exact ⟨fun _ => rfl, fun _ => rfl⟩
  | unknown path =>
    constructor
    · rintro ⟨⟩
    · rintro ⟨⟩

/-- Fields do not offend if their keys do not. -/
lemma Fields.offences_eq_nil {fs : Fields} :
    fs.offences = [] ↔ ∀ f ∈ fs.list, ∀ key ∈ f.keys, key = .parent := by
  simp only [offences, List.flatMap_eq_nil_iff, FieldKey.offences_eq_nil]

/-- A variant without offences has no key at all: a key is unknown or makes its field a parent. -/
lemma Variant.offences_eq_nil {v : Variant} (told : ∀ f ∈ v.fields.list, f.keys?.isSome) :
    v.offences = [] ↔ ∀ f ∈ v.fields.list, f.keys = [] := by
  have complaint : (if v.fields.list.any (·.isMarked) then [EventMistake.parentInEnum v.name]
      else []) = [] ↔ ∀ f ∈ v.fields.list, FieldKey.parent ∉ f.keys := by
    rw [ite_eq_right_iff]
    simp only [List.any_eq_true, reduceCtorEq, imp_false, not_exists, not_and]
    apply forall₂_congr
    intro f mem
    rw [Field.isMarked_eq (told f mem), List.contains_iff_mem]
  rw [offences, List.append_eq_nil_iff, Fields.offences_eq_nil, complaint, ← forall₂_and]
  apply forall₂_congr
  intro f _
  rw [List.eq_nil_iff_forall_not_mem]
  constructor
  · rintro ⟨known, none⟩ key mem
    obtain rfl := known key mem
    exact none mem
  · intro empty
    exact ⟨fun key mem => absurd mem (empty key), empty _⟩

/-- An item does not offend just if it is acceptable. -/
lemma Item.offences_eq_nil {item : Item} (written : item.WellWritten) :
    item.offences = [] ↔ item.Acceptable := by
  rw [offences, List.append_eq_nil_iff, ItemKey.offences_eq_nil, Acceptable]
  apply and_congr_right
  intro _
  have told := written.fields
  cases body : item.body with
  | struct fields => exact Fields.offences_eq_nil
  | enum variants =>
    rw [body] at told
    rw [Body.offences, List.flatMap_eq_nil_iff]
    apply forall₂_congr
    intro v mem
    exact Variant.offences_eq_nil fun f there => told f (List.mem_flatMap.2 ⟨v, mem, there⟩)
  | union fields => simp [Body.offences]

/-- If its `event` attributes are lists of keys, code is derived for an item just if it is
acceptable; for any other item there is nothing but one mistake, which is the first offence. -/
theorem first_offence_decides {item : Item} (written : item.WellWritten) :
    ((∃ code, EventCode.derive item = .ok code) ↔ item.Acceptable) ∧
      (¬item.Acceptable →
        ∃ m, item.offences.head? = some m ∧ EventCode.derive item = .error m) := by
  obtain ⟨code, derived⟩ := item.derive_decided written
  rw [derived, ← Item.offences_eq_nil written]
  cases item.offences with
  | nil => exact ⟨⟨fun _ => rfl, fun _ => ⟨code, rfl⟩⟩, fun offends => absurd rfl offends⟩
  | cons m ms =>
    refine ⟨⟨?_, ?_⟩, fun _ => ⟨m, rfl, rfl⟩⟩
    · rintro ⟨_, ⟨⟩⟩
    · rintro ⟨⟩

namespace Muddle

def key (trees : List Tree) : Attribute := .list (.name "event") .round [trees, []]

def field (keys : List (List Tree)) : Field := ⟨keys.map key, [], .named false [.plain "Base"]⟩

/-- An enum that may be said to implement something, with a parent in front of an unknown key in
its second variant and an unknown key in the third. -/
def item : Item :=
  { attributes := [key [.word "implements", .group .round [.word "Auditable"]]]
    visibility := [], name := "Muddle", generics := ⟨[], false⟩, conditions := []
    body := .enum
      [⟨[], "Quiet", .positional [field []], []⟩,
        ⟨[], "Loud", .positional
          [field [[.word "parent"]], field [[.word "base", .mark '=' false, .literal "1"]]], []⟩,
        ⟨[], "Late", .named [⟨field [[.word "extends"]], "base"⟩], []⟩] }

/-- The item is well written. -/
lemma wellWritten : item.WellWritten where
  own := by cbv
  fields := List.all_eq_true.1 (by cbv)

end Muddle

/-- In a variant an unknown key counts before a parent, and other variants count later. -/
theorem muddle_first_offence :
    Muddle.item.WellWritten ∧
      Muddle.item.offences =
        [.unknownFieldKey (.name "base"), .parentInEnum "Loud", .unknownFieldKey (.name "extends")] ∧
      EventCode.derive Muddle.item = .error (.unknownFieldKey (.name "base")) := by
  have offences : Muddle.item.offences =
      [.unknownFieldKey (.name "base"), .parentInEnum "Loud",
        .unknownFieldKey (.name "extends")] := by cbv
  have unacceptable : ¬Muddle.item.Acceptable := by
    rw [← Item.offences_eq_nil Muddle.wellWritten, offences]
    exact List.cons_ne_nil _ _
  obtain ⟨m, first, failed⟩ := (first_offence_decides Muddle.wellWritten).2 unacceptable
  rw [offences] at first
  cases first
  exact ⟨Muddle.wellWritten, offences, failed⟩

end EventBus.Derive
