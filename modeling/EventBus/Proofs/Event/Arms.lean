import EventBus.Proofs.Event.Keys
import EventBus.Proofs.Event.Listing
import EventBus.Proofs.Event.View

/-!
# Supertypes and views of a struct

From the fields of a struct three lists are derived: the supertypes, the arms that give a field
itself and the arms that ask a field for a view. `arms_follow_fields` says that the derived tokens
are the text of these lists, that all of them follow the marked fields, in their order and each at
its own place among all fields, and so what the statements in the text find for a value: its parents
are the marked fields with what they hold.
-/

namespace EventBus.Derive

namespace Fields

/-- The place of a member among all fields. -/
inductive At : Fields → Member → Nat → Prop where
  | named {fs : List NamedField} {f : NamedField} {i : Nat} :
    fs[i]? = some f →
    At (.named fs) (.named f.name) i
  | positional {fs : List Field} {i : Nat} :
    i < fs.length →
    At (.positional fs) (.index i) i

/-- The marked fields, each with its place among all fields. -/
def marked (fs : Fields) : List (Field × Nat) :=
  fs.list.zipIdx.filter (·.1.isMarked)

variable {fs : Fields}

/-- A member stands where it is among the members. -/
lemma at_of_members {m : Member × Field} {i : Nat} (there : fs.members[i]? = some m) :
    fs.At m.1 i := by
  cases fs with
  | named fields =>
    rw [members, List.getElem?_map, Option.map_eq_some_iff] at there
    obtain ⟨f, there, rfl⟩ := there
    exact .named there
  | positional fields =>
    rw [members, List.getElem?_map, Option.map_eq_some_iff] at there
    obtain ⟨⟨f, j⟩, there, rfl⟩ := there
    rw [List.getElem?_zipIdx, Option.map_eq_some_iff] at there
    obtain ⟨f', there, same⟩ := there
    obtain ⟨rfl, rfl⟩ := Prod.mk.inj same
    rw [Nat.zero_add]
    exact .positional (List.getElem?_eq_some_iff.1 there).1
  | unit => cases there

/-- Each field is reached by a member that has its place. -/
lemma members_placed :
    List.Forall₂ (fun m f => fs.At m.1 f.2 ∧ m.2 = f.1) fs.members fs.list.zipIdx := by
  rw [List.forall₂_iff_get]
  refine ⟨by rw [List.length_zipIdx, list, List.length_map], ?_⟩
  intro i inMembers inList
  constructor
  · rw [List.get_eq_getElem, List.get_eq_getElem, List.getElem_zipIdx]
    rw [Nat.zero_add]
    exact at_of_members (List.getElem?_eq_getElem inMembers)
  · simp [list]

/-- Each parent is a marked field, reached by a member that has its place. -/
lemma parents_placed :
    List.Forall₂ (fun p f => fs.At p.member f.2 ∧ p.type = f.1.type) (embedded fs.members)
      fs.marked := by
  rw [embedded, List.forall₂_map_left_iff]
  have placed : List.Forall₂ (fun m f => fs.At m.1 f.2 ∧ m.2 = f.1)
      (fs.members.filter (·.2.isMarked)) fs.marked := by
    apply List.rel_filter _ members_placed
    rintro m f ⟨_, same⟩
    dsimp only
    rw [same]
  exact placed.imp fun m f placed => ⟨placed.1, congrArg Field.type placed.2⟩

/-- The parents have the types of the marked fields, in their order. -/
lemma parents_types : (embedded fs.members).map (·.type) = fs.marked.map (·.1.type) := by
  rw [← List.forall₂_eq_eq_eq, List.forall₂_map_left_iff, List.forall₂_map_right_iff]
  exact parents_placed.imp fun p f placed => placed.2

end Fields

/-- A value of a struct: what its fields hold, in their order, and what each member gives. -/
structure StructValue (fields : Fields) where
  held : List Event
  complete : held.length = fields.list.length
  member : Member → Event
  member_at : ∀ {m i}, fields.At m i → held[i]? = some (member m)

namespace StructValue

variable {fields : Fields} (v : StructValue fields)

/-- The marked fields with what they hold. -/
def parents : List (Field × Event) :=
  (fields.list.zip v.held).filter (·.1.isMarked)

/-- Each field holds what its member gives. -/
lemma zip_held : fields.list.zip v.held = fields.members.map fun m => (m.2, v.member m.1) := by
  apply List.ext_getElem?
  intro i
  rw [List.getElem?_map]
  cases there : fields.members[i]? with
  | none =>
    have short := List.getElem?_eq_none_iff.1 there
    rw [Option.map_none, List.getElem?_eq_none_iff, List.length_zip, v.complete, Nat.min_self,
      Fields.list, List.length_map]
    exact short
  | some m =>
    rw [Option.map_some, List.getElem?_zip_eq_some]
    refine ⟨?_, v.member_at (Fields.at_of_members there)⟩
    rw [Fields.list, List.getElem?_map, there, Option.map_some]

/-- The parents of a value are what the marked members give. -/
lemma parents_eq :
    v.parents = (fields.members.filter (·.2.isMarked)).map fun m => (m.2, v.member m.1) := by
  rw [parents, zip_held, List.filter_map]
  rfl

/-- Looking for a view among the parents is looking among the marked fields and what they hold. -/
lemma view_embedded {header : Header} {types : List TypeExpr} (typeOf : TypeExpr → EventType)
    (t : EventType) :
    (EventCode.ofParents header (embedded fields.members) types).view typeOf v.member t =
      ((v.parents.find? fun p => typeOf p.1.type == t).map (·.2)).or
        (v.parents.findSome? fun p => p.2.view t) := by
  rw [view_ofParents, v.parents_eq, embedded, List.find?_map, List.find?_map, List.findSome?_map,
    List.findSome?_map]
  simp only [Function.comp_def]
  cases (fields.members.filter (·.2.isMarked)).find? fun m => typeOf m.2.type == t with
  | none => rfl
  | some m => rfl

end StructValue

namespace EventCode

/-- The arms that give a field itself. -/
def directArms (code : EventCode) : List Parent :=
  (code.viewCode.map (·.direct)).getD []

/-- The fields that are asked for a view. -/
def nestedArms (code : EventCode) : List Member :=
  (code.viewCode.map (·.nested)).getD []

variable {header : Header} {ps : List Parent} {types : List TypeExpr}

/-- The code declares the types of its parents and then the others. -/
lemma supertypeList_ofParents (typeOf : TypeExpr → EventType) :
    (ofParents header ps types).supertypeList typeOf =
      (ps.map fun p => typeOf p.type) ++ types.map typeOf := by
  rw [supertypeList, ofParents, List.map_append, List.map_map]
  rfl

/-- Each parent has an arm that gives it. -/
lemma directArms_ofParents : (ofParents header ps types).directArms = ps := by
  cases ps with
  | nil => rfl
  | cons p ps => rfl

/-- Each parent is asked for a view. -/
lemma nestedArms_ofParents : (ofParents header ps types).nestedArms = ps.map (·.member) := by
  cases ps with
  | nil => rfl
  | cons p ps => rfl

/-- The statements are the arms, those that give a field itself first. -/
lemma statements_listing (code : EventCode) :
    code.listing.statements =
      code.directArms.map (fun p => .returnMember p.type p.member) ++
        code.nestedArms.map .returnViewOf := by
  rw [EventListing.statements, listing, directArms, nestedArms]
  cases code.viewCode with
  | none => rfl
  | some body => rfl

end EventCode

/-- The tokens derived for a struct are the text of a listing. It declares the types of the marked
fields in field order and then the types the struct is said to implement, repetitions kept. Its
statements find as the view of a type the first marked field of that type, or else the first view
that a marked field has. Each of them is an arm that reaches the marked field it stands for by the
place among all fields, and the types with an arm of their own are declared, just as each marked
field has one. -/
theorem arms_follow_fields {item : Item} {fields : Fields} {code : EventCode}
    (derived : EventCode.derive item = .ok code) (body : item.body = .struct fields)
    (typeOf : TypeExpr → EventType) :
    code.tokens = code.listing.text ∧
    code.listing.header = item.toHeader ∧
    code.listing.supertypeList typeOf =
      (fields.marked.map fun f => typeOf f.1.type) ++ item.implementsTypes.map typeOf ∧
    (∀ (v : StructValue fields) (t : EventType),
      code.listing.viewOf typeOf v.member t =
        ((v.parents.find? fun p => typeOf p.1.type == t).map (·.2)).or
          (v.parents.findSome? fun p => p.2.view t)) ∧
    code.listing.statements =
      code.directArms.map (fun arm => .returnMember arm.type arm.member) ++
        code.nestedArms.map .returnViewOf ∧
    List.Forall₂ (fun arm f => fields.At arm.member f.2 ∧ arm.type = f.1.type)
      code.directArms fields.marked ∧
    List.Forall₂ (fun arm f => fields.At arm f.2) code.nestedArms fields.marked ∧
    (∀ arm ∈ code.directArms, typeOf arm.type ∈ code.listing.supertypeList typeOf) ∧
    (∀ f ∈ fields.marked, ∃ arm ∈ code.directArms, typeOf arm.type = typeOf f.1.type) := by
  have types : (embedded fields.members).map (fun p => typeOf p.type) =
      fields.marked.map fun f => typeOf f.1.type := by
    simpa [Function.comp_def] using congrArg (List.map typeOf) fields.parents_types
  have declared : code.listing.supertypeList typeOf =
      (fields.marked.map fun f => typeOf f.1.type) ++ item.implementsTypes.map typeOf := by
    rw [EventCode.supertypeList_listing, derive_struct derived body,
      EventCode.supertypeList_ofParents, types]
  refine ⟨EventCode.tokens_eq_text, ?_, declared, ?_, code.statements_listing, ?_⟩
  · rw [derive_struct derived body]
    rfl
  · intro v t
    rw [EventCode.viewOf_listing, derive_struct derived body]
    exact v.view_embedded typeOf t
  rw [declared, derive_struct derived body, EventCode.directArms_ofParents,
    EventCode.nestedArms_ofParents, List.forall₂_map_left_iff]
  refine ⟨fields.parents_placed, ?_, ?_, ?_⟩
  · exact fields.parents_placed.imp fun _ _ placed => placed.1
  · intro arm mem
    rw [← types]
    exact List.mem_append_left _ (List.mem_map_of_mem mem)
  · intro f mem
    have declared := List.mem_map_of_mem (f := fun f : Field × Nat => typeOf f.1.type) mem
    rw [← types] at declared
    exact List.mem_map.1 declared

namespace Bundle

open Account (event named typeOf)

def fields : Fields :=
  .positional
    [⟨[], [], named "u8"⟩, ⟨[event [.word "parent"]], [], named "Base"⟩,
      ⟨[], [], named "String"⟩, ⟨[event [.word "parent"]], [], named "Other"⟩,
      ⟨[event [.word "parent"]], [], named "Base"⟩]

/-- A struct with parents between other fields, two of them of one type, that is said twice to
implement a marker. -/
def item : Item :=
  { attributes :=
      [event [.word "implements", .group .round [.word "Auditable"]],
        event [.word "implements", .group .round [.word "Auditable"]]]
    visibility := [], name := "Bundle", generics := ⟨[], false⟩, conditions := []
    body := .struct fields }

def code : EventCode :=
  .ofParents item.toHeader
    [⟨.index 1, named "Base"⟩, ⟨.index 3, named "Other"⟩, ⟨.index 4, named "Base"⟩]
    [named "Auditable", named "Auditable"]

def plain (name : String) : Event := .composite ⟨⟨name⟩, name, .bare, []⟩ []

/-- An event with a view of one type. -/
def seenAs (name view : String) : Event := .free ⟨name⟩ name "" [plain view] []

def held : List Event :=
  [plain "u8", seenAs "Base" "Root", plain "String", seenAs "Other" "Root", plain "Base"]

def member : Member → Event
  | .index i => held.getD i (plain "Bundle")
  | .named _ => plain "Bundle"

def value : StructValue fields where
  held := held
  complete := rfl
  member := member
  member_at := by
    intro m i place
    cases place with
    | positional short =>
      have within : i < held.length := short
      have there : held[i]? = some held[i] := List.getElem?_eq_getElem within
      rw [member, List.getD_eq_getElem?_getD, there, Option.getD_some]

end Bundle

/-- Places count unmarked fields as well, and of two parents of one type the first one is the view. -/
theorem bundle_arms :
    EventCode.derive Bundle.item = .ok Bundle.code ∧
      Bundle.code.tokens = Bundle.code.listing.text ∧
      Bundle.code.listing.supertypeList Account.typeOf =
        [⟨"Base"⟩, ⟨"Other"⟩, ⟨"Base"⟩, ⟨"Auditable"⟩, ⟨"Auditable"⟩] ∧
      Bundle.code.directArms.map (·.member) = [.index 1, .index 3, .index 4] ∧
      Bundle.code.listing.viewOf Account.typeOf Bundle.value.member ⟨"Base"⟩ = Bundle.held[1]? ∧
      Bundle.code.listing.viewOf Account.typeOf Bundle.value.member ⟨"Other"⟩ = Bundle.held[3]? ∧
      Bundle.code.listing.viewOf Account.typeOf Bundle.value.member ⟨"Root"⟩ =
        some (Bundle.plain "Root") ∧
      Bundle.code.listing.viewOf Account.typeOf Bundle.value.member ⟨"u8"⟩ = none := by
  have derived : EventCode.derive Bundle.item = .ok Bundle.code := by cbv
  obtain ⟨written, _, supertypes, views, _⟩ := arms_follow_fields derived rfl Account.typeOf
  refine ⟨derived, written, ?_, rfl, ?_, ?_, ?_, ?_⟩
  · rw [supertypes]
    cbv
  all_goals
    rw [views]
    cbv

end EventBus.Derive
