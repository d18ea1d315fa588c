import Mathlib
import EventBus.Derive.ErrorValue

/-!
# Which enums an error can be derived for

A variant is `Sound`, or there is just one thing that it `Offends` against: its fields are to have
names, a context is to have the right type, and a source is to have a context beside it. Where the
fields stand makes no difference. `complaints_of_unsound` says that code is derived for the enums
whose variants are all sound, and that for any other enum there is a complaint for each variant that
is not, in their order, and nothing else.
-/

namespace EventBus.Derive

/-! ### The type of a context -/

namespace TypeExpr

variable {t : TypeExpr}

/-- The type is a path, and its last part has the given name and arguments. -/
def EndsIn (t : TypeExpr) (name : String) (arguments : List Argument) : Prop :=
  ∃ detached trailing, t.lastSegment? = some (.applied name detached arguments trailing)

/-- The type is written as `Cow<'static, str>`; what is in front of the names and after the
arguments may be anything. -/
inductive StaticText (t : TypeExpr) : Prop where
  | intro {text more s} :
    t.EndsIn "Cow" (.lifetime "static" :: .type text :: more) →
    text.lastSegment? = some s →
    s.name = "str" →
    StaticText t

/-- The type is written as `Option<Cow<'static, str>>`; what is in front of the names and after the
arguments may be anything. -/
inductive OptionalText (t : TypeExpr) : Prop where
  | intro {text more} :
    t.EndsIn "Option" (.type text :: more) →
    text.StaticText →
    OptionalText t

/-- The arguments that a type is found to have are those after its last name. -/
lemma argumentsOf?_eq_some_cons {name : String} {a : Argument} {as : List Argument} :
    t.argumentsOf? name = some (a :: as) ↔ t.EndsIn name (a :: as) := by
  rw [argumentsOf?]
  constructor
  · intro found
    split at found
    · rename_i s last
      split at found
      · rename_i named
        cases s with
        | plain n => cases found
        | called n signature => cases found
        | applied n detached arguments trailing =>
          cases found
          obtain rfl := eq_of_beq named
          exact ⟨detached, trailing, last⟩
      · cases found
    · cases found
  · rintro ⟨detached, trailing, last⟩
    rw [last]
    exact if_pos (beq_self_eq_true name)

/-- The check for a static text is the shape of one. -/
lemma isStaticText_iff : t.isStaticText = true ↔ t.StaticText := by
  rw [isStaticText]
  constructor
  · intro text
    split at text
    · rename_i text' more found
      obtain ⟨s, last, named⟩ := (Option.any_eq_true _ _).1 text
      exact ⟨argumentsOf?_eq_some_cons.1 found, last, eq_of_beq named⟩
    · cases text
  · rintro ⟨ends, last, named⟩
    rw [argumentsOf?_eq_some_cons.2 ends]
    exact (Option.any_eq_true _ _).2 ⟨_, last, beq_iff_eq.2 named⟩

/-- The check for a context is the shape of one. -/
lemma isContext_iff : t.isContext = true ↔ t.OptionalText := by
  rw [isContext]
  constructor
  · intro context
    split at context
    · rename_i text more found
      exact ⟨argumentsOf?_eq_some_cons.1 found, isStaticText_iff.1 context⟩
    · cases context
  · rintro ⟨ends, text⟩
    rw [argumentsOf?_eq_some_cons.2 ends]
    exact isStaticText_iff.2 text

end TypeExpr

/-! ### Variants -/

namespace NamedField

variable {f : NamedField}

/-- The field is not the context, and it is called `source` or marked as a source. -/
def HoldsSource (f : NamedField) : Prop :=
  f.name ≠ "context" ∧
    (f.name = "source" ∨ ∃ a ∈ f.attributes, a.path = .name "source" ∨ a.path = .name "from")

/-- A field is a context by its name alone. -/
lemma isContext_iff : f.isContext = true ↔ f.name = "context" := beq_iff_eq

/-- The check for a source is what makes a field one. -/
lemma isSource_iff : f.isSource = true ↔ f.HoldsSource := by
  simp [isSource, HoldsSource, Attribute.isNamed, Path.isName]

variable {fields : List NamedField}

/-- No context is found where no field has the name. -/
lemma isEmpty_context_iff :
    (fields.filter (·.isContext)).isEmpty = true ↔ ∀ f ∈ fields, f.name ≠ "context" := by
  simp [List.filter_eq_nil_iff, isContext_iff]

/-- A wrong context is found where a field of the name has another type. -/
lemma any_wrong_iff :
    (fields.filter (·.isContext)).any (!·.type.isContext) = true ↔
      ∃ f ∈ fields, f.name = "context" ∧ ¬f.type.OptionalText := by
  simp [List.any_filter, isContext_iff, ← TypeExpr.isContext_iff]

/-- A source is found where a field holds one. -/
lemma find?_source_isSome :
    (fields.find? (·.isSource)).isSome = true ↔ ∃ f ∈ fields, f.HoldsSource := by
  simp [isSource_iff]

end NamedField

namespace Variant

variable {v : Variant} {m m' : ErrorMistake}

/-- What is asked of a variant. -/
inductive Sound (v : Variant) : Prop where
  | intro {fields} :
    v.fields = .named fields →
    (∀ f ∈ fields, f.name = "context" → f.type.OptionalText) →
    ((∃ f ∈ fields, f.HoldsSource) → ∃ f ∈ fields, f.name = "context") →
    Sound v

/-- What a variant may be blamed for. -/
inductive Offends (v : Variant) : ErrorMistake → Prop where
  | unnamedFields :
    (∀ fields, v.fields ≠ .named fields) →
    Offends v .unnamedFields
  | contextType {fields f} :
    v.fields = .named fields →
    f ∈ fields →
    f.name = "context" →
    ¬f.type.OptionalText →
    Offends v .contextType
  | contextMissing {fields f} :
    v.fields = .named fields →
    (∀ g ∈ fields, g.name ≠ "context") →
    f ∈ fields →
    f.HoldsSource →
    Offends v .contextMissing

/-- The field that holds the source. -/
def sourceField? (v : Variant) : Option NamedField :=
  v.namedFields.find? (·.isSource)

/-- What the code needs to know of a variant. -/
def outline (v : Variant) : ErrorVariant where
  name := v.name
  source := v.sourceField?.map fun f => (f.name, f.type)
  hasContext := !(v.namedFields.filter (·.isContext)).isEmpty
  conditions := Attribute.named "cfg" v.attributes

/-- What the check of a variant with named fields comes to. -/
lemma check_named {fields : List NamedField} (named : v.fields = .named fields) :
    v.check =
      if (fields.filter (·.isContext)).any (!·.type.isContext) then .error .contextType
      else if (fields.find? (·.isSource)).isSome && (fields.filter (·.isContext)).isEmpty then
        .error .contextMissing
      else .ok v.outline := by
  rw [check, outline, sourceField?, namedFields, named]
  dsimp only
  rw [Option.isSome_map]

/-- The check accepts a sound variant, and tells what is to be known of it. -/
lemma Sound.check_eq (sound : v.Sound) : v.check = .ok v.outline := by
  obtain ⟨named, contexts, source⟩ := sound
  rw [check_named named, if_neg, if_neg]
  · rw [Bool.and_eq_true, NamedField.find?_source_isSome, NamedField.isEmpty_context_iff]
    rintro ⟨some, none⟩
    obtain ⟨f, mem, called⟩ := source some
    exact none f mem called
  · rw [NamedField.any_wrong_iff]
    rintro ⟨f, mem, called, wrong⟩
    exact wrong (contexts f mem called)

/-- The check refuses a variant that offends, and says how. -/
lemma Offends.check_eq (offends : v.Offends m) : v.check = .error m := by
  cases offends with
  | unnamedFields unnamed =>
    rw [check]
    split
    · rename_i fields named
      exact absurd named (unnamed fields)
    · rfl
  | contextType named mem called wrong =>
    rw [check_named named, if_pos (NamedField.any_wrong_iff.2 ⟨_, mem, called, wrong⟩)]
  | contextMissing named none mem source =>
    rw [check_named named, if_neg, if_pos]
    · rw [Bool.and_eq_true, NamedField.find?_source_isSome, NamedField.isEmpty_context_iff]
      exact ⟨⟨_, mem, source⟩, none⟩
    · rw [NamedField.any_wrong_iff]
      rintro ⟨g, mem, called, _⟩
      exact none g mem called

/-- A variant is sound or offends. -/
lemma sound_or_offends (v : Variant) : v.Sound ∨ ∃ m, v.Offends m := by
  by_cases named : ∃ fields, v.fields = .named fields
  · obtain ⟨fields, named⟩ := named
    by_cases contexts : ∀ f ∈ fields, f.name = "context" → f.type.OptionalText
    · by_cases source : (∃ f ∈ fields, f.HoldsSource) → ∃ f ∈ fields, f.name = "context"
      · exact .inl ⟨named, contexts, source⟩
      · push Not at source
        obtain ⟨⟨f, mem, holds⟩, none⟩ := source
        exact .inr ⟨_, .contextMissing named none mem holds⟩
    · push Not at contexts
      obtain ⟨f, mem, called, wrong⟩ := contexts
      exact .inr ⟨_, .contextType named mem called wrong⟩
  · push Not at named
    exact .inr ⟨_, .unnamedFields named⟩

/-- A variant offends in one way only. -/
lemma Offends.unique (offends : v.Offends m) (offends' : v.Offends m') : m = m' := by
  have same := offends.check_eq
  rw [offends'.check_eq] at same
  cases same
  rfl

/-- No variant that offends is sound. -/
lemma Offends.not_sound (offends : v.Offends m) : ¬v.Sound := by
  intro sound
  have same := offends.check_eq
  rw [sound.check_eq] at same
  cases same

end Variant

/-! ### Enums -/

/-- Complaints about some variants: one for each that is not sound, in their order. -/
inductive Complaints : List Variant → List ErrorMistake → Prop where
  | nil :
    Complaints [] []
  | sound {v vs ms} :
    v.Sound →
    Complaints vs ms →
    Complaints (v :: vs) ms
  | offends {v vs m ms} :
    v.Offends m →
    Complaints vs ms →
    Complaints (v :: vs) (m :: ms)

variable {vs : List Variant} {ms : List ErrorMistake}

namespace Complaints

/-- There is a list of complaints about any variants. -/
lemma exists_complaints (vs : List Variant) : ∃ ms, Complaints vs ms := by
  induction vs with
  | nil => exact ⟨[], .nil⟩
  | cons v vs ih =>
    obtain ⟨ms, complaints⟩ := ih
    obtain sound | ⟨m, offends⟩ := v.sound_or_offends
    · exact ⟨ms, .sound sound complaints⟩
    · exact ⟨m :: ms, .offends offends complaints⟩

/-- Nobody complains just if all variants are sound. -/
lemma nil_iff (complaints : Complaints vs ms) : ms = [] ↔ ∀ v ∈ vs, v.Sound := by
  induction complaints with
  | nil => exact ⟨fun _ => List.forall_mem_nil _, fun _ => rfl⟩
  | sound sound _ ih => rw [ih, List.forall_mem_cons, and_iff_right sound]
  | offends offends _ _ =>
    constructor
    · rintro ⟨⟩
    · intro sound
      exact absurd (sound _ List.mem_cons_self) offends.not_sound

/-- All complaints are found, or else what is to be known of all the variants. -/
lemma checkAll_eq (complaints : Complaints vs ms) :
    checkAll vs = if ms = [] then .ok (vs.map Variant.outline) else .error ms := by
  induction complaints with
  | nil => rfl
  | @sound v vs ms sound complaints ih =>
    rw [checkAll, sound.check_eq, ih]
    by_cases none : ms = []
    · rw [if_pos none, if_pos none]
      rfl
    · rw [if_neg none, if_neg none]
  | @offends v vs m ms offends complaints ih =>
    rw [checkAll, offends.check_eq, ih, if_neg (List.cons_ne_nil _ _)]
    by_cases none : ms = []
    · rw [if_pos none, none]
    · rw [if_neg none]

end Complaints

/-- If all are accepted, all are sound, and what is known of each is as it should be. -/
lemma of_checkAll {es : List ErrorVariant} (ok : checkAll vs = .ok es) :
    (∀ v ∈ vs, v.Sound) ∧ es = vs.map Variant.outline := by
  obtain ⟨ms, complaints⟩ := Complaints.exists_complaints vs
  rw [complaints.checkAll_eq] at ok
  split at ok
  · rename_i none
    cases ok
    exact ⟨complaints.nil_iff.1 none, rfl⟩
  · cases ok

/-- The code of an enum is made of what is to be known of its variants, which are sound. -/
lemma derive_enum {item : Item} {code : ErrorCode} (derived : ErrorCode.derive item = .ok code)
    (body : item.body = .enum vs) :
    (∀ v ∈ vs, v.Sound) ∧ code = .ofVariants item.toHeader vs (vs.map Variant.outline) := by
  rw [ErrorCode.derive, body] at derived
  dsimp only at derived
  cases checked : checkAll vs with
  | error ms =>
    rw [checked] at derived
    cases derived
  | ok es =>
    rw [checked] at derived
    cases derived
    obtain ⟨sound, rfl⟩ := of_checkAll checked
    exact ⟨sound, rfl⟩

/-- Code is derived for an enum whose variants are sound. -/
lemma derive_of_sound {item : Item} (body : item.body = .enum vs) (sound : ∀ v ∈ vs, v.Sound) :
    ErrorCode.derive item = .ok (.ofVariants item.toHeader vs (vs.map Variant.outline)) := by
  obtain ⟨ms, complaints⟩ := Complaints.exists_complaints vs
  rw [ErrorCode.derive, body]
  dsimp only
  rw [complaints.checkAll_eq, if_pos (complaints.nil_iff.2 sound)]
  rfl

/-- Code is derived for an enum just if all its variants are sound. For any other there is nothing
but complaints, one for each variant that is not sound, in their order; and there is just one thing
that such a variant offends against. -/
theorem complaints_of_unsound {item : Item} {variants : List Variant}
    (body : item.body = .enum variants) :
    ((∃ code, ErrorCode.derive item = .ok code) ↔ ∀ v ∈ variants, v.Sound) ∧
      ((¬∀ v ∈ variants, v.Sound) →
        ∃ ms, Complaints variants ms ∧ ErrorCode.derive item = .error ms) ∧
      (∀ v : Variant, ¬v.Sound ↔ ∃ m, v.Offends m) ∧
      (∀ (v : Variant) (m m' : ErrorMistake), v.Offends m → v.Offends m' → m = m') := by
  obtain ⟨ms, complaints⟩ := Complaints.exists_complaints variants
  refine ⟨?_, ?_, ?_, fun v m m' offends => offends.unique⟩
  · rw [ErrorCode.derive, body, ← complaints.nil_iff]
    dsimp only
    rw [complaints.checkAll_eq]
    by_cases none : ms = []
    · rw [if_pos none]
      exact ⟨fun _ => none, fun _ => ⟨_, rfl⟩⟩
    · rw [if_neg none]
      constructor
      · rintro ⟨_, ⟨⟩⟩
      · exact fun empty => absurd empty none
  · intro unsound
    rw [← complaints.nil_iff] at unsound
    refine ⟨ms, complaints, ?_⟩
    rw [ErrorCode.derive, body]
    dsimp only
    rw [complaints.checkAll_eq, if_neg unsound]
    rfl
  · intro v
    constructor
    · intro unsound
      exact v.sound_or_offends.resolve_left unsound
    · rintro ⟨m, offends⟩
      exact offends.not_sound

namespace Faulty

def named (n : String) : TypeExpr := .named false [.plain n]

def optional (t : TypeExpr) : TypeExpr := .named false [.applied "Option" false [.type t] false]

def text : TypeExpr :=
  .named false
    [.plain "std", .plain "borrow",
      .applied "Cow" false [.lifetime "static", .type (named "str")] false]

def field (name : String) (type : TypeExpr) (attributes : List Attribute) : NamedField :=
  { attributes := attributes, visibility := [], type := type, name := name }

/-- Variants of which the third is sound; the second and the fourth have a source. -/
def variants : List Variant :=
  [⟨[], "Bare", .positional [⟨[.word (.name "from")], [], named "Failure"⟩], []⟩,
    ⟨[], "Mistyped",
      .named [field "source" (named "Failure") [], field "context" (optional (named "String")) []], []⟩,
    ⟨[], "Fine",
      .named [field "context" (optional text) [], field "source" (named "Failure") []], []⟩,
    ⟨[], "Alone", .named [field "cause" (named "Failure") [.word (.name "from")]], []⟩,
    ⟨[], "Gone", .unit, []⟩]

def item : Item :=
  { attributes := [], visibility := [], name := "Faulty", generics := ⟨[], false⟩, conditions := []
    body := .enum variants }

end Faulty

/-- Four complaints about five variants, none about the sound one between them. -/
theorem faulty_complaints :
    Faulty.item.body = .enum Faulty.variants ∧
      ErrorCode.derive Faulty.item =
        .error [.unnamedFields, .contextType, .contextMissing, .unnamedFields] ∧
      Complaints Faulty.variants
        [.unnamedFields, .contextType, .contextMissing, .unnamedFields] := by
  have derived : ErrorCode.derive Faulty.item =
      .error [.unnamedFields, .contextType, .contextMissing, .unnamedFields] := by cbv
  obtain ⟨accepted, complains, _⟩ := complaints_of_unsound (show Faulty.item.body = .enum Faulty.variants from rfl)
  have unsound : ¬∀ v ∈ Faulty.variants, v.Sound := by
    rw [← accepted, derived]
    rintro ⟨_, ⟨⟩⟩
  obtain ⟨ms, complaints, failed⟩ := complains unsound
  rw [derived] at failed
  cases failed
  exact ⟨rfl, derived, complaints⟩

end EventBus.Derive
