import Mathlib
import EventBus.Proofs.Error.Complaints

/-!
# What is made of a source

For the source of a variant there are two implementations, and each makes a value of that variant. A
construction `Wraps` a source if it names the field of the source and the context, each once, and
nothing else. `constructions_wrap` says that all of them do so. Whether they name every field of the
variant is another matter: they do just if it has no other fields, which nothing asks of it.
`located_uncovered` has a variant that says where its source comes from.
-/

namespace EventBus.Derive

/-! ### Fields that are named -/

namespace Construction

variable {c : Construction} {v : Variant} {f : NamedField} {n : String}

/-- The fields that the construction names. -/
def names (c : Construction) : List String := c.fields.map (·.1)

/-- The construction names each field of the variant exactly once, and no other field. -/
structure Covers (c : Construction) (v : Variant) : Prop where
  variant : c.variant = v.name
  once : ∀ n ∈ v.fieldNames, c.names.count n = 1
  known : ∀ n ∈ c.names, n ∈ v.fieldNames

/-- The construction names two fields of the variant, the given one and the context, each exactly once,
and no other field. -/
structure Wraps (c : Construction) (v : Variant) (f : NamedField) : Prop where
  variant : c.variant = v.name
  count : ∀ n, c.names.count n = if n = f.name ∨ n = "context" then 1 else 0
  source : f.name ∈ v.fieldNames
  context : "context" ∈ v.fieldNames

/-- A construction that covers a variant names its fields in some order. -/
lemma Covers.perm (covers : c.Covers v) (distinct : v.fieldNames.Nodup) :
    c.names.Perm v.fieldNames := by
  rw [List.perm_iff_count]
  intro n
  by_cases mem : n ∈ v.fieldNames
  · rw [covers.once n mem, List.count_eq_one_of_mem distinct mem]
  · rw [List.count_eq_zero.2 mem, List.count_eq_zero.2 (mt (covers.known n) mem)]

/-- Where fields have different names, the constructions that cover a variant are those that are
accepted for it. -/
lemma completes_iff (distinct : v.fieldNames.Nodup) : c.completes v = true ↔ c.Covers v := by
  rw [completes, Bool.and_eq_true, beq_iff_eq, List.isPerm_iff]
  constructor
  · rintro ⟨same, perm⟩
    refine ⟨same, ?_, fun n => perm.mem_iff.1⟩
    intro n mem
    rw [names, perm.count_eq, List.count_eq_one_of_mem distinct mem]
  · intro covers
    exact ⟨covers.variant, covers.perm distinct⟩

namespace Wraps

/-- What is named is the source or the context. -/
lemma mem_names (wraps : c.Wraps v f) : n ∈ c.names ↔ n = f.name ∨ n = "context" := by
  rw [← List.one_le_count_iff, wraps.count]
  split
  · rename_i named
    exact iff_of_true le_rfl named
  · rename_i other
    exact iff_of_false (by omega) other

/-- What is named is a field of the variant. -/
lemma known (wraps : c.Wraps v f) (mem : n ∈ c.names) : n ∈ v.fieldNames := by
  obtain rfl | rfl := wraps.mem_names.1 mem
  · exact wraps.source
  · exact wraps.context

/-- No field is missing just if there are no others. -/
lemma covers_iff (wraps : c.Wraps v f) :
    c.Covers v ↔ ∀ n ∈ v.fieldNames, n = f.name ∨ n = "context" := by
  constructor
  · intro covers n mem
    have once := covers.once n mem
    exact wraps.mem_names.1 (List.one_le_count_iff.1 once.ge)
  · intro only
    refine ⟨wraps.variant, ?_, fun n => wraps.known⟩
    intro n mem
    rw [wraps.count, if_pos (only n mem)]

end Wraps

end Construction

/-! ### What is made for a variant -/

namespace Variant

variable {v : Variant} {f : NamedField} {p : Purpose}

/-- What is known of a variant tells if it has a context. -/
lemma outline_hasContext : v.outline.hasContext = true ↔ "context" ∈ v.fieldNames := by
  simp [outline, fieldNames, List.filter_eq_nil_iff, NamedField.isContext_iff]

/-- The implementation for the source of a variant, which is in the given field. -/
def implOf (v : Variant) (f : NamedField) (p : Purpose) : SourceImpl where
  conditions := Attribute.named "cfg" v.attributes
  purpose := p
  source := f.type
  parameter := f.name
  result := ⟨v.name, [(f.name, .source), ("context",
    match p with
    | .conversion => .noContext
    | .context => .givenContext)]⟩

/-- A variant with a source has an implementation for each purpose. -/
lemma impls_of_source (has : v.sourceField? = some f) :
    v.outline.impls = [v.implOf f .conversion, v.implOf f .context] := by
  rw [ErrorVariant.impls, outline, has]
  rfl

/-- A variant without one has none. -/
lemma impls_of_none (none : v.sourceField? = none) : v.outline.impls = [] := by
  rw [ErrorVariant.impls, outline, none]
  rfl

/-- The source is a field of the variant, and is not the context. -/
lemma sourceField?_mem (has : v.sourceField? = some f) :
    f.name ∈ v.fieldNames ∧ f.name ≠ "context" :=
  ⟨List.mem_map_of_mem (List.mem_of_find?_eq_some has),
    (NamedField.isSource_iff.1 (List.find?_some has)).1⟩

/-- A sound variant with a source has a context. -/
lemma Sound.context_mem (sound : v.Sound) (has : v.sourceField? = some f) :
    "context" ∈ v.fieldNames := by
  obtain ⟨named, _, source⟩ := sound
  rw [sourceField?, namedFields, named] at has
  rw [fieldNames, namedFields, named]
  obtain ⟨g, mem, called⟩ :=
    source ⟨f, List.mem_of_find?_eq_some has, NamedField.isSource_iff.1 (List.find?_some has)⟩
  rw [← called]
  exact List.mem_map_of_mem mem

/-- Every implementation is for a source, and for one of the purposes. -/
lemma mem_impls {i : SourceImpl} :
    i ∈ v.outline.impls ↔ ∃ f p, v.sourceField? = some f ∧ i = v.implOf f p := by
  cases has : v.sourceField? with
  | none =>
    rw [impls_of_none has]
    constructor
    · rintro ⟨⟩
    · rintro ⟨_, _, ⟨⟩, _⟩
  | some f =>
    rw [impls_of_source has, List.mem_pair]
    constructor
    · rintro (rfl | rfl)
      · exact ⟨f, .conversion, rfl, rfl⟩
      · exact ⟨f, .context, rfl, rfl⟩
    · rintro ⟨_, p, ⟨⟩, rfl⟩
      cases p with
      | conversion => exact .inl rfl
      | context => exact .inr rfl

/-- Its construction names the source and then the context. -/
lemma implOf_names : (v.implOf f p).result.names = [f.name, "context"] := rfl

/-- The check of the variant sees to it that there is a context, whose name no source has. -/
lemma Sound.wraps (sound : v.Sound) (has : v.sourceField? = some f) :
    (v.implOf f p).result.Wraps v f where
  variant := rfl
  count := by
    intro n
    have distinct : [f.name, "context"].Nodup := by simpa using (v.sourceField?_mem has).2
    rw [implOf_names, distinct.count]
    simp only [List.mem_pair]
  source := (v.sourceField?_mem has).1
  context := sound.context_mem has

end Variant

/-- In the code of an enum, every construction is for a variant with a source, and it names just the
source and the context, each of them once, which are fields of that variant; for every variant with a
source there are two, one for each purpose. So a construction names every field of its variant just if
the variant has no other, and otherwise it lacks all the others. -/
theorem constructions_wrap {item : Item} {variants : List Variant} {code : ErrorCode}
    (body : item.body = .enum variants) (derived : ErrorCode.derive item = .ok code) :
    (∀ i ∈ code.impls, ∃ v ∈ variants, ∃ f, v.sourceField? = some f ∧ i.result.Wraps v f ∧
      (i.result.Covers v ↔ ∀ n ∈ v.fieldNames, n = f.name ∨ n = "context")) ∧
    (∀ v ∈ variants, ∀ f, v.sourceField? = some f → ∀ p,
      ∃ i ∈ code.impls, i.purpose = p ∧ i.result.Wraps v f) := by
  obtain ⟨sound, rfl⟩ := derive_enum derived body
  rw [ErrorCode.ofVariants]
  dsimp only
  rw [List.flatMap_map]
  constructor
  · intro i mem
    obtain ⟨v, there, mem⟩ := List.mem_flatMap.1 mem
    obtain ⟨f, p, has, rfl⟩ := Variant.mem_impls.1 mem
    have wraps := (sound v there).wraps (p := p) has
    exact ⟨v, there, f, has, wraps, wraps.covers_iff⟩
  · intro v there f has p
    have mem : v.implOf f p ∈ v.outline.impls := Variant.mem_impls.2 ⟨f, p, has, rfl⟩
    exact ⟨v.implOf f p, List.mem_flatMap.2 ⟨v, there, mem⟩, rfl, (sound v there).wraps has⟩

namespace Located

open Faulty (named optional text field)

def failure : TypeExpr := .named false [.plain "std", .plain "io", .plain "Error"]

def origin : NamedField := field "source" failure []

def cause : NamedField := field "cause" (named "Failure") [.word (.name "from")]

/-- A variant that holds more than its source and the context. -/
def reading : Variant :=
  ⟨[], "Reading",
    .named [origin, field "path" (named "String") [], field "context" (optional text) []], []⟩

def closing : Variant :=
  ⟨[], "Closing", .named [field "context" (optional text) [], cause], []⟩

def variants : List Variant := [reading, closing]

def item : Item :=
  { attributes := [], visibility := [], name := "StoreError", generics := ⟨[], false⟩
    conditions := [], body := .enum variants }

def code : ErrorCode := .ofVariants item.toHeader variants (variants.map Variant.outline)

/-- Code is derived for the enum. -/
lemma derived : ErrorCode.derive item = .ok code := by cbv

end Located

/-- Code is derived for an enum although a field of a variant is missing in what is made of its
source. -/
theorem located_uncovered :
    Located.item.body = .enum Located.variants ∧
      ErrorCode.derive Located.item = .ok Located.code ∧
      ∃ i ∈ Located.code.impls, i.result.variant = "Reading" ∧
        "path" ∈ Located.reading.fieldNames ∧ "path" ∉ i.result.names ∧
        ∀ v ∈ Located.variants, ¬i.result.Covers v := by
  refine ⟨rfl, Located.derived, Located.reading.implOf Located.origin .conversion,
    List.mem_cons_self, rfl, by decide, by decide, ?_⟩
  intro v mem covers
  rw [Located.variants, List.mem_pair] at mem
  obtain rfl | rfl := mem
  · exact absurd (covers.once "path" (by decide)) (by decide)
  · exact absurd covers.variant (by decide)

/-- Of the two variants one is covered by what is made of its source, the other is not. -/
theorem located_wraps :
    Located.item.body = .enum Located.variants ∧
      ErrorCode.derive Located.item = .ok Located.code ∧
      (∃ i ∈ Located.code.impls, i.result.Wraps Located.closing Located.cause ∧
        i.result.Covers Located.closing) ∧
      ∃ i ∈ Located.code.impls, i.result.Wraps Located.reading Located.origin ∧
        ¬i.result.Covers Located.reading := by
  obtain ⟨_, made⟩ := constructions_wrap rfl Located.derived
  obtain ⟨i, mem, _, wraps⟩ :=
    made Located.closing (List.mem_pair.2 (.inr rfl)) Located.cause rfl .conversion
  obtain ⟨j, mem', _, wraps'⟩ :=
    made Located.reading (List.mem_pair.2 (.inl rfl)) Located.origin rfl .context
  refine ⟨rfl, Located.derived, ⟨i, mem, wraps, ?_⟩, ⟨j, mem', wraps', ?_⟩⟩
  · rw [wraps.covers_iff]
    decide
  · rw [wraps'.covers_iff]
    decide

end EventBus.Derive
