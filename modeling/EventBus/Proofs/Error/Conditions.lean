import Mathlib
import EventBus.Proofs.Error.Constructions
import EventBus.Proofs.Error.Listing

/-!
# Conditions of variants

What is made for a variant carries the conditions of that variant, and nothing else is made that
depends on it. So the parts of the code that are left when the conditions are looked at are those
that the variants which are left give: `derive_enabled_comm` says that it makes no difference whether
code is derived first and conditions are looked at then, in the attributes that the tokens show, or
the other way round.
-/

namespace EventBus.Derive

variable {holds : Attribute → Bool}

/-- Of the attributes only the conditions are looked at. -/
lemma allHold_named (as : List Attribute) :
    ErrorCode.allHold holds (Attribute.named "cfg" as) = ErrorCode.allHold holds as := by
  rw [ErrorCode.allHold, ErrorCode.allHold, Attribute.named, Attribute.named, List.filter_filter]
  simp only [Bool.and_self]

/-- Of parts that carry the conditions of their variants those are left whose variants are left. -/
lemma filter_parts {P : Type} {conditions : P → List Attribute} {parts : Variant → List P}
    (carried : ∀ v, ∀ p ∈ parts v, conditions p = Attribute.named "cfg" v.attributes)
    (vs : List Variant) :
    (vs.flatMap parts).filter (fun p => ErrorCode.allHold holds (conditions p)) =
      (ErrorCode.enabledVariants holds vs).flatMap parts := by
  induction vs with
  | nil => rfl
  | cons v vs ih =>
    have same : ∀ p ∈ parts v,
        ErrorCode.allHold holds (conditions p) = ErrorCode.allHold holds v.attributes := by
      intro p mem
      rw [carried v p mem, allHold_named]
    rw [List.flatMap_cons, List.filter_append, ih, ErrorCode.enabledVariants,
      ErrorCode.enabledVariants, List.filter_cons]
    cases live : ErrorCode.allHold holds v.attributes with
    | true =>
      rw [List.filter_eq_self.2 fun p mem => (same p mem).trans live]
      rfl
    | false =>
      rw [List.filter_eq_nil_iff.2 fun p mem => by rw [same p mem, live]; exact Bool.false_ne_true]
      rfl

/-! ### Parts and their variants -/

namespace Variant

/-- The arm of a variant carries its conditions. -/
lemma conditions_of_arm (v : Variant) :
    ∀ a ∈ v.outline.arms, a.conditions = Attribute.named "cfg" v.attributes := by
  intro a mem
  rw [ErrorVariant.arms] at mem
  split at mem
  · rw [List.mem_singleton.1 mem, outline]
  · cases mem

/-- So do its implementations. -/
lemma conditions_of_impl (v : Variant) :
    ∀ i ∈ v.outline.impls, i.conditions = Attribute.named "cfg" v.attributes := by
  intro i mem
  obtain ⟨f, p, _, rfl⟩ := mem_impls.1 mem
  rfl

/-- A variant has an arm just if it has a context. -/
lemma arms_variant (v : Variant) :
    v.outline.arms.map (·.variant) = if "context" ∈ v.fieldNames then [v.name] else [] := by
  rw [ErrorVariant.arms]
  by_cases has : "context" ∈ v.fieldNames
  · rw [if_pos (outline_hasContext.2 has), if_pos has]
    rfl
  · rw [if_neg (mt outline_hasContext.1 has), if_neg has]
    rfl

/-- A variant has an implementation for each purpose just if it has a source. -/
lemma impls_variant (v : Variant) :
    v.outline.impls.map (fun i => (i.purpose, i.result.variant)) =
      if v.sourceField?.isSome then [(.conversion, v.name), (.context, v.name)] else [] := by
  cases has : v.sourceField? with
  | none =>
    rw [impls_of_none has]
    rfl
  | some f =>
    rw [impls_of_source has]
    rfl

end Variant

namespace ErrorCode

variable {h : Header} {vs : List Variant}

/-- The code of an enum, made of what is to be known of its variants. -/
lemma arms_ofVariants :
    (ofVariants h vs (vs.map Variant.outline)).arms = vs.flatMap fun v => v.outline.arms :=
  List.flatMap_map ..

/-- The implementations in the code of an enum are those of its variants. -/
lemma impls_ofVariants :
    (ofVariants h vs (vs.map Variant.outline)).impls = vs.flatMap fun v => v.outline.impls :=
  List.flatMap_map ..

/-- An arm reads as one for its variant. -/
lemma arms_listing {code : ErrorCode} :
    code.listing.arms.map (·.variant) = code.arms.map (·.variant) := by
  rw [listing, List.map_map]
  rfl

/-- An implementation reads as one that makes its variant. -/
lemma impls_listing {code : ErrorCode} :
    code.listing.impls.map (fun i => (i.purpose, i.literal.variant)) =
      code.impls.map fun i => (i.purpose, i.result.variant) := by
  rw [listing, List.map_map]
  rfl

/-- What is left of the code is the code of what is left of the variants. -/
lemma enabled_ofVariants :
    (ofVariants h vs (vs.map Variant.outline)).enabled holds =
      ofVariants h (enabledVariants holds vs) ((enabledVariants holds vs).map Variant.outline) := by
  have arms : (vs.flatMap fun v => v.outline.arms).filter (fun a => allHold holds a.conditions) =
      (enabledVariants holds vs).flatMap fun v => v.outline.arms :=
    filter_parts Variant.conditions_of_arm vs
  have impls : (vs.flatMap fun v => v.outline.impls).filter (fun i => allHold holds i.conditions) =
      (enabledVariants holds vs).flatMap fun v => v.outline.impls :=
    filter_parts Variant.conditions_of_impl vs
  rw [enabled, arms_ofVariants, impls_ofVariants, arms, impls, ← arms_ofVariants (h := h),
    ← impls_ofVariants (h := h)]
  rfl

end ErrorCode

/-- The tokens derived for an enum are the text of a listing, and to take out of that listing what has
a condition that does not hold gives the text of the code for the enum without the variants that do
not hold, which is accepted as well. What is left are the arms of those variants that are left and
have a context, and two implementations for each that is left and has a source. -/
theorem derive_enabled_comm {item : Item} {variants : List Variant} {code : ErrorCode}
    (body : item.body = .enum variants) (derived : ErrorCode.derive item = .ok code)
    (holds : Attribute → Bool) :
    code.tokens = code.listing.text ∧
    (∃ code' : ErrorCode,
      ErrorCode.derive { item with body := .enum (ErrorCode.enabledVariants holds variants) } =
        .ok code' ∧
      code'.listing = code.listing.strip holds ∧
      code'.tokens = (code.listing.strip holds).text) ∧
    (code.listing.strip holds).arms.map (·.variant) =
      (ErrorCode.enabledVariants holds variants).flatMap (fun v =>
        if "context" ∈ v.fieldNames then [v.name] else []) ∧
    (code.listing.strip holds).impls.map (fun i => (i.purpose, i.literal.variant)) =
      (ErrorCode.enabledVariants holds variants).flatMap (fun v =>
        if v.sourceField?.isSome then [(.conversion, v.name), (.context, v.name)] else []) := by
  obtain ⟨sound, rfl⟩ := derive_enum derived body
  rw [ErrorCode.strip_listing, ErrorCode.enabled_ofVariants]
  refine ⟨ErrorCode.tokens_eq_text _, ⟨_, ?_, rfl, ErrorCode.tokens_eq_text _⟩, ?_, ?_⟩
  · exact derive_of_sound rfl fun v mem => sound v (List.mem_filter.1 mem).1
  · rw [ErrorCode.arms_listing, ErrorCode.arms_ofVariants, List.map_flatMap]
    simp only [Variant.arms_variant]
  · rw [ErrorCode.impls_listing, ErrorCode.impls_ofVariants, List.map_flatMap]
    simp only [Variant.impls_variant]

namespace Portable

open Faulty (named optional text field)

def unix : Attribute := .list (.name "cfg") .round [[.word "unix"]]

def notUnix : Attribute :=
  .list (.name "cfg") .round [[.word "not", .group .round [.word "unix"]]]

def opening : Variant :=
  ⟨[unix], "Opening",
    .named [field "source" (named "Failure") [], field "context" (optional text) []], []⟩

def closing : Variant :=
  ⟨[], "Closing",
    .named [field "code" (named "i32") [], field "context" (optional text) []], []⟩

/-- Two variants have one name, of which one is there at a time; the last one never is. -/
def variants : List Variant :=
  [opening,
    ⟨[notUnix], "Opening",
      .named [field "context" (optional text) [],
        field "cause" (named "u32") [.word (.name "from")]], []⟩,
    closing,
    ⟨[unix, notUnix], "Never",
      .named [field "source" (named "Nothing") [], field "context" (optional text) []], []⟩]

def item : Item :=
  { attributes := [], visibility := [], name := "Portable", generics := ⟨[], false⟩
    conditions := [], body := .enum variants }

def code : ErrorCode := .ofVariants item.toHeader variants (variants.map Variant.outline)

def onUnix (a : Attribute) : Bool := a.tokens == unix.tokens

/-- Two variants are there under this condition. -/
lemma enabled_eq : ErrorCode.enabledVariants onUnix variants = [opening, closing] := by cbv

end Portable

/-- Of six implementations and four arms two of each are left. -/
theorem portable_enabled :
    ErrorCode.derive Portable.item = .ok Portable.code ∧
      (∃ code : ErrorCode,
        ErrorCode.derive { Portable.item with body := .enum [Portable.opening, Portable.closing] } =
          .ok code ∧
        code.tokens = (Portable.code.listing.strip Portable.onUnix).text) ∧
      (Portable.code.listing.strip Portable.onUnix).arms.map (·.variant) =
        ["Opening", "Closing"] ∧
      (Portable.code.listing.strip Portable.onUnix).impls.map
          (fun i => (i.purpose, i.literal.variant)) =
        [(.conversion, "Opening"), (.context, "Opening")] := by
  have derived : ErrorCode.derive Portable.item = .ok Portable.code := by cbv
  obtain ⟨_, left, arms, impls⟩ := derive_enabled_comm rfl derived Portable.onUnix
  rw [Portable.enabled_eq] at left arms impls
  obtain ⟨code, accepted, _, written⟩ := left
  refine ⟨derived, ⟨code, accepted, written⟩, arms.trans ?_, impls.trans ?_⟩
  · decide
  · decide

end EventBus.Derive
