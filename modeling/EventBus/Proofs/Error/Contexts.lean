import EventBus.Proofs.Error.Conditions

/-!
# Contexts and sources of errors

An `ErrorType` is an enum with the code derived for it; of both, only the parts count whose conditions
hold. `context_laws` says that the derived tokens are the text of a listing, and what that listing
does with values: putting a result into a context replaces the context of the error and nothing else,
and putting a source into a context is converting it first and then putting the error into the
context.
-/

namespace EventBus.Derive

variable {τ α β : Type}

/-! ### Error types -/

/-- An enum that an error can be derived for. -/
structure ErrorType (τ : Type) where
  item : Item
  variants : List Variant
  body : item.body = .enum variants
  code : ErrorCode
  derived : ErrorCode.derive item = .ok code
  /-- Which conditions hold. -/
  holds : Attribute → Bool
  /-- What an expression stands for, in the implementations as well as in the enum. -/
  typeOf : TypeExpr → τ
  /-- The error type itself. -/
  self : τ

namespace ErrorType

variable {E : ErrorType τ}

/-- The variants whose conditions hold. -/
def live (E : ErrorType τ) : List Variant := ErrorCode.enabledVariants E.holds E.variants

/-- What is to be read in the code, without the parts whose conditions do not hold. -/
def compiled (E : ErrorType τ) : ErrorListing := E.code.listing.strip E.holds

/-- The variants that count are sound. -/
lemma sound {v : Variant} (mem : v ∈ E.live) : v.Sound :=
  (derive_enum E.derived E.body).1 v (List.mem_filter.1 mem).1

/-- The part of the code that counts is the code of the variants that count. -/
lemma compiled_eq : E.compiled =
    (ErrorCode.ofVariants E.item.toHeader E.live (E.live.map Variant.outline)).listing := by
  rw [compiled, ErrorCode.strip_listing, (derive_enum E.derived E.body).2,
    ErrorCode.enabled_ofVariants]
  rfl

/-- What counts is still of the same item. -/
lemma compiled_header : E.compiled.header = E.item.toHeader := by
  rw [compiled_eq]
  rfl

/-- The variants in it are those that count. -/
lemma compiled_variants : E.compiled.variants = E.live := by
  rw [compiled_eq]
  rfl

/-- The arms in it are those of the variants that count. -/
lemma compiled_arms : E.compiled.arms =
    (E.live.flatMap fun v => v.outline.arms).map (ErrorCode.armListing E.item.toHeader) := by
  rw [compiled_eq, ErrorCode.listing, ErrorCode.arms_ofVariants]
  rfl

/-- The implementations in it are those for their sources. -/
lemma compiled_impls : E.compiled.impls =
    (E.live.flatMap fun v => v.outline.impls).map (ErrorCode.implListing E.item.toHeader) := by
  rw [compiled_eq, ErrorCode.listing, ErrorCode.impls_ofVariants]
  rfl

end ErrorType

/-! ### Values -/

/-- Looking up a key among changed values changes what is found. -/
lemma lookup_map_values {values : List (String × α)} {f : String → α → β} {n : String} :
    (values.map fun v => (v.1, f v.1 v.2)).lookup n = (values.lookup n).map (f n) := by
  induction values with
  | nil => rfl
  | cons v vs ih =>
    rw [List.map_cons, List.lookup_cons, List.lookup_cons, ih]
    by_cases same : n = v.1
    · rw [same, beq_self_eq_true]
      rfl
    · rw [beq_eq_false_iff_ne.2 same]

namespace ErrorValue

variable {e : ErrorValue α} {a b : String} {v : Variant}

/-- The value is of the variant. -/
structure Of (e : ErrorValue α) (v : Variant) : Prop where
  variant : e.variant = v.name
  names : e.fields.map (·.1) = v.fieldNames
  context : ∀ f ∈ e.fields, f.1 = "context" ↔ ∃ text, f.2 = .context text

/-- A field of the variant is found in a value of it. -/
lemma Of.get?_isSome {field : String} (of : e.Of v) (has : field ∈ v.fieldNames) :
    (e.get? field).isSome = true := by
  rw [← of.names] at has
  obtain ⟨f, mem, rfl⟩ := List.mem_map.1 has
  exact List.lookup_isSome_iff.2 ⟨f, mem, beq_self_eq_true f.1⟩

/-- What is put into a field is found there, and elsewhere what was there. -/
lemma get?_put {field n : String} :
    (e.put n a).get? field =
      (e.get? field).map fun held => if field = n then .context (some a) else held :=
  lookup_map_values (f := fun field (held : FieldValue α) =>
    if field = n then FieldValue.context (some a) else held)

/-- The new context is there in place of the old one. -/
lemma Of.get?_context (of : e.Of v) (has : "context" ∈ v.fieldNames) :
    (e.put "context" a).get? "context" = some (.context (some a)) := by
  obtain ⟨held, there⟩ := Option.isSome_iff_exists.1 (of.get?_isSome has)
  rw [get?_put, there, Option.map_some, if_pos rfl]

/-- Whatever is put into the context, the other fields hold what they held. -/
lemma get?_put_of_ne {field : String} (other : field ≠ "context") :
    (e.put "context" a).get? field = e.get? field := by
  simp only [get?_put, if_neg other, Option.map_id']

/-- What is put into a field last is what counts. -/
lemma put_put {n : String} : (e.put n a).put n b = e.put n b := by
  rw [put, put, put, List.map_map]
  congr 1
  apply List.map_congr_left
  intro f _
  by_cases called : f.1 = n
  · simp [called]
  · simp [called]

/-- With another context, a value is still of its variant. -/
lemma Of.put (of : e.Of v) : (e.put "context" a).Of v where
  variant := of.variant
  names := by
    rw [ErrorValue.put, List.map_map]
    exact of.names
  context := by
    intro f mem
    obtain ⟨g, there, rfl⟩ := List.mem_map.1 mem
    dsimp only
    by_cases called : g.1 = "context"
    · rw [if_pos called]
      exact ⟨fun _ => ⟨_, rfl⟩, fun _ => called⟩
    · rw [if_neg called]
      exact of.context g there

end ErrorValue

/-- The value of a variant all whose fields but the context hold the same. -/
def Variant.filled (v : Variant) (source : α) (context : Option String) : ErrorValue α :=
  ⟨v.name, v.fieldNames.map fun n => (n, if n = "context" then .context context else .payload source)⟩

namespace Variant

variable {v : Variant} {source : α} {context : Option String} {a : String}

/-- Such a value is of the variant. -/
lemma filled_of : (v.filled source context).Of v where
  variant := rfl
  names := by
    rw [filled, List.map_map]
    exact List.map_id _
  context := by
    intro f mem
    obtain ⟨n, _, rfl⟩ := List.mem_map.1 mem
    dsimp only
    by_cases called : n = "context"
    · rw [if_pos called]
      exact ⟨fun _ => ⟨_, rfl⟩, fun _ => called⟩
    · rw [if_neg called]
      constructor
      · exact fun same => absurd same called
      · rintro ⟨_, ⟨⟩⟩

/-- Another context makes it the value with that context. -/
lemma put_filled : (v.filled source context).put "context" a = v.filled source (some a) := by
  rw [ErrorValue.put, filled, filled, List.map_map]
  congr 1
  apply List.map_congr_left
  intro n _
  by_cases called : n = "context"
  · simp [called]
  · simp [called]

end Variant

/-- Both times the same arm is found, which sets the same field. -/
lemma ErrorListing.putContext_putContext (l : ErrorListing) (e : ErrorValue α) (a b : String) :
    l.putContext (l.putContext e a) b = l.putContext e b := by
  cases found : l.arms.find? fun arm => arm.type == l.header.name && arm.variant == e.variant with
  | none =>
    have kept (text : String) : l.putContext e text = e := by rw [putContext, found]
    rw [kept, kept]
  | some arm =>
    have put (e' : ErrorValue α) (same : e'.variant = e.variant) (text : String) :
        l.putContext e' text = e'.put arm.field text := by rw [putContext, same, found]
    rw [put e rfl, put e rfl, put (e.put arm.field a) rfl, ErrorValue.put_put]

/-! ### What error types do with values -/

namespace ErrorType

variable {E : ErrorType τ} {v : Variant} {f : NamedField} {p : Purpose}

/-- The type of the source of a variant. -/
def sourceType? (E : ErrorType τ) (v : Variant) : Option τ :=
  v.sourceField?.map fun f => E.typeOf f.type

/-- The type of a source is the one its field has. -/
lemma sourceType?_eq (has : v.sourceField? = some f) : E.sourceType? v = some (E.typeOf f.type) := by
  rw [sourceType?, has, Option.map_some]

/-- What the language asks of names: the variants have different ones, and so have the fields of
each. -/
structure Named (E : ErrorType τ) : Prop where
  variants : (E.live.map (·.name)).Nodup
  fields : ∀ v ∈ E.live, v.fieldNames.Nodup

/-- Beside a source there is only its context, and the sources have types of which none is another
one or the error type itself. -/
structure Plain (E : ErrorType τ) : Prop where
  only : ∀ v ∈ E.live, ∀ f, v.sourceField? = some f → ∀ n ∈ v.fieldNames, n = f.name ∨ n = "context"
  distinct : (E.live.filterMap E.sourceType?).Nodup
  foreign : ∀ v ∈ E.live, ∀ f, v.sourceField? = some f → E.typeOf f.type ≠ E.self

/-- A variant that counts is told by its name. -/
lemma Named.eq_of_name (named : E.Named) {w : Variant} (mem : v ∈ E.live) (mem' : w ∈ E.live)
    (same : v.name = w.name) : v = w :=
  List.inj_on_of_nodup_map named.variants mem mem' same

/-- The variants that have a context have an arm each, which sets it. -/
lemma mem_compiled_arms {arm : MatchArm} :
    arm ∈ E.compiled.arms ↔ ∃ v ∈ E.live, "context" ∈ v.fieldNames ∧
      arm = ErrorCode.armListing E.item.toHeader ⟨v.outline.conditions, v.name⟩ := by
  rw [compiled_arms, List.mem_map]
  constructor
  · rintro ⟨a, there, rfl⟩
    obtain ⟨v, mem, there⟩ := List.mem_flatMap.1 there
    rw [ErrorVariant.arms] at there
    split at there
    · rename_i has
      rw [List.mem_singleton.1 there]
      exact ⟨v, mem, Variant.outline_hasContext.1 has, rfl⟩
    · cases there
  · rintro ⟨v, mem, has, rfl⟩
    refine ⟨_, List.mem_flatMap.2 ⟨v, mem, ?_⟩, rfl⟩
    rw [ErrorVariant.arms, if_pos (Variant.outline_hasContext.2 has)]
    exact List.mem_singleton_self _

/-- An error is put into a context just if its variant has one. -/
lemma Named.putContext_eq (named : E.Named) {e : ErrorValue α} (mem : v ∈ E.live) (of : e.Of v)
    (a : String) :
    E.compiled.putContext e a = if "context" ∈ v.fieldNames then e.put "context" a else e := by
  rw [ErrorListing.putContext, compiled_header]
  cases found : E.compiled.arms.find? fun arm =>
      arm.type == E.item.toHeader.name && arm.variant == e.variant with
  | none =>
    have lacks : "context" ∉ v.fieldNames := by
      intro has
      have other := List.find?_eq_none.1 found _ (mem_compiled_arms.2 ⟨v, mem, has, rfl⟩)
      simp [ErrorCode.armListing, of.variant] at other
    rw [if_neg lacks]
  | some arm =>
    obtain ⟨w, mem', has, rfl⟩ := mem_compiled_arms.1 (List.mem_of_find?_eq_some found)
    -- The variant of the arm that is found has the name of the variant of the error.
    have same := List.find?_some
      (p := fun arm : MatchArm => arm.type == E.item.name && arm.variant == e.variant) found
    simp only [Bool.and_eq_true, beq_iff_eq, of.variant] at same
    rw [named.eq_of_name mem mem' same.2.symm, if_pos has]
    rfl

/-- An error with a source has a context, which the new one replaces. -/
lemma Named.putContext_filled (named : E.Named) (mem : v ∈ E.live) (has : v.sourceField? = some f)
    (source : α) (context : Option String) (a : String) :
    E.compiled.putContext (v.filled source context) a = v.filled source (some a) := by
  rw [named.putContext_eq mem Variant.filled_of, if_pos ((sound mem).context_mem has),
    Variant.put_filled]

/-- The source of another variant has another type. -/
lemma Plain.others (plain : E.Plain) {before after : List Variant}
    (parts : E.live = before ++ v :: after) (has : v.sourceField? = some f) {w : Variant}
    (other : w ∈ before ++ after) {g : NamedField} (has' : w.sourceField? = some g) :
    E.typeOf g.type ≠ E.typeOf f.type := by
  have distinct := plain.distinct
  rw [parts, List.filterMap_append, List.filterMap_cons_some (sourceType?_eq has), List.nodup_middle,
    List.nodup_cons, ← List.filterMap_append] at distinct
  intro same
  apply distinct.1
  rw [List.mem_filterMap]
  exact ⟨w, other, by rw [sourceType?_eq has', same]⟩

/-- Of all implementations for a purpose just the one of a variant is for its source. -/
lemma Plain.implFor?_eq [DecidableEq τ] (plain : E.Plain) (mem : v ∈ E.live)
    (has : v.sourceField? = some f) :
    E.compiled.implFor? E.typeOf E.self p (E.typeOf f.type) =
      some (ErrorCode.implListing E.item.toHeader (v.implOf f p)) := by
  obtain ⟨before, after, parts⟩ := List.append_of_mem mem
  -- Of the implementations of the variants around it none is for this type.
  have none : ∀ w ∈ before ++ after, (w.outline.impls.filter fun i =>
      i.purpose == p && E.typeOf i.source == E.typeOf f.type) = [] := by
    intro w other
    cases has' : w.sourceField? with
    | none => rw [Variant.impls_of_none has', List.filter_nil]
    | some g =>
      have apart := beq_eq_false_iff_ne.2 (plain.others parts has other has')
      simp [Variant.impls_of_source has', Variant.implOf, apart]
  have own : (v.outline.impls.filter fun i =>
      i.purpose == p && E.typeOf i.source == E.typeOf f.type) = [v.implOf f p] := by
    rw [Variant.impls_of_source has]
    cases p with
    | conversion => simp [Variant.implOf]
    | context => simp [Variant.implOf]
  have only : ((E.live.flatMap fun v => v.outline.impls).filter fun i =>
      i.purpose == p && E.typeOf i.source == E.typeOf f.type) = [v.implOf f p] := by
    rw [parts, List.filter_flatMap, List.flatMap_append, List.flatMap_cons, own,
      List.flatMap_eq_nil_iff.2 fun w mem => none w (List.mem_append_left _ mem),
      List.flatMap_eq_nil_iff.2 fun w mem => none w (List.mem_append_right _ mem)]
    rfl
  have listed : (E.compiled.impls.filter fun i =>
      i.purpose == p && E.typeOf i.source == E.typeOf f.type) =
        [ErrorCode.implListing E.item.toHeader (v.implOf f p)] := by
    rw [compiled_impls, List.filter_map]
    exact congrArg (List.map (ErrorCode.implListing E.item.toHeader)) only
  rw [ErrorListing.implFor?, listed]
  exact if_neg (plain.foreign v mem f has)

/-- What is made for a source has no field to leave out. -/
lemma Plain.covers (plain : E.Plain) (mem : v ∈ E.live) (has : v.sourceField? = some f) :
    (v.implOf f p).result.Covers v :=
  ((sound mem).wraps has).covers_iff.2 (plain.only v mem f has)

/-- A variant with a source has two fields. -/
lemma Plain.names_perm (named : E.Named) (plain : E.Plain) (mem : v ∈ E.live)
    (has : v.sourceField? = some f) : v.fieldNames.Perm [f.name, "context"] :=
  ((plain.covers (p := .conversion) mem has).perm (named.fields v mem)).symm

/-- What is read in the implementation for a source makes the error type of what is in scope: the
parameter has the name of the field for the source. -/
lemma accepts_implOf (other : f.name ≠ "context") :
    (E.compiled.makesError (ErrorCode.implListing E.item.toHeader (v.implOf f p)) &&
      (v.implOf f p).result.fields.all
        (ErrorCode.implListing E.item.toHeader (v.implOf f p)).inScope) = true := by
  rw [ErrorListing.makesError, compiled_header]
  cases p with
  | conversion =>
    simp [ErrorCode.implListing, ErrorCode.typeName, Variant.implOf, Implementation.inScope]
  | context =>
    simp [ErrorCode.implListing, ErrorCode.typeName, Variant.implOf, Implementation.inScope, other]

/-- What is made for the source of a variant is complete, and makes the variant of the source. -/
lemma Plain.maker?_eq (named : E.Named) (plain : E.Plain) (mem : v ∈ E.live)
    (has : v.sourceField? = some f) :
    E.compiled.maker? (ErrorCode.implListing E.item.toHeader (v.implOf f p)) =
      some ((v.implOf f p).result.value (α := α) v) := by
  have completes : (v.implOf f p).result.completes v = true :=
    (Construction.completes_iff (named.fields v mem)).2 (plain.covers mem has)
  have accepted := accepts_implOf (E := E) (v := v) (p := p) (v.sourceField?_mem has).2
  rw [ErrorListing.maker?, compiled_variants]
  refine (if_pos accepted).trans ?_
  have first : E.live.find? (v.implOf f p).result.completes = some v := by
    cases found : E.live.find? (v.implOf f p).result.completes with
    | none => exact absurd completes (List.find?_eq_none.1 found v mem)
    | some w =>
      -- Whatever variant is found has the name that the construction gives.
      have covers := (Construction.completes_iff
        (named.fields w (List.mem_of_find?_eq_some found))).1 (List.find?_some found)
      rw [named.eq_of_name mem (List.mem_of_find?_eq_some found) covers.variant]
  exact congrArg (Option.map (v.implOf f p).result.value) first

/-- What is made of a source is the value that has it, with the context for that purpose. -/
lemma Plain.value_eq (plain : E.Plain) (mem : v ∈ E.live) (has : v.sourceField? = some f)
    {source : α} {given : Option String} :
    (v.implOf f p).result.value v source given =
      v.filled source (if p = .context then given else none) := by
  rw [Construction.value, Variant.filled]
  congr 1
  rw [← List.filterMap_eq_map]
  apply List.filterMap_congr
  intro n there
  obtain ⟨_, other⟩ := v.sourceField?_mem has
  rw [Function.comp_apply]
  cases plain.only v mem f has n there with
  | inl same =>
    rw [same, if_neg other]
    simp [Variant.implOf, Filling.value]
  | inr same =>
    rw [same, if_pos rfl]
    have apart := beq_eq_false_iff_ne.2 other.symm
    cases p with
    | conversion => simp [Variant.implOf, Filling.value, List.lookup_cons, apart]
    | context => simp [Variant.implOf, Filling.value, List.lookup_cons, apart]

/-- A source is converted to its variant, without a context. -/
lemma Plain.convert_eq [DecidableEq τ] (named : E.Named) (plain : E.Plain) (mem : v ∈ E.live)
    (has : v.sourceField? = some f) (source : α) :
    E.compiled.convert E.typeOf E.self (E.typeOf f.type) source = some (v.filled source none) := by
  rw [ErrorListing.convert, plain.implFor?_eq mem has]
  simp only [Option.bind_eq_bind, Option.bind_some]
  rw [plain.maker?_eq named mem has, Option.bind_some, plain.value_eq mem has]
  rfl

/-- A result of a source that is put into a context has the variant of the source as its error. -/
lemma Plain.sourceInContext_eq [DecidableEq τ] (named : E.Named) (plain : E.Plain)
    (mem : v ∈ E.live) (has : v.sourceField? = some f) (r : Except α β) (a : String) :
    E.compiled.sourceInContext E.typeOf E.self (E.typeOf f.type) r a =
      some (r.mapError fun source => v.filled source (some a)) := by
  rw [ErrorListing.sourceInContext, plain.implFor?_eq mem has]
  simp only [Option.bind_eq_bind, Option.bind_some]
  rw [plain.maker?_eq named mem has, Option.bind_some]
  simp only [plain.value_eq mem has]
  rfl

end ErrorType

/-- The tokens derived for an error type are the text of a listing. What is left of that listing when
conditions are looked at does this with results, if the names in it are those of a type, if beside
each source there is only its context, and if no source has the type of another one or of an error:
a result without an error stays as it is; an error whose variant has a context gets the new one in
its place and keeps everything else, any other error stays as it is, so that of two contexts the
later one counts. A source is converted to its variant with that source and without a context; to
put the source into a context is to convert it first and then to put the error into that context. -/
theorem context_laws [DecidableEq τ] {E : ErrorType τ} (named : E.Named) (plain : E.Plain) :
    E.code.tokens = E.code.listing.text ∧
    (∀ (x : β) (a : String), E.compiled.inContext (.ok x : Except (ErrorValue α) β) a = .ok x) ∧
    (∀ v ∈ E.live, ∀ e : ErrorValue α, e.Of v → ∀ a : String,
      ("context" ∈ v.fieldNames →
        ∃ e' : ErrorValue α, E.compiled.inContext (.error e : Except _ β) a = .error e' ∧
          e'.Of v ∧ e'.get? "context" = some (.context (some a)) ∧
          ∀ n, n ≠ "context" → e'.get? n = e.get? n) ∧
      ("context" ∉ v.fieldNames →
        E.compiled.inContext (.error e : Except _ β) a = .error e)) ∧
    (∀ (r : Except (ErrorValue α) β) (a b : String),
      E.compiled.inContext (E.compiled.inContext r a) b = E.compiled.inContext r b) ∧
    (∀ v ∈ E.live, ∀ f, v.sourceField? = some f →
      v.fieldNames.Perm [f.name, "context"] ∧
      (∀ (s : α) (a : String),
        E.compiled.convert E.typeOf E.self (E.typeOf f.type) s = some (v.filled s none) ∧
        E.compiled.sourceInContext E.typeOf E.self (E.typeOf f.type) (.error s : Except α β) a =
          some (.error (v.filled s (some a))) ∧
        E.compiled.inContext (.error (v.filled s none) : Except _ β) a =
          .error (v.filled s (some a))) ∧
      (∀ (x : β) (a : String),
        E.compiled.sourceInContext E.typeOf E.self (E.typeOf f.type) (.ok x : Except α β) a =
          some (.ok x)) ∧
      ∀ (r : Except α β) (a b : String),
        (E.compiled.sourceInContext E.typeOf E.self (E.typeOf f.type) r a).map
            (E.compiled.inContext · b) =
          E.compiled.sourceInContext E.typeOf E.self (E.typeOf f.type) r b) := by
  refine ⟨ErrorCode.tokens_eq_text _, fun x a => rfl, ?_, ?_, ?_⟩
  · intro v mem e of a
    have put := named.putContext_eq mem of a
    constructor
    · intro has
      rw [if_pos has] at put
      exact ⟨e.put "context" a, congrArg Except.error put, of.put, of.get?_context has,
        fun n => ErrorValue.get?_put_of_ne⟩
    · intro lacks
      rw [if_neg lacks] at put
      exact congrArg Except.error put
  · intro r a b
    cases r with
    | ok x => rfl
    | error e => exact congrArg Except.error (E.compiled.putContext_putContext e a b)
  · intro v mem f has
    have put := named.putContext_filled (α := α) mem has
    have inContext := plain.sourceInContext_eq (α := α) (β := β) named mem has
    refine ⟨plain.names_perm named mem has, fun s a => ⟨?_, ?_, ?_⟩, ?_, ?_⟩
    · exact plain.convert_eq named mem has s
    · exact inContext _ a
    · exact congrArg Except.error (put s none a)
    · exact fun x a => inContext _ a
    · intro r a b
      rw [inContext, inContext, Option.map_some]
      cases r with
      | ok x => rfl
      | error s => exact congrArg (some ∘ Except.error) (put s (some a) b)

namespace Journal

open Faulty (named optional text field)

def condition (name : String) : Attribute := .list (.name "cfg") .round [[.word name]]

def cause : NamedField := field "cause" (named "Failure") [.word (.name "source")]

def reading : Variant :=
  ⟨[condition "new"], "Reading", .named [field "context" (optional text) [], cause], []⟩

def full : Variant :=
  ⟨[], "Full", .named [field "size" (named "u64") [], field "context" (optional text) []], []⟩

def variants : List Variant :=
  [reading, full,
    ⟨[condition "old"], "Opening",
      .named [field "source" (named "Failure") [], field "context" (optional text) []], []⟩,
    ⟨[], "Gone", .named [], []⟩]

def item : Item :=
  { attributes := [], visibility := [], name := "Journal", generics := ⟨[], false⟩, conditions := []
    body := .enum variants }

/-- Two variants have sources of one type, of which only the first one is there. -/
def type : ErrorType (List String) where
  item := item
  variants := variants
  body := rfl
  code := .ofVariants item.toHeader variants (variants.map Variant.outline)
  derived := by cbv
  holds a := a.tokens == (condition "new").tokens
  typeOf t := (t.lastSegment?.map (·.name)).toList
  self := ["Journal"]

/-- Under the new condition three variants count. -/
lemma live_eq : type.live = [reading, full, ⟨[], "Gone", .named [], []⟩] := by cbv

/-- Variants and fields have names of their own. -/
lemma named : type.Named where
  variants := by
    rw [live_eq]
    decide
  fields := by
    rw [live_eq]
    decide

/-- Only the first of the variants that are there has a source. -/
lemma eq_reading {v : Variant} {f : NamedField} (mem : v ∈ type.live)
    (has : v.sourceField? = some f) : v = reading ∧ f = cause := by
  rw [live_eq, List.mem_cons, List.mem_cons, List.mem_singleton] at mem
  obtain rfl | rfl | rfl := mem
  · cases has
    exact ⟨rfl, rfl⟩
  · cases has
  · cases has

/-- Only one source counts, and nothing stands beside it and its context. -/
lemma plain : type.Plain where
  only := by
    intro v mem f has
    obtain ⟨rfl, rfl⟩ := eq_reading mem has
    decide
  distinct := by
    rw [live_eq]
    decide
  foreign := by
    intro v mem f has
    obtain ⟨rfl, rfl⟩ := eq_reading mem has
    decide

end Journal

/-- A source is converted to the variant that is there; the later context counts, and a variant without
one is left alone. -/
theorem journal_contexts :
    Journal.type.Named ∧ Journal.type.Plain ∧
      Journal.type.code.tokens = Journal.type.code.listing.text ∧
      Journal.type.compiled.convert Journal.type.typeOf ["Journal"] ["Failure"] 7 =
        some ⟨"Reading", [("context", .context none), ("cause", .payload 7)]⟩ ∧
      Journal.type.compiled.sourceInContext Journal.type.typeOf ["Journal"] ["Failure"]
          (.error 7 : Except Nat Unit) "Opening" =
        some (.error ⟨"Reading",
          [("context", .context (some "Opening")), ("cause", .payload 7)]⟩) ∧
      Journal.type.compiled.inContext
          (.error ⟨"Gone", []⟩ : Except (ErrorValue Nat) Unit) "Opening" =
        .error ⟨"Gone", []⟩ := by
  obtain ⟨written, _, errors, _, sources⟩ :=
    context_laws (α := Nat) (β := Unit) Journal.named Journal.plain
  have there : Journal.reading ∈ Journal.type.live := by
    rw [Journal.live_eq]
    exact List.mem_cons_self
  have gone : ⟨[], "Gone", .named [], []⟩ ∈ Journal.type.live := by
    rw [Journal.live_eq]
    simp
  obtain ⟨_, converted, _⟩ := sources Journal.reading there Journal.cause rfl
  obtain ⟨converts, puts, _⟩ := converted 7 "Opening"
  refine ⟨Journal.named, Journal.plain, written, converts, puts, ?_⟩
  exact (errors _ gone ⟨"Gone", []⟩ ⟨rfl, rfl, List.forall_mem_nil _⟩ "Opening").2 List.not_mem_nil

end EventBus.Derive
