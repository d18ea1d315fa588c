import Mathlib
import EventBus.Derive.ErrorValue

/-!
# What the code of an error type says

The code derived for an error type is a list of tokens. An `ErrorListing` is what is to be read in
them: the enum, the arms of the match that looks for a context, and the implementations for sources,
each with the attributes that stand before it. `ErrorListing.text` writes a listing as code, and
`tokens_eq_text` says that the derived tokens are the text of a listing, with a lemma for each piece
of them.

What a listing does is read off its parts. An arm is for the type that it names and sets the field
that it names. An implementation makes a value if its literal is of the error type, names each field
of a variant and takes what it puts there from variables that are in scope. `ErrorListing.strip` takes
out whatever has an attribute that does not hold.
-/

namespace EventBus.Derive

/-- A match arm that sets a field of a variant to the context given. -/
structure MatchArm where
  attributes : List Attribute
  type : String
  variant : String
  field : String

/-- An expression `type::variant` with fields. A field that is filled with the source stands there
without a value, so that a variable of its name is meant. -/
structure Literal extends Construction where
  type : String

/-- An implementation for sources, of the conversion or of the trait for contexts. -/
structure Implementation where
  attributes : List Attribute
  purpose : Purpose
  source : TypeExpr
  parameter : String
  literal : Literal

/-- The code of an error type as it reads. -/
structure ErrorListing where
  derives : List Path
  header : Header
  variants : List Variant
  arms : List MatchArm
  impls : List Implementation

/-! ### Listings as code -/

namespace ErrorListing

def attributesText (as : List Attribute) : List Token :=
  as.flatMap fun a => [.mark '#'] ++ Token.inBrackets a.tokens

def derivesText (ps : List Path) : List Token :=
  if ps.isEmpty then []
  else
    [.mark '#'] ++
      Token.inBrackets ([.word "derive"] ++ Token.inParens (Token.commas (ps.map Path.tokens)))

def variantText (v : Variant) : List Token :=
  attributesText v.attributes ++ [.word v.name] ++ v.fields.tokens ++ v.discriminant

def enumText (h : Header) (vs : List Variant) : List Token :=
  attributesText h.attributes ++ h.visibility ++ [.word "enum", .word h.name] ++
    h.generics.listed GenericParam.declared ++ h.whereTokens ++
    Token.inBraces (Token.commas (vs.map variantText))

/-- `Some(context.into())`. -/
def someContext : List Token := Token.read "Some(context.into())"

def fillingText : String × Filling → List Token
  | (field, .source) => [.word field]
  | (field, .noContext) => [.word field] ++ Token.read ": None"
  | (field, .givenContext) => [.word field, .mark ':'] ++ someContext

/-- `type::variant { field, field: None }` and the like. -/
def literalText (l : Literal) : List Token :=
  [.word l.type] ++ Token.read "::" ++ [.word l.variant] ++
    Token.inBraces (Token.commas (l.fields.map fillingText))

/-- `#[..] type::variant { field: slot, .. } => *slot = Some(context.into()),`. -/
def armText (a : MatchArm) : List Token :=
  attributesText a.attributes ++ [.word a.type] ++ Token.read "::" ++ [.word a.variant] ++
    Token.inBraces ([.word a.field] ++ Token.read ": slot, ..") ++ Token.read "=> *slot =" ++
    someContext ++ [.mark ',']

def resultText (result : String) (error : List Token) : List Token :=
  Token.read result ++ Token.inAngles (Token.read "T," ++ error)

/-- `fn context(self, context: ..) -> result`. -/
def functionText (result : List Token) : List Token :=
  Token.read "fn context(self, context: impl Into<std::borrow::Cow<'static, str>>) ->" ++ result

/-- The trait for contexts, and its implementation for results of the error type. -/
def traitText (h : Header) (arms : List MatchArm) : List Token :=
  Token.read "pub trait" ++ ErrorCode.traitName h ++
    Token.inBraces (functionText (resultText "Result" [.word h.name]) ++ [.mark ';']) ++
    Token.read "#[automatically_derived]" ++ Token.read "impl<T>" ++ ErrorCode.traitName h ++
    [.word "for"] ++ resultText "Result" [.word h.name] ++
    Token.inBraces
      (Token.read "#[inline]" ++ functionText [.word "Self"] ++
        Token.inBraces
          (Token.read "self.map_err" ++
            Token.inParens
              (Token.read "|mut err|" ++
                Token.inBraces
                  (Token.read "match &mut err" ++
                    Token.inBraces
                      (arms.flatMap armText ++ Token.read "_ =>" ++ Token.inBraces []) ++
                    [.word "err"]))))

/-- `impl From<source> for name`, or the implementation of the trait for results of the source. -/
def implText (h : Header) (i : Implementation) : List Token :=
  match i.purpose with
  | .conversion =>
    attributesText i.attributes ++ Token.read "#[automatically_derived]" ++
      Token.read "impl From" ++ Token.inAngles i.source.tokens ++ [.word "for", .word h.name] ++
      Token.inBraces
        (Token.read "#[inline]" ++ Token.read "fn from" ++
          Token.inParens ([.word i.parameter, .mark ':'] ++ i.source.tokens) ++
          Token.read "-> Self" ++ Token.inBraces (literalText i.literal))
  | .context =>
    attributesText i.attributes ++ Token.read "impl<T>" ++ ErrorCode.traitName h ++
      [.word "for"] ++ resultText "std::result::Result" i.source.tokens ++
      Token.inBraces
        (Token.read "#[inline]" ++
          functionText (resultText "std::result::Result" [.word h.name]) ++
          Token.inBraces
            (Token.read "self.map_err" ++
              Token.inParens
                ([.mark '|', .word i.parameter, .mark '|'] ++ literalText i.literal)))

/-- The function that writes contexts for messages. -/
def formatText : List Token :=
  Token.read "#[allow(dead_code)]" ++
    Token.read "fn format_context(context: &Option<std::borrow::Cow<'static, str>>)" ++
    Token.read "-> std::borrow::Cow<'static, str>" ++
    Token.inBraces
      (Token.read
        ("context.as_ref().map_or(std::borrow::Cow::Borrowed(\"\")," ++
          "|c| std::borrow::Cow::Owned(format!(\" (\x7bc\x7d)\")))"))

def text (l : ErrorListing) : List Token :=
  Token.read "#[allow(non_shorthand_field_patterns)]" ++ derivesText l.derives ++
    enumText l.header l.variants ++ traitText l.header l.arms ++
    l.impls.flatMap (implText l.header) ++ formatText

end ErrorListing

/-! ### What listings do -/

/-- What a field is filled with is in scope where the literal of an implementation stands. -/
def Implementation.inScope (i : Implementation) : String × Filling → Bool
  | (field, .source) => field == i.parameter
  | (_, .noContext) => true
  | (_, .givenContext) => i.purpose == .context && i.parameter != "context"

namespace ErrorListing

variable {α β τ : Type}

/-- The type of the literal is the error type; in the conversion to it, it is also `Self`. -/
def makesError (l : ErrorListing) (i : Implementation) : Bool :=
  i.literal.type == l.header.name || i.purpose == .conversion && i.literal.type == "Self"

/-- The function that an implementation stands for. -/
def maker? (l : ErrorListing) (i : Implementation) : Option (α → Option String → ErrorValue α) :=
  if l.makesError i && i.literal.fields.all i.inScope then
    (l.variants.find? i.literal.completes).map i.literal.value
  else none

/-- An error put into a context: the first arm for its variant sets its field. -/
def putContext (l : ErrorListing) (e : ErrorValue α) (text : String) : ErrorValue α :=
  match l.arms.find? fun a => a.type == l.header.name && a.variant == e.variant with
  | some a => e.put a.field text
  | none => e

def inContext (l : ErrorListing) (r : Except (ErrorValue α) β) (text : String) :
    Except (ErrorValue α) β :=
  r.mapError fun e => l.putContext e text

/-- The implementation that is used for sources of type `t`, which has to be the only one.  The
error type itself, `self`, has others already, for either purpose. -/
def implFor? [DecidableEq τ] (l : ErrorListing) (typeOf : TypeExpr → τ) (self : τ)
    (purpose : Purpose) (t : τ) : Option Implementation :=
  match l.impls.filter fun i => i.purpose == purpose && typeOf i.source == t with
  | [i] => if t = self then none else some i
  | _ => none

/-- The error that a source of type `t` is converted to. -/
def convert [DecidableEq τ] (l : ErrorListing) (typeOf : TypeExpr → τ) (self t : τ) (source : α) :
    Option (ErrorValue α) := do
  let i ← l.implFor? typeOf self .conversion t
  let make ← l.maker? i
  return make source none

/-- A result whose error is a source of type `t` put into a context. -/
def sourceInContext [DecidableEq τ] (l : ErrorListing) (typeOf : TypeExpr → τ) (self t : τ)
    (r : Except α β) (text : String) : Option (Except (ErrorValue α) β) := do
  let i ← l.implFor? typeOf self .context t
  let make ← l.maker? i
  return r.mapError fun source => make source (some text)

/-- The listing without the variants, arms and implementations that have a `cfg` attribute which does
not hold. -/
def strip (holds : Attribute → Bool) (l : ErrorListing) : ErrorListing :=
  { l with
    variants := l.variants.filter fun v => ErrorCode.allHold holds v.attributes
    arms := l.arms.filter fun a => ErrorCode.allHold holds a.attributes
    impls := l.impls.filter fun i => ErrorCode.allHold holds i.attributes }

end ErrorListing

namespace ErrorCode

variable {h : Header} {code : ErrorCode}

def armListing (h : Header) (a : ContextArm) : MatchArm :=
  ⟨a.conditions, h.name, a.variant, "context"⟩

/-- What an implementation calls the error type. -/
def typeName (h : Header) : Purpose → String
  | .conversion => "Self"
  | .context => h.name

def implListing (h : Header) (i : SourceImpl) : Implementation where
  attributes := i.conditions
  purpose := i.purpose
  source := i.source
  parameter := i.parameter
  literal := ⟨i.result, typeName h i.purpose⟩

/-- What is to be read in the code. -/
def listing (code : ErrorCode) : ErrorListing where
  derives := code.derives
  header := code.header
  variants := code.variants
  arms := code.arms.map (armListing code.header)
  impls := code.impls.map (implListing code.header)

/-! ### The tokens of each piece -/

/-- Attributes are written one after the other. -/
lemma outer_eq (as : List Attribute) : Attribute.outer as = ErrorListing.attributesText as := rfl

/-- The derives that are missing are written as one attribute. -/
lemma deriveTokens_eq (ps : List Path) : deriveTokens ps = ErrorListing.derivesText ps := rfl

/-- The enum is written as it is, variant by variant. -/
lemma enumTokens_eq (h : Header) (vs : List Variant) :
    h.enumTokens vs = ErrorListing.enumText h vs := by
  have variant (v : Variant) : v.tokens = ErrorListing.variantText v := by
    rw [Variant.tokens, ErrorListing.variantText, outer_eq]
    simp only [List.append_assoc, List.cons_append, List.nil_append]
  rw [Header.enumTokens, ErrorListing.enumText, outer_eq, funext variant]
  simp only [List.append_assoc, List.cons_append, List.nil_append]

/-- A field of a new value is written with what fills it. -/
lemma fieldTokens_eq (f : String × Filling) : fieldTokens f = ErrorListing.fillingText f := by
  obtain ⟨field, filling⟩ := f
  cases filling with
  | source => rfl
  | noContext => rw [fieldTokens, ErrorListing.fillingText, List.singleton_append]
  | givenContext =>
    rw [fieldTokens, ErrorListing.fillingText, givenContext, ErrorListing.someContext,
      List.cons_append, List.singleton_append]

/-- A construction is written as a literal of a type. -/
lemma constructionTokens_eq (type : String) (c : Construction) :
    constructionTokens type c = ErrorListing.literalText ⟨c, type⟩ := by
  rw [constructionTokens, ErrorListing.literalText, funext fieldTokens_eq]
  simp only [List.append_assoc, List.cons_append, List.nil_append]

/-- An arm is written as one for the error type and the field `context`. -/
lemma armTokens_eq (a : ContextArm) :
    armTokens h.name a = ErrorListing.armText (armListing h a) := by
  rw [armTokens, ErrorListing.armText, outer_eq, givenContext, ErrorListing.someContext, armListing]
  simp only [List.append_assoc, List.cons_append, List.nil_append]

/-- `Full::Reading { context: slot, .. } => *slot = Some(context.into()),`. -/
example : armTokens "Full" ⟨[], "Reading"⟩ =
    [.word "Full", .mark ':', .mark ':', .word "Reading", .mark '\x7b', .word "context", .mark ':',
      .word "slot", .mark ',', .mark '.', .mark '.', .mark '\x7d', .mark '=', .mark '>', .mark '*',
      .word "slot", .mark '=', .word "Some", .mark '(', .word "context", .mark '.', .word "into",
      .mark '(', .mark ')', .mark ')', .mark ','] := by decide +kernel

/-- The trait is written with the arms in its implementation. -/
lemma traitTokens_eq (code : ErrorCode) :
    code.traitTokens =
      ErrorListing.traitText code.header (code.arms.map (armListing code.header)) := by
  have arms : (code.arms.map (armListing code.header)).flatMap ErrorListing.armText =
      code.arms.flatMap (armTokens code.header.name) := by
    rw [List.flatMap_map, funext armTokens_eq]
  rw [ErrorListing.traitText, arms]
  simp only [traitTokens, derived, inlined, resultOf, ErrorListing.resultText, contextFunction,
    ErrorListing.functionText, List.append_assoc, List.cons_append, List.nil_append]

/-- An implementation is written for its source and its purpose. -/
lemma implTokens_eq (i : SourceImpl) :
    implTokens h i = ErrorListing.implText h (implListing h i) := by
  rw [implTokens, ErrorListing.implText, implListing, ← outer_eq]
  dsimp only
  rw [← constructionTokens_eq]
  cases i.purpose with
  | conversion =>
    simp only [derived, inlined, typeName, List.append_assoc, List.cons_append, List.nil_append]
  | context =>
    simp only [inlined, resultOf, ErrorListing.resultText, contextFunction,
      ErrorListing.functionText, typeName, List.append_assoc, List.cons_append, List.nil_append]

/-- The last function is always the same. -/
lemma formatTokens_eq : formatTokens = ErrorListing.formatText := rfl

/-- The derived tokens are the text of what is to be read in them. -/
theorem tokens_eq_text (code : ErrorCode) : code.tokens = code.listing.text := by
  rw [tokens, ErrorListing.text, listing, List.flatMap_map, deriveTokens_eq, enumTokens_eq,
    traitTokens_eq, funext implTokens_eq, formatTokens_eq]

/-! ### Conditional parts -/

/-- To take out of a listing what does not hold is to read the code of which it was taken out. -/
lemma strip_listing {holds : Attribute → Bool} :
    code.listing.strip holds = (code.enabled holds).listing := by
  rw [ErrorListing.strip, listing, listing, enabled]
  dsimp only
  rw [List.filter_map, List.filter_map]
  rfl

end ErrorCode

end EventBus.Derive
