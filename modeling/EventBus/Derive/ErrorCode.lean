import EventBus.Derive.Item

/-!
The code derived for an error type.

An error type is an enum whose variants have named fields; a field `context` holds what was being
done, and a variant with a source is what that source becomes.  `ErrorCode.derive` checks the
variants, each on its own, and makes: the derives that are missing, the enum itself, a trait that
puts a result into a context, and for each variant with a source a conversion and a second
implementation of the trait.

What is made for a variant carries the `cfg` attributes of that variant.  `ErrorCode.enabled`
takes away the parts whose `cfg` attributes do not hold.
-/

namespace EventBus.Derive

/-! ### Checking variants -/

/-- Why no code can be derived for an error type. -/
inductive ErrorMistake where
  | notEnum
  | unnamedFields
  | contextType
  | contextMissing
deriving DecidableEq, Repr

def ErrorMistake.message : ErrorMistake → String
  | .notEnum => "herald_error can only be derived for enums"
  | .unnamedFields => "herald_error requires named fields for source/context handling"
  | .contextType => "context field must be Option<Cow<'static, str>>"
  | .contextMissing =>
    "herald_error requires `context: Option<Cow<'static, str>>` for variants with a source"

/-- What the code needs to know of a variant. -/
structure ErrorVariant where
  name : String
  source : Option (String × TypeExpr)
  hasContext : Bool
  conditions : List Attribute
deriving Repr

/-- A field holds the source of an error: by its name, or by an attribute. -/
def NamedField.isSource (f : NamedField) : Bool :=
  f.name != "context" &&
    (f.name == "source" ||
      f.attributes.any fun a => a.isNamed "source" || a.isNamed "from")

def NamedField.isContext (f : NamedField) : Bool :=
  f.name == "context"

def Variant.check (v : Variant) : Except ErrorMistake ErrorVariant :=
  match v.fields with
  | .named fields =>
    let contexts := fields.filter (·.isContext)
    let source := (fields.find? (·.isSource)).map fun f => (f.name, f.type)
    if contexts.any (!·.type.isContext) then .error .contextType
    else if source.isSome && contexts.isEmpty then .error .contextMissing
    else .ok ⟨v.name, source, !contexts.isEmpty, Attribute.named "cfg" v.attributes⟩
  | _ => .error .unnamedFields

/-- All variants checked: what the code needs to know of each, or every mistake, in order. -/
def checkAll : List Variant → Except (List ErrorMistake) (List ErrorVariant)
  | [] => .ok []
  | v :: rest =>
    match v.check, checkAll rest with
    | .ok e, .ok es => .ok (e :: es)
    | .ok _, .error later => .error later
    | .error m, .ok _ => .error [m]
    | .error m, .error later => .error (m :: later)

/-! ### Derives -/

/-- The names of traits in one `derive` attribute, up to the first thing that is not a path
alone. -/
def readDerives : List (List Tree) → List String
  | [] => []
  | piece :: rest =>
    match Key.ofPiece rest.isEmpty piece with
    | .error _ => []
    | .ok key => key.path.last?.toList ++ (if key.payload.isEmpty then readDerives rest else [])

def derivedNames (as : List Attribute) : List String :=
  (Attribute.named "derive" as).flatMap fun a =>
    match a.keyPieces with
    | .ok pieces => readDerives pieces
    | .error _ => []

def neededDerives : List (String × Path) :=
  [("Debug", .name "Debug"), ("Error", ⟨true, ["thiserror", "Error"]⟩)]

def missingDerives (as : List Attribute) : List Path :=
  (neededDerives.filter fun d => !(derivedNames as).contains d.1).map (·.2)

/-! ### The code -/

/-- How a field of a new value is filled. -/
inductive Filling where
  | source
  | noContext
  | givenContext
deriving DecidableEq, Repr

/-- An expression that makes a value of a variant, naming fields. -/
structure Construction where
  variant : String
  fields : List (String × Filling)
deriving DecidableEq, Repr

/-- A match arm that sets the context of a variant. -/
structure ContextArm where
  conditions : List Attribute
  variant : String
deriving Repr

/-- What a source is turned into an error for. -/
inductive Purpose where
  | conversion
  | context
deriving DecidableEq, Repr

/-- An implementation for the sources of a variant: `result` is the error made of a source, which
is called `parameter` there. -/
structure SourceImpl where
  conditions : List Attribute
  purpose : Purpose
  source : TypeExpr
  parameter : String
  result : Construction
deriving Repr

/-- The code derived for an error type. -/
structure ErrorCode where
  derives : List Path
  header : Header
  variants : List Variant
  arms : List ContextArm
  impls : List SourceImpl
deriving Repr

namespace ErrorVariant

def arms (v : ErrorVariant) : List ContextArm :=
  if v.hasContext then [⟨v.conditions, v.name⟩] else []

/-- The implementations for the source of a variant, if it has one. -/
def impls (v : ErrorVariant) : List SourceImpl :=
  match v.source with
  | none => []
  | some (field, type) =>
    [⟨v.conditions, .conversion, type, field,
        ⟨v.name, [(field, .source), ("context", .noContext)]⟩⟩,
      ⟨v.conditions, .context, type, field,
        ⟨v.name, [(field, .source), ("context", .givenContext)]⟩⟩]

end ErrorVariant

namespace ErrorCode

def ofVariants (header : Header) (variants : List Variant) (checked : List ErrorVariant) :
    ErrorCode where
  derives := missingDerives header.attributes
  header := header
  variants := variants
  arms := checked.flatMap (·.arms)
  impls := checked.flatMap (·.impls)

def derive (item : Item) : Except (List ErrorMistake) ErrorCode :=
  match item.body with
  | .enum variants => (checkAll variants).map (ofVariants item.toHeader variants)
  | _ => .error [.notEnum]

/-! ### Conditional parts -/

def allHold (holds : Attribute → Bool) (as : List Attribute) : Bool :=
  (Attribute.named "cfg" as).all holds

def enabledVariants (holds : Attribute → Bool) (vs : List Variant) : List Variant :=
  vs.filter fun v => allHold holds v.attributes

/-- The code without the variants, arms and implementations whose `cfg` attributes do not all
hold. -/
def enabled (holds : Attribute → Bool) (code : ErrorCode) : ErrorCode :=
  { code with
    variants := enabledVariants holds code.variants
    arms := code.arms.filter fun a => allHold holds a.conditions
    impls := code.impls.filter fun i => allHold holds i.conditions }

/-! ### The code as tokens -/

/-- The trait that puts results into a context; its name needs no mark that it is no keyword. -/
def traitName (h : Header) : List Token :=
  let name := if h.name.startsWith "r#" then (h.name.drop 2).toString else h.name
  [.word (name ++ "Ext"), .mark '<', .word "T", .mark '>']

def resultOf (result : String) (error : List Token) : List Token :=
  Token.read result ++ Token.inAngles (Token.read "T," ++ error)

def contextFunction (result : List Token) : List Token :=
  Token.read "fn context(self, context: impl Into<std::borrow::Cow<'static, str>>) ->" ++ result

def givenContext : List Token := Token.read "Some(context.into())"

def fieldTokens : String × Filling → List Token
  | (field, .source) => [.word field]
  | (field, .noContext) => .word field :: Token.read ": None"
  | (field, .givenContext) => .word field :: .mark ':' :: givenContext

def constructionTokens (type : String) (c : Construction) : List Token :=
  .word type :: Token.read "::" ++ .word c.variant ::
    Token.inBraces (Token.commas (c.fields.map fieldTokens))

def armTokens (type : String) (a : ContextArm) : List Token :=
  Attribute.outer a.conditions ++ .word type :: Token.read "::" ++ .word a.variant ::
    Token.inBraces (.word "context" :: Token.read ": slot, ..") ++
    Token.read "=> *slot =" ++ givenContext ++ [.mark ',']

def inlined : List Token := Token.read "#[inline]"

def derived : List Token := Token.read "#[automatically_derived]"

/-- The trait and its implementation for results of the error type. -/
def traitTokens (code : ErrorCode) : List Token :=
  let name := code.header.name
  let result := resultOf "Result" [.word name]
  let choice := Token.read "match &mut err" ++
    Token.inBraces (code.arms.flatMap (armTokens name) ++ Token.read "_ =>" ++ Token.inBraces [])
  Token.read "pub trait" ++ traitName code.header ++
    Token.inBraces (contextFunction result ++ [.mark ';']) ++
    derived ++ Token.read "impl<T>" ++ traitName code.header ++ .word "for" :: result ++
    Token.inBraces
      (inlined ++ contextFunction [.word "Self"] ++
        Token.inBraces
          (Token.read "self.map_err" ++
            Token.inParens
              (Token.read "|mut err|" ++ Token.inBraces (choice ++ [.word "err"]))))

def implTokens (h : Header) (i : SourceImpl) : List Token :=
  let longResult := "std::result::Result"
  match i.purpose with
  | .conversion =>
    Attribute.outer i.conditions ++ derived ++ Token.read "impl From" ++
      Token.inAngles i.source.tokens ++ [.word "for", .word h.name] ++
      Token.inBraces
        (inlined ++ Token.read "fn from" ++
          Token.inParens (.word i.parameter :: .mark ':' :: i.source.tokens) ++
          Token.read "-> Self" ++ Token.inBraces (constructionTokens "Self" i.result))
  | .context =>
    Attribute.outer i.conditions ++ Token.read "impl<T>" ++ traitName h ++ .word "for" ::
      resultOf longResult i.source.tokens ++
      Token.inBraces
        (inlined ++ contextFunction (resultOf longResult [.word h.name]) ++
          Token.inBraces
            (Token.read "self.map_err" ++
              Token.inParens
                (.mark '|' :: .word i.parameter :: .mark '|' ::
                  constructionTokens h.name i.result)))

def formatTokens : List Token :=
  Token.read "#[allow(dead_code)]" ++
    Token.read "fn format_context(context: &Option<std::borrow::Cow<'static, str>>)" ++
    Token.read "-> std::borrow::Cow<'static, str>" ++
    Token.inBraces
      (Token.read
        ("context.as_ref().map_or(std::borrow::Cow::Borrowed(\"\")," ++
          "|c| std::borrow::Cow::Owned(format!(\" (\x7bc\x7d)\")))"))

def deriveTokens (ps : List Path) : List Token :=
  if ps.isEmpty then []
  else
    .mark '#' :: Token.inBrackets
      (.word "derive" :: Token.inParens (Token.commas (ps.map Path.tokens)))

/-- The derived code as tokens: the enum itself, then what is made for it. -/
def tokens (code : ErrorCode) : List Token :=
  Token.read "#[allow(non_shorthand_field_patterns)]" ++ deriveTokens code.derives ++
    code.header.enumTokens code.variants ++ code.traitTokens ++
    code.impls.flatMap (implTokens code.header) ++ formatTokens

end ErrorCode

end EventBus.Derive
