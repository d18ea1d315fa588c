import EventBus.Derive.Attribute

/-!
Items that code is derived for: structs, enums and unions, with attributes, visibility, generic
parameters and conditions on them.  An enum is also written again, in front of what is derived.
-/

namespace EventBus.Derive

/-- A field without its name. -/
structure Field where
  attributes : List Attribute
  visibility : List Token
  type : TypeExpr
deriving Repr

/-- A field with its name. -/
structure NamedField extends Field where
  name : String
deriving Repr

/-- The fields of a struct or of a variant. -/
inductive Fields where
  | named (fields : List NamedField)
  | positional (fields : List Field)
  | unit
deriving Repr

/-- A variant of an enum. -/
structure Variant where
  attributes : List Attribute
  name : String
  fields : Fields
  /-- The number that the variant is given, after an equals sign; it may be empty. -/
  discriminant : List Token
deriving Repr

/-- The contents of an item. -/
inductive Body where
  | struct (fields : Fields)
  | enum (variants : List Variant)
  | union (fields : List NamedField)
deriving Repr

/-- What stands before the contents of an item. -/
structure Header where
  attributes : List Attribute
  visibility : List Token
  name : String
  generics : Generics
  conditions : List Token
deriving Repr

/-- An item. -/
structure Item extends Header where
  body : Body
deriving Repr

/-- How a field is reached in a value: by its name, or by its place among all fields. -/
inductive Member where
  | named (name : String)
  | index (place : Nat)
deriving DecidableEq, Repr

namespace Member

def tokens : Member → List Token
  | named n => [.word n]
  | index i => [.literal (toString i)]

end Member

namespace Fields

def members : Fields → List (Member × Field)
  | named fields => fields.map fun f => (.named f.name, f.toField)
  | positional fields => fields.zipIdx.map fun (f, i) => (.index i, f)
  | unit => []

end Fields

/-! ### Items as tokens -/

namespace Header

def whereTokens (h : Header) : List Token :=
  if h.conditions.isEmpty then [] else .word "where" :: h.conditions

def implementation (h : Header) (trait body : List Token) : List Token :=
  .word "impl" :: h.generics.listed GenericParam.bounded ++ trait ++
    .word "for" :: .word h.name :: h.generics.listed GenericParam.use ++ h.whereTokens ++
    Token.inBraces body

end Header

namespace Field

def tokens (f : Field) : List Token :=
  Attribute.outer f.attributes ++ f.visibility ++ f.type.tokens

end Field

namespace NamedField

def tokens (f : NamedField) : List Token :=
  Attribute.outer f.attributes ++ f.visibility ++ .word f.name :: .mark ':' :: f.type.tokens

end NamedField

namespace Fields

def tokens : Fields → List Token
  | named fields => Token.inBraces (Token.commas (fields.map NamedField.tokens))
  | positional fields => Token.inParens (Token.commas (fields.map Field.tokens))
  | unit => []

end Fields

namespace Variant

def tokens (v : Variant) : List Token :=
  Attribute.outer v.attributes ++ .word v.name :: v.fields.tokens ++ v.discriminant

end Variant

def Header.enumTokens (h : Header) (variants : List Variant) : List Token :=
  Attribute.outer h.attributes ++ h.visibility ++
    .word "enum" :: .word h.name :: h.generics.listed GenericParam.declared ++ h.whereTokens ++
    Token.inBraces (Token.commas (variants.map Variant.tokens))

end EventBus.Derive
