import SchemaLint.Schema.Dialect

/-!
# Keywords

A keyword is named by its meaning.  The same name can mean different things in different drafts, and then it stands for
different keywords here; a name that a draft does not know stands for none and asserts nothing.
-/

namespace SchemaLint

namespace Schema

/-- What a keyword of a schema asserts. -/
inductive Keyword
  | reference
  | recursiveReference
  | additionalItems
  | additionalProperties
  | allOf
  | anyOf
  | oneOf
  | not
  | conditional
  | const
  | enum
  | contains
  | containsBetween
  /-- A member demands others or a schema; one name may stand alone. -/
  | dependenciesOfAnyKind
  | dependencies
  | dependentRequired
  | dependentSchemas
  | disallow
  | extended
  | exclusiveMaximum
  | exclusiveMinimum
  /-- The bound is exclusive if a keyword beside it says so. -/
  | maximumOrBelow
  | minimumOrAbove
  | maximum
  | minimum
  | multipleOf
  | format
  /-- One schema for all items or a list of schemas, where a truth value is no schema. -/
  | itemsOrList
  | items
  | remainingItems
  | leadingItems
  | maxItems
  | minItems
  | maxLength
  | minLength
  | maxProperties
  | minProperties
  | pattern
  | patternProperties
  | properties
  /-- Schemas for members, each of which says whether the member is required. -/
  | propertiesAndRequired
  | propertyNames
  | required
  | type
  | typeOrSchema
  | unevaluatedItems
  | unevaluatedProperties
  | uniqueItems
  deriving DecidableEq

namespace Keyword

def shared : List (String × Keyword) :=
  [("$ref", reference), ("additionalProperties", additionalProperties), ("enum", enum), ("format", format),
    ("maxItems", maxItems), ("maxLength", maxLength), ("minItems", minItems), ("minLength", minLength),
    ("pattern", pattern), ("patternProperties", patternProperties), ("uniqueItems", uniqueItems)]

def sinceDraft4 : List (String × Keyword) :=
  [("allOf", allOf), ("anyOf", anyOf), ("maxProperties", maxProperties), ("minProperties", minProperties),
    ("multipleOf", multipleOf), ("not", not), ("oneOf", oneOf), ("properties", properties), ("required", required),
    ("type", type)]

def sinceDraft6 : List (String × Keyword) :=
  [("const", const), ("exclusiveMaximum", exclusiveMaximum), ("exclusiveMinimum", exclusiveMinimum),
    ("maximum", maximum), ("minimum", minimum), ("propertyNames", propertyNames)]

/-- The keywords that came with draft 2019-09, apart from recursive references. -/
def sinceDraft2019 : List (String × Keyword) :=
  [("if", conditional), ("contains", containsBetween), ("dependentRequired", dependentRequired),
    ("dependentSchemas", dependentSchemas), ("unevaluatedItems", unevaluatedItems),
    ("unevaluatedProperties", unevaluatedProperties)]

def table : Dialect → List (String × Keyword)
  | .draft3 =>
    shared ++
      [("additionalItems", additionalItems), ("dependencies", dependenciesOfAnyKind), ("disallow", disallow),
        ("divisibleBy", multipleOf), ("extends", extended), ("items", itemsOrList), ("maximum", maximumOrBelow),
        ("minimum", minimumOrAbove), ("properties", propertiesAndRequired), ("type", typeOrSchema)]
  | .draft4 =>
    shared ++ sinceDraft4 ++
      [("additionalItems", additionalItems), ("dependencies", dependencies), ("items", itemsOrList),
        ("maximum", maximumOrBelow), ("minimum", minimumOrAbove)]
  | .draft6 =>
    shared ++ sinceDraft4 ++ sinceDraft6 ++
      [("additionalItems", additionalItems), ("contains", contains), ("dependencies", dependencies), ("items", items)]
  | .draft7 =>
    shared ++ sinceDraft4 ++ sinceDraft6 ++
      [("additionalItems", additionalItems), ("contains", contains), ("dependencies", dependencies), ("if", conditional),
        ("items", items)]
  | .draft2019 =>
    shared ++ sinceDraft4 ++ sinceDraft6 ++ sinceDraft2019 ++
      [("$recursiveRef", recursiveReference), ("additionalItems", additionalItems), ("items", items)]
  | .draft2020 =>
    shared ++ sinceDraft4 ++ sinceDraft6 ++ sinceDraft2019 ++
      [("$dynamicRef", reference), ("items", remainingItems), ("prefixItems", leadingItems)]

/-- The table of a draft with its names as texts. -/
def texts (d : Dialect) : List (Text × Keyword) :=
  (table d).map fun (name, keyword) => (Text.ofString name, keyword)

/-- The tables of all drafts, made once. -/
def tables : List (Dialect × List (Text × Keyword)) :=
  Dialect.all.map fun d => (d, texts d)

/-- The keyword that a name stands for in a draft. -/
def ofName? (d : Dialect) (name : Text) : Option Keyword :=
  ((tables.lookup d).getD []).lookup name

end Keyword

end Schema

end SchemaLint
